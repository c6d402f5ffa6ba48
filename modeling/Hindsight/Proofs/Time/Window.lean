import Hindsight.Proofs.Time.Calendar
import Hindsight.Proofs.Time.Instant
import Hindsight.Time.Window

/-!
# Windows that look back

A window over the last units, the past, or the year or month up to the instant of observation has no
bound after that instant (`Window.not_later_of_isBefore`, `Window.not_later_of_reaches`). For a
window of fixed length this needs that a negative length of time leads to an earlier instant
(`Instant.addMillis_lt`), and for a calendar window that a day does not lie before its month. What
such a window reaches is what is past at the instant (`Window.reaches_iff_isPast`). The first
midnight of a month is in range wherever an instant of the month is (`Window.monthStart_eq`), so the
calendar windows have a start and contain, of what is past, **exactly the same year or the same
month** (`Window.to_date_exact`).
-/

namespace Hindsight
namespace Time

namespace Instant

/-- **A negative number of milliseconds leads to an earlier instant,** from a leap second as
well. -/
theorem addMillis_lt {t u : Instant} {ms : Int} (negative : ms < 0)
    (h : t.addMillis ms = some u) : u < t := by
  obtain ⟨k, rfl⟩ : ∃ k, ms = -k := ⟨-ms, by omega⟩
  have inRange := t.inRange.2
  have seconds : (-k).tdiv 1000 = -(k / 1000) := by
    rw [Int.neg_tdiv, Int.tdiv_eq_ediv_of_nonneg (by omega)]
  have rest : (-k).tmod 1000 = -(k % 1000) := by
    rw [Int.neg_tmod, Int.tmod_eq_emod_of_nonneg (by omega)]
  show u.key < t.key
  by_cases leap : 1000000000 ≤ t.nano
  · simp only [addMillis, seconds, rest, leap, true_and, if_true] at h
    split at h
    · obtain ⟨day, second, nano⟩ := ofParts?_eq_some h
      simp only [key, day, second, nano]
      omega
    · obtain ⟨day, second, nano⟩ := ofParts?_eq_some h
      simp only [key, day, second, nano]
      split <;> omega
  · simp only [addMillis, seconds, rest, leap, false_and, if_false] at h
    obtain ⟨day, second, nano⟩ := ofParts?_eq_some h
    simp only [key, day, second, nano]
    omega

/-- An instant of an earlier day comes before one of a later day, whatever the times of day are. -/
theorem lt_of_day_lt {s t : Instant} (h : s.day < t.day) : s < t := by
  have second := s.inRange.2
  show s.key < t.key
  rw [key, key]
  omega

end Instant

namespace Window

/-- An instant is past at another if it comes before it; with the flag it may be that one. -/
def IsPast (inclusive : Bool) (at_ t : Instant) : Prop := t < at_ ∨ inclusive = true ∧ t = at_

instance (inclusive : Bool) (at_ t : Instant) : Decidable (IsPast inclusive at_ t) :=
  inferInstanceAs (Decidable (_ ∨ _))

/-- With the instant itself the past reaches up to it. -/
theorem isPast_true_iff {at_ t : Instant} : IsPast true at_ t ↔ t ≤ at_ := by
  simp [IsPast, le_iff_lt_or_eq]

/-- Without the instant itself the past ends before it. -/
theorem isPast_false_iff {at_ t : Instant} : IsPast false at_ t ↔ t < at_ := by
  simp [IsPast]

/-- What is past stays past, as the instant of observation moves on. -/
theorem IsPast.mono {inclusive : Bool} {s t u : Instant} (h : IsPast inclusive s t) (le : s ≤ u) :
    IsPast inclusive u t := by
  cases inclusive with
  | true => exact isPast_true_iff.2 ((isPast_true_iff.1 h).trans le)
  | false => exact isPast_false_iff.2 ((isPast_false_iff.1 h).trans_le le)

/-- **Bounds that end at an instant** reach what is past there. Which of the two ends they have is
told by the flag. -/
theorem reaches_iff_isPast {b : Bounds} {inclusive : Bool} {at_ t : Instant}
    (upper : b.upper = pastEnd inclusive at_) : b.reaches t = true ↔ IsPast inclusive at_ t := by
  rw [Bounds.reaches, upper]
  cases inclusive with
  | true => simp [pastEnd, isPast_true_iff]
  | false => simp [pastEnd, isPast_false_iff]

/-- A window that ends at the instant of observation and reaches back from it. -/
def LooksBack : Window → Prop
  | last n _ => 0 < n
  | past | yearToDate | monthToDate => True
  | next .. | future | allTime => False

instance (w : Window) : Decidable w.LooksBack := by
  cases w <;> unfold LooksBack <;> infer_instance

/-- Going back by a positive length leads to an earlier instant, if it leads to one. -/
theorem shiftedBack_lt {t u : Instant} {unit : TimeUnit} {n : Int} (positive : 0 < n)
    (h : shiftedBack t unit n = some u) : u < t := by
  obtain ⟨ms, length, shifted⟩ := Option.bind_eq_some_iff.1 h
  obtain ⟨-, rfl⟩ := TimeUnit.length?_eq_some_iff.1 length
  exact Instant.addMillis_lt (Int.neg_neg_of_pos (unit.mul_millis_pos positive)) shifted

section MonthStart

variable {b : Bounds} {t u : Instant} {m : Nat}

/-- **A month of the year up to an instant** starts at a midnight that is in range. The range ends
inside a year, so this has to be shown. -/
theorem monthStart_eq (started : 1 ≤ m) (reached : m ≤ t.civil.month) :
    ∃ inRange : InRange (⟨t.civil.year, m, 1⟩ : Civil).dayNumber 0 0,
      monthStart t.civil.year m = .included ⟨_, 0, 0, inRange⟩ := by
  have twelve : t.civil.month ≤ 12 := month_civilOf_le t.day
  have begun : (⟨t.civil.year, m, 1⟩ : Civil).dayNumber ≤ t.day :=
    dayNumber_first_le_iff.2 (.inr ⟨rfl, reached⟩)
  have valid : (⟨t.civil.year, m, 1⟩ : Civil).isValid = true := by
    have each : ∀ leap, ∀ m < 13, 1 ≤ m → 1 ≤ monthLength leap m := by decide
    simp [Civil.isValid, each _ m (by omega) started]
  have in_first_year : minDay ≤ (⟨t.civil.year, m, 1⟩ : Civil).dayNumber := by
    have year : -262143 ≤ t.civil.year := by
      have order := dayNumber_first_le_iff.1 t.inRange.1.1
      rw [Instant.civil]
      omega
    have days := daysBeforeYear_mono year
    have first : minDay = daysBeforeYear (-262143) := by decide
    simp only [Civil.dayNumber]
    omega
  have inRange : InRange (⟨t.civil.year, m, 1⟩ : Civil).dayNumber 0 0 :=
    ⟨⟨in_first_year, begun.trans t.inRange.1.2⟩, by decide⟩
  refine ⟨inRange, ?_⟩
  rw [monthStart, Instant.midnight?, if_pos valid, Instant.ofParts?, dif_pos inRange]

/-- **What bounds from the start of a month on leave out** lies before the month. Whole days may be
compared for it. -/
theorem isBefore_monthStart_iff (started : 1 ≤ m) (reached : m ≤ t.civil.month)
    (lower : b.lower = monthStart t.civil.year m) :
    b.isBefore u = true ↔ u.day < (⟨t.civil.year, m, 1⟩ : Civil).dayNumber := by
  obtain ⟨inRange, start⟩ := monthStart_eq started reached
  have seconds := u.inRange.2
  rw [Bounds.isBefore, lower, start, decide_eq_true_iff]
  show u.key < Instant.key _ ↔ _
  simp only [Instant.key]
  omega

/-- What lies before a month of the year up to an instant comes before the instant. -/
theorem lt_of_isBefore_monthStart (started : 1 ≤ m) (reached : m ≤ t.civil.month)
    (lower : b.lower = monthStart t.civil.year m) (h : b.isBefore u = true) : u < t := by
  have before := (isBefore_monthStart_iff started reached lower).1 h
  have begun := dayNumber_first_le_iff.2 (.inr ⟨rfl, reached⟩)
  exact Instant.lt_of_day_lt (before.trans_le begun)

end MonthStart

variable {w : Window} {t u : Instant} {inclusive : Bool}

/-- **What lies before a window that looks back** lies before the instant of observation. So a
window never starts behind it. -/
theorem not_later_of_isBefore (looksBack : w.LooksBack)
    (h : (w.bounds t inclusive).isBefore u = true) : u ≤ t := by
  cases w with
  | last n unit =>
    rw [bounds, Bounds.isBefore] at h
    cases start : shiftedBack t unit n with
    | none => simp [start] at h
    | some s =>
      have earlier := shiftedBack_lt looksBack start
      simp only [start] at h
      cases inclusive with
      | true => exact (le_of_lt (lt_of_le_of_lt (of_decide_eq_true h) earlier))
      | false => exact (le_of_lt (lt_trans (of_decide_eq_true h) earlier))
  | past => simp [bounds, Bounds.isBefore] at h
  | yearToDate =>
    exact le_of_lt (lt_of_isBefore_monthStart (le_refl 1) (civilOf_spec t.day).1 rfl h)
  | monthToDate =>
    exact le_of_lt (lt_of_isBefore_monthStart (civilOf_spec t.day).1 (le_refl _) rfl h)
  | _ => cases looksBack

/-- **What a window that looks back reaches** does not lie after the instant of observation.
Together with the above, later events are never looked at. -/
theorem not_later_of_reaches (looksBack : w.LooksBack)
    (h : (w.bounds t inclusive).reaches u = true) : u ≤ t := by
  have upper : (w.bounds t inclusive).upper = pastEnd inclusive t := by
    cases w <;> first | rfl | cases looksBack
  rcases (reaches_iff_isPast upper).1 h with before | ⟨-, rfl⟩
  · exact le_of_lt before
  · exact le_refl u

section ToDate

/-- What is past is on the same day or on an earlier one. -/
theorem day_le_of_isPast (h : IsPast inclusive t u) : u.day ≤ t.day := by
  by_contra later
  have before := Instant.lt_of_day_lt (Int.not_le.1 later)
  rcases h with earlier | ⟨-, rfl⟩
  · exact lt_asymm before earlier
  · exact lt_irrefl _ before

/-- **Bounds from the start of a month up to an instant** contain what is past at the instant and
does not lie before the month. -/
theorem contains_monthStart_iff {b : Bounds} {m : Nat} (started : 1 ≤ m)
    (reached : m ≤ t.civil.month) (lower : b.lower = monthStart t.civil.year m)
    (upper : b.upper = pastEnd inclusive t) : b.contains u = true ↔
      (t.civil.year = u.civil.year ∧ m ≤ u.civil.month) ∧ IsPast inclusive t u := by
  rw [Bounds.contains, Bool.and_eq_true, Bool.not_eq_true', ← Bool.not_eq_true,
    isBefore_monthStart_iff started reached lower, reaches_iff_isPast upper, Int.not_lt,
    dayNumber_first_le_iff]
  refine and_congr_left fun past => or_iff_right fun earlier => ?_
  have order := month_le_of_le (day_le_of_isPast past)
  rw [Instant.civil] at earlier
  omega

/-- **The calendar windows are exact.** The year to date contains what is past and of the same year,
the month to date what is past and of the same month of the same year. This holds at every instant,
leap seconds and the ends of the range included. -/
theorem to_date_exact (at_ t : Instant) (inclusive : Bool) :
    ((yearToDate.bounds at_ inclusive).contains t = true ↔
      t.civil.year = at_.civil.year ∧ (t < at_ ∨ inclusive = true ∧ t = at_)) ∧
    ((monthToDate.bounds at_ inclusive).contains t = true ↔
      (t.civil.year = at_.civil.year ∧ t.civil.month = at_.civil.month) ∧
        (t < at_ ∨ inclusive = true ∧ t = at_)) := by
  have some_month (t : Instant) : 1 ≤ t.civil.month := (civilOf_spec t.day).1
  constructor
  · rw [contains_monthStart_iff (t := at_) (le_refl 1) (some_month at_) rfl rfl]
    refine and_congr_left fun _ => ?_
    simp [some_month t, eq_comm]
  · rw [contains_monthStart_iff (t := at_) (some_month at_) (le_refl _) rfl rfl]
    refine and_congr_left fun past => ?_
    have order := month_le_of_le (day_le_of_isPast past)
    rw [Instant.civil, Instant.civil]
    omega

end ToDate

end Window

end Time
end Hindsight
