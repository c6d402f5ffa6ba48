import Hindsight.Time.Calendar
import Mathlib.Algebra.Order.BigOperators.Group.List
import Mathlib.Algebra.Order.Monoid.Canonical.Defs
import Mathlib.Algebra.Order.Ring.Nat

/-!
# Days and their dates

A day does not lie before the first day of its year (`daysBeforeYear_yearOf_le`), and it lies before
the year after its own (`lt_daysBeforeYear_yearOf`). The months of a year are split so that the days
before the month and the day of the month make up the day of the year (`splitMonths_spec`). So the
date of a day is a valid one (`isValid_civilOf`), and its number is that of the day
(`dayNumber_civilOf`). Years and months come in order, hence a month has begun on a day just if it
is not later than the month of the day (`dayNumber_first_le_iff`).
-/

namespace Hindsight
namespace Time

/-- **A day does not lie before its year.** The year is guessed from the length of four hundred
years and then put right. -/
theorem daysBeforeYear_yearOf_le (n : Int) : daysBeforeYear (yearOf n) ≤ n := by
  rw [yearOf]
  split
  · -- The guess is a year too late. The average length of a year bounds the days before the guess.
    simp only [daysBeforeYear]
    omega
  · split
    · next reached => exact reached
    · next not_before _ => omega

/-- A day is told by the days before its year and those of the year before it. -/
theorem daysBeforeYear_add_dayOfYear (n : Int) :
    daysBeforeYear (yearOf n) + dayOfYear n = n := by
  have := daysBeforeYear_yearOf_le n
  rw [dayOfYear]
  omega

/-- **The days before a month and in it** make up the day of the year, by induction on the lengths
of the months. -/
theorem splitMonths_spec (month n : Nat) (lengths : List Nat) :
    month ≤ (splitMonths month n lengths).1 ∧ 1 ≤ (splitMonths month n lengths).2 ∧
      (lengths.take ((splitMonths month n lengths).1 - month)).sum +
        ((splitMonths month n lengths).2 - 1) = n := by
  induction lengths generalizing month n with
  | nil => simp [splitMonths]
  | cons len rest ih =>
    rw [splitMonths]
    split
    · simp
    · next later =>
      obtain ⟨after, positive, sum⟩ := ih (month + 1) (n - len)
      have step : (splitMonths (month + 1) (n - len) rest).1 - month =
          (splitMonths (month + 1) (n - len) rest).1 - (month + 1) + 1 := by omega
      refine ⟨by omega, positive, ?_⟩
      rw [step, List.take_succ_cons, List.sum_cons]
      omega

/-- The days before a month are those of the months before it, told as a sum, so what is known of
sums applies. -/
theorem daysBeforeMonth_eq (leap : Bool) (m : Nat) :
    daysBeforeMonth leap m = ((monthLengths leap).take (m - 1)).sum := by
  rw [daysBeforeMonth, ← List.sum_eq_foldl_nat]

/-- The days of the year before a day are those of the months before and of the month before it. -/
theorem daysBeforeMonth_add_day (n : Int) :
    daysBeforeMonth (isLeap (yearOf n)) (civilOf n).month + ((civilOf n).day - 1) =
      dayOfYear n := by
  obtain ⟨-, -, sum⟩ := splitMonths_spec 1 (dayOfYear n) (monthLengths (isLeap (yearOf n)))
  rw [daysBeforeMonth_eq]
  exact sum

/-- **A day lies before the year after its own.** With the lemma on its start this puts a day into
its year. -/
theorem lt_daysBeforeYear_yearOf (n : Int) : n < daysBeforeYear (yearOf n + 1) := by
  rw [yearOf]
  split
  · next early => rwa [Int.sub_add_cancel]
  · split
    · -- The guess is a year too early. The average length of a year bounds the days after it.
      simp only [daysBeforeYear]
      omega
    · next late => exact Int.not_le.1 late

/-- A year has the days of its months. Here the rule of leap years meets the count of days before a
year. -/
theorem daysBeforeYear_succ (y : Int) :
    daysBeforeYear (y + 1) = daysBeforeYear y + (monthLengths (isLeap y)).sum := by
  have length : ((monthLengths (isLeap y)).sum : Nat) = if isLeap y then 366 else 365 := by
    cases isLeap y <;> rfl
  rw [length]
  simp only [daysBeforeYear, isLeap, Bool.and_eq_true, Bool.or_eq_true, beq_iff_eq, bne_iff_ne]
  split <;> omega

/-- A day of a year lies inside the year, which is as long as its months together. -/
theorem dayOfYear_lt (n : Int) : dayOfYear n < (monthLengths (isLeap (yearOf n))).sum := by
  have before := lt_daysBeforeYear_yearOf n
  have whole := daysBeforeYear_add_dayOfYear n
  rw [daysBeforeYear_succ] at before
  omega

/-- **A day of the year lies in one of its months.** A day past the end of the year would run
through all of them. -/
theorem splitMonths_lt (month : Nat) {n : Nat} {lengths : List Nat} (h : n < lengths.sum) :
    ∃ len, lengths[(splitMonths month n lengths).1 - month]? = some len ∧
      (splitMonths month n lengths).2 ≤ len := by
  induction lengths generalizing month n with
  | nil => simp at h
  | cons len rest ih =>
    rw [splitMonths]
    split
    · next here => exact ⟨len, by simp, here⟩
    · next later =>
      rw [List.sum_cons] at h
      have after := (splitMonths_spec (month + 1) (n - len) rest).1
      obtain ⟨len', at_, within⟩ := ih (month + 1) (show n - len < rest.sum by omega)
      refine ⟨len', ?_, within⟩
      have step : (splitMonths (month + 1) (n - len) rest).1 - month =
          (splitMonths (month + 1) (n - len) rest).1 - (month + 1) + 1 := by omega
      rw [step, List.getElem?_cons_succ]
      exact at_

/-- The date of a day is a month of its year and a day of that month. -/
theorem civilOf_spec (n : Int) :
    1 ≤ (civilOf n).month ∧ 1 ≤ (civilOf n).day ∧
      (monthLengths (isLeap (civilOf n).year))[(civilOf n).month - 1]? =
        some (monthLength (isLeap (civilOf n).year) (civilOf n).month) ∧
      (civilOf n).day ≤ monthLength (isLeap (civilOf n).year) (civilOf n).month := by
  obtain ⟨month, day, -⟩ := splitMonths_spec 1 (dayOfYear n) (monthLengths (isLeap (yearOf n)))
  obtain ⟨len, at_, within⟩ := splitMonths_lt 1 (dayOfYear_lt n)
  have someMonth : (civilOf n).month ≠ 0 := Nat.ne_of_gt month
  have length : monthLength (isLeap (civilOf n).year) (civilOf n).month = len := by
    rw [monthLength, if_neg someMonth]
    exact congrArg (Option.getD · 0) at_
  rw [length]
  exact ⟨month, day, at_, within⟩

/-- **The date of a day** is a valid one: its month exists and has such a day. -/
theorem isValid_civilOf (n : Int) : (civilOf n).isValid = true := by
  obtain ⟨-, positive, -, within⟩ := civilOf_spec n
  simp [Civil.isValid, positive, within]

/-- **The number of the date of a day** is that of the day, so no day is lost on the way to dates
and back. -/
theorem dayNumber_civilOf (n : Int) : (civilOf n).dayNumber = n := by
  rw [Civil.dayNumber]
  show daysBeforeYear (yearOf n) + ((daysBeforeMonth (isLeap (yearOf n)) (civilOf n).month +
    ((civilOf n).day - 1) : Nat) : Int) = n
  rw [daysBeforeMonth_add_day, daysBeforeYear_add_dayOfYear]

/-- The month of a date is one of twelve. -/
theorem month_civilOf_le (n : Int) : (civilOf n).month ≤ 12 := by
  obtain ⟨-, -, at_, -⟩ := civilOf_spec n
  have inside := (List.getElem?_eq_some_iff.1 at_).1
  have length : (monthLengths (isLeap (civilOf n).year)).length = 12 := rfl
  omega

/-- The day of a date is one of thirty-one, whatever its month. -/
theorem day_civilOf_le (n : Int) : (civilOf n).day ≤ 31 := by
  obtain ⟨-, -, at_, within⟩ := civilOf_spec n
  have each : ∀ leap, ∀ len ∈ monthLengths leap, len ≤ 31 := by decide
  exact Nat.le_trans within (each _ _ (List.mem_of_getElem? at_))

section Order

/-- Later years begin later, by induction on the years between them. -/
theorem daysBeforeYear_mono {y z : Int} (le : y ≤ z) : daysBeforeYear y ≤ daysBeforeYear z := by
  simp only [daysBeforeYear]
  omega

/-- **A year has begun** on a day just if it is not later than the year of the day. This determines
the year. -/
theorem daysBeforeYear_le_iff {y n : Int} : daysBeforeYear y ≤ n ↔ y ≤ yearOf n := by
  constructor
  · intro begun
    by_contra late
    have next := daysBeforeYear_mono (show yearOf n + 1 ≤ y by omega)
    have before := lt_daysBeforeYear_yearOf n
    omega
  · intro le
    exact Int.le_trans (daysBeforeYear_mono le) (daysBeforeYear_yearOf_le n)

/-- Later months begin later, in a leap year and in any other. -/
theorem daysBeforeMonth_mono (leap : Bool) {m k : Nat} (le : m ≤ k) :
    daysBeforeMonth leap m ≤ daysBeforeMonth leap k := by
  have longer :
      List.Sublist ((monthLengths leap).take (m - 1)) ((monthLengths leap).take (k - 1)) :=
    List.take_sublist_take_left (by omega)
  rw [daysBeforeMonth_eq, daysBeforeMonth_eq]
  exact longer.sum_le_sum fun _ _ => Nat.zero_le _

/-- No more days come before a month than the year has. -/
theorem daysBeforeMonth_le_sum (leap : Bool) (m : Nat) :
    daysBeforeMonth leap m ≤ (monthLengths leap).sum := by
  rw [daysBeforeMonth_eq]
  exact (List.take_sublist _ _).sum_le_sum fun _ _ => Nat.zero_le _

/-- A day of the year lies before the month after its own. -/
theorem dayOfYear_lt_daysBeforeMonth (n : Int) :
    dayOfYear n < daysBeforeMonth (isLeap (yearOf n)) ((civilOf n).month + 1) := by
  obtain ⟨month, positive, at_, within⟩ := civilOf_spec n
  have whole := daysBeforeMonth_add_day n
  have step : (civilOf n).month + 1 - 1 = (civilOf n).month - 1 + 1 := by omega
  rw [daysBeforeMonth_eq] at whole ⊢
  rw [step, List.take_add_one, List.sum_append]
  have length : (monthLengths (isLeap (yearOf n)))[(civilOf n).month - 1]? =
      some (monthLength (isLeap (civilOf n).year) (civilOf n).month) := at_
  rw [length, Option.toList_some, List.sum_singleton]
  omega

/-- A month of the year of a day has begun on it just if it is not later than the month of the
day. -/
theorem daysBeforeMonth_le_iff {m : Nat} {n : Int} :
    daysBeforeMonth (isLeap (yearOf n)) m ≤ dayOfYear n ↔ m ≤ (civilOf n).month := by
  constructor
  · intro begun
    by_contra late
    have next := daysBeforeMonth_mono (isLeap (yearOf n))
      (show (civilOf n).month + 1 ≤ m by omega)
    have before := dayOfYear_lt_daysBeforeMonth n
    omega
  · intro le
    have own := daysBeforeMonth_add_day n
    have earlier := daysBeforeMonth_mono (isLeap (yearOf n)) le
    omega

/-- **A month has begun** on a day just if its year is earlier than that of the day, or it is a
month of the same year and not later than the month of the day. -/
theorem dayNumber_first_le_iff {y : Int} {m : Nat} {n : Int} :
    (⟨y, m, 1⟩ : Civil).dayNumber ≤ n ↔
      y < (civilOf n).year ∨ y = (civilOf n).year ∧ m ≤ (civilOf n).month := by
  show daysBeforeYear y + (daysBeforeMonth (isLeap y) m + (1 - 1) : Nat) ≤ n ↔
    y < yearOf n ∨ y = yearOf n ∧ m ≤ (civilOf n).month
  rcases lt_trichotomy y (yearOf n) with earlier | rfl | later
  · have year := daysBeforeYear_le_iff.2 (show y + 1 ≤ yearOf n by omega)
    have months := daysBeforeMonth_le_sum (isLeap y) m
    rw [daysBeforeYear_succ] at year
    omega
  · have whole := daysBeforeYear_add_dayOfYear n
    rw [← daysBeforeMonth_le_iff]
    omega
  · have year := daysBeforeYear_le_iff.not.2 (show ¬y ≤ yearOf n by omega)
    omega

/-- **Months come in order**: a day is not in a later month than a later day. Windows of months rest
on this. -/
theorem month_le_of_le {n k : Int} (le : n ≤ k) :
    (civilOf n).year < (civilOf k).year ∨
      (civilOf n).year = (civilOf k).year ∧ (civilOf n).month ≤ (civilOf k).month := by
  have begun : (⟨(civilOf n).year, (civilOf n).month, 1⟩ : Civil).dayNumber ≤ n :=
    dayNumber_first_le_iff.2 (.inr ⟨rfl, Nat.le_refl _⟩)
  exact dayNumber_first_le_iff.1 (Int.le_trans begun le)

end Order

end Time
end Hindsight
