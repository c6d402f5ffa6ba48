import Hindsight.Proofs.Time.Instant
import Hindsight.Proofs.Time.Window
import Mathlib.Tactic.Ring

/-!
# Windows of fixed length side by side

Outside leap seconds going some units on is adding to the nanoseconds of an instant, wherever that
stays within the range of instants (`Window.shifted_eq_some_iff`), and going back undoes it
(`Window.shiftedBack_of_shifted`). A window over the last units holds what is past at its instant
and was not yet past the units before (`Window.contains_last_iff`). So in a chain of instants that
follow each other at those units the windows meet without a gap: an instant lies in one of them just
if it is past at the last and was not yet past before the first (`Window.countP_last`), which is to
say **in the one window as long as the chain** (`Window.fixed_windows_tile`).
-/

namespace Hindsight
namespace Time
namespace Window

open Instant

variable {n : Int} {unit : TimeUnit} {inclusive : Bool} {s t u at_ : Instant}
  {later : List Instant}

/-- Going back is going on by a negative number of units. Both are refused together. -/
theorem shiftedBack_eq_shifted_neg (t : Instant) (unit : TimeUnit) (n : Int) :
    shiftedBack t unit n = shifted t unit (-n) := by
  rw [shiftedBack, shifted, TimeUnit.length?_neg, Option.bind_map]
  rfl

/-- The time between two instants fits a word of milliseconds, since the range of instants is small
beside the word. -/
theorem fits_of_nanos {ms : Int} (ht : ¬t.IsLeap) (hu : ¬u.IsLeap)
    (apart : u.nanos = t.nanos + ms * 1000000) :
    -Number.maxWord ≤ ms ∧ ms ≤ Number.maxWord := by
  have range : latest.nanos - earliest.nanos < Number.maxWord * 1000000 := by decide
  have above := earliest_le_nanos t
  have above' := earliest_le_nanos u
  have below := nanos_le_latest ht
  have below' := nanos_le_latest hu
  omega

/-- **Going some units on** outside leap seconds is adding their nanoseconds. The length in
milliseconds fits its word if there is such an instant. -/
theorem shifted_eq_some_iff (ht : ¬t.IsLeap) : shifted t unit n = some u ↔
    ¬u.IsLeap ∧ u.nanos = t.nanos + n * unit.millis * 1000000 := by
  rw [shifted, Option.bind_eq_some_iff]
  constructor
  · rintro ⟨ms, length, added⟩
    obtain ⟨-, rfl⟩ := TimeUnit.length?_eq_some_iff.1 length
    exact (addMillis_eq_some_iff ht).1 added
  · rintro ⟨hu, apart⟩
    exact ⟨n * unit.millis, TimeUnit.length?_eq_some_iff.2 ⟨fits_of_nanos ht hu apart, rfl⟩,
      (addMillis_eq_some_iff ht).2 ⟨hu, apart⟩⟩

/-- **Going back undoes going on.** In a leap second it would not, so these are left out. -/
theorem shiftedBack_of_shifted (ht : ¬t.IsLeap) (h : shifted t unit n = some u) :
    shiftedBack u unit n = some t := by
  obtain ⟨hu, apart⟩ := (shifted_eq_some_iff ht).1 h
  rw [shiftedBack_eq_shifted_neg, shifted_eq_some_iff hu]
  refine ⟨ht, ?_⟩
  rw [Int.neg_mul, Int.neg_mul]
  omega

/-- **The next units at an instant** are the last units at the instant that many units later, with
the same ends on both sides. -/
theorem bounds_next_eq_bounds_last (ht : ¬t.IsLeap) (h : shifted t unit n = some u) :
    (next n unit).bounds t inclusive = (last n unit).bounds u inclusive := by
  simp only [bounds, h, shiftedBack_of_shifted ht h, pastEnd, futureStart]

/-- **A window over the last units** holds what is past at its instant and was not yet past the
units before. -/
theorem contains_last_iff : ((last n unit).bounds at_ inclusive).contains t = true ↔
    (∀ start ∈ shiftedBack at_ unit n, ¬IsPast inclusive start t) ∧ IsPast inclusive at_ t := by
  have upper : ((last n unit).bounds at_ inclusive).upper = pastEnd inclusive at_ := rfl
  rw [Bounds.contains, Bool.and_eq_true, reaches_iff_isPast upper, Bool.not_eq_true',
    Bounds.isBefore, bounds]
  refine and_congr_left fun _ => ?_
  cases shiftedBack at_ unit n with
  | none => simp
  | some start => cases inclusive <;> simp [isPast_true_iff, isPast_false_iff]

section Chain

variable (hat : ¬at_.IsLeap)
  (chain : (at_ :: later).IsChain fun p q => shifted p unit n = some q)

include hat chain

/-- The last instant of a chain comes after the first by the units between them, by induction on the
chain. -/
theorem nanos_getLast : ¬((at_ :: later).getLast (by simp)).IsLeap ∧
    ((at_ :: later).getLast (by simp)).nanos =
      at_.nanos + later.length * (n * unit.millis * 1000000) := by
  induction later generalizing at_ with
  | nil => simp [hat]
  | cons u rest ih =>
    obtain ⟨step, more⟩ := List.isChain_cons_cons.1 chain
    obtain ⟨hu, apart⟩ := (shifted_eq_some_iff hat).1 step
    obtain ⟨regular, whole⟩ := ih hu more
    simp only [List.getLast_cons_cons]
    refine ⟨regular, ?_⟩
    rw [whole, apart, List.length_cons]
    push_cast
    ring

/-- The units of all steps of a chain lead back to the same start from its last instant as those of
one step from its first. -/
theorem shiftedBack_getLast :
    shiftedBack ((at_ :: later).getLast (by simp)) unit (n * (later.length + 1)) =
      shiftedBack at_ unit n := by
  obtain ⟨regular, whole⟩ := nanos_getLast hat chain
  refine Option.ext fun start => ?_
  rw [shiftedBack_eq_shifted_neg, shiftedBack_eq_shifted_neg, shifted_eq_some_iff regular,
    shifted_eq_some_iff hat, whole]
  have same : at_.nanos + later.length * (n * unit.millis * 1000000) +
      -(n * (later.length + 1)) * unit.millis * 1000000 =
        at_.nanos + -n * unit.millis * 1000000 := by ring
  rw [same]

/-- The last instant of a chain does not come before the first. -/
theorem le_getLast (positive : 0 < n) : at_ ≤ (at_ :: later).getLast (by simp) := by
  obtain ⟨regular, whole⟩ := nanos_getLast hat chain
  have step := unit.mul_millis_pos positive
  have far : 0 ≤ later.length * (n * unit.millis * 1000000) :=
    Int.mul_nonneg (Int.natCast_nonneg _) (by omega)
  rw [le_iff_nanos hat regular, whole]
  omega

/-- **The windows at the instants of a chain** hold between them, each once, what is past at the
last instant and was not yet past the units before the first. -/
theorem countP_last (positive : 0 < n) (t : Instant) :
    (at_ :: later).countP (fun p => ((last n unit).bounds p inclusive).contains t) =
      if (∀ start ∈ shiftedBack at_ unit n, ¬IsPast inclusive start t) ∧
        IsPast inclusive ((at_ :: later).getLast (by simp)) t then 1 else 0 := by
  induction later generalizing at_ with
  | nil => simp [List.countP_cons, contains_last_iff]
  | cons u rest ih =>
    obtain ⟨step, more⟩ := List.isChain_cons_cons.1 chain
    obtain ⟨hu, -⟩ := (shifted_eq_some_iff hat).1 step
    have behind := ih hu more
    simp only [shiftedBack_of_shifted hat step, Option.mem_some_iff, forall_eq'] at behind
    have from_start (early : ¬∀ start ∈ shiftedBack at_ unit n, ¬IsPast inclusive start t) :
        IsPast inclusive at_ t := by
      push Not at early
      obtain ⟨start, hstart, past⟩ := early
      exact past.mono (le_of_lt (shiftedBack_lt positive hstart))
    have to_last (past : IsPast inclusive at_ t) :
        IsPast inclusive ((at_ :: u :: rest).getLast (by simp)) t :=
      past.mono (le_getLast hat chain positive)
    rw [List.getLast_cons_cons] at to_last
    rw [List.countP_cons, behind]
    simp only [contains_last_iff, List.getLast_cons_cons]
    -- what is past at the first instant is left out of the windows behind it
    by_cases past : IsPast inclusive at_ t
    · simp [past, to_last past]
    · have late := not_imp_comm.1 from_start past
      simp only [past, and_iff_right late]
      simp

end Chain

/-- **Windows of fixed length tile time.** The next units at an instant are the last units at the
instant that follows it by so many. At the instants of a chain that follow each other at those
units, no instant lies in more than one of the windows over the last units, and it lies in one just
if it lies in the one window at the end that is as long as all of them. -/
theorem fixed_windows_tile (positive : 0 < n) (hat : ¬at_.IsLeap) :
    (∀ u, shifted at_ unit n = some u →
      (next n unit).bounds at_ inclusive = (last n unit).bounds u inclusive) ∧
    ∀ later : List Instant, (at_ :: later).IsChain (fun p q => shifted p unit n = some q) →
      ∀ t, let hits := (at_ :: later).countP fun p =>
          ((last n unit).bounds p inclusive).contains t
        hits ≤ 1 ∧ (hits = 1 ↔ ((last (n * (later.length + 1)) unit).bounds
          ((at_ :: later).getLast (by simp)) inclusive).contains t = true) := by
  refine ⟨fun u h => bounds_next_eq_bounds_last hat h, fun later chain t => ?_⟩
  dsimp only
  rw [countP_last hat chain positive, contains_last_iff, shiftedBack_getLast hat chain]
  split
  · next within => simpa using within
  · next outside => simpa using outside

/-- Midday of three days in a row, each taken with the day before it. The first midday is the end of
the first day and does not lie in the second. -/
theorem fixed_windows_tile_middays :
    let midday (day : Int) (h : InRange day 43200 0) : Instant := ⟨day, 43200, 0, h⟩
    let first := midday 5 (by decide)
    let second := midday 6 (by decide)
    let third := midday 7 (by decide)
    ((0 : Int) < 1 ∧ ¬first.IsLeap ∧ shifted first .day 1 = some second ∧
      [first, second, third].IsChain fun p q => shifted p .day 1 = some q) ∧
    (next 1 .day).bounds first true = (last 1 .day).bounds second true ∧
      [first, second, third].countP
        (fun p => ((last 1 .day).bounds p true).contains first) = 1 := by
  intro midday first second third
  have chain : [first, second, third].IsChain fun p q => shifted p .day 1 = some q := by decide
  obtain ⟨across, along⟩ := @fixed_windows_tile 1 .day true first (by decide) (by decide)
  refine ⟨⟨by decide, by decide, by decide, chain⟩, across second (by decide), ?_⟩
  exact (along [second, third] chain first).2.2 (by decide)

end Window
end Time
end Hindsight
