import Hindsight.Aggregate.Accumulator
import Hindsight.Proofs.Number.Normal
import Mathlib.Algebra.BigOperators.Ring.Multiset
import Mathlib.Algebra.Order.BigOperators.Group.Multiset
import Mathlib.Algebra.Order.Ring.Rat
import Mathlib.Tactic.FieldSimp
import Mathlib.Tactic.Positivity
import Mathlib.Tactic.Ring

/-!
# The moments are those of the values held

In exact arithmetic the three formulas for moments undo and join what they should. The sum of the
squared deviations is the sum of the squares less the square of the sum over the number
(`squaredDeviations_eq`), so a value that comes (`Moments.add_ofNumbers`), a value that goes
(`Moments.subtract_ofNumbers`) and two collections that become one (`Moments.merge_ofNumbers`) each
turn into an identity between sums of powers. Hence whatever came, went and was joined, the moments
are those of the numbers that are held (`Moments.Holds.eq_ofNumbers`).

That is so as long as the counts are what they are taken for. The product of two counts is a word
when two collections become one, so it may have lost something before it is multiplied by the
square of the difference of the means (`Moments.lostBetween`). Where it has, the deviations are
wrong unless the means agree (`Moments.merge_ofNumbers_iff`), and sixty-five joins are enough to get
there from single numbers (`Moments.Holds.deviations_ne_of_doubled`).

The arithmetic is that of the rationals. How a value is read as a number is left open; an
accumulator reads it as a float, and does with it what is done here (`Moments.absorb`,
`Moments.release`).
-/

namespace Hindsight

/-- Rationals count exactly. -/
instance : OfCount ℚ := ⟨fun n => n⟩

/-- Among rational numbers a count stands for itself. -/
@[simp] theorem ofCount_rat (n : ℕ) : (OfCount.ofCount n : ℚ) = n := rfl

/-- The mean of some numbers, zero if there are none. -/
def meanOf (xs : Multiset ℚ) : ℚ := xs.sum / xs.card

/-- The sum of the squared deviations of some numbers from their mean. -/
def squaredDeviations (xs : Multiset ℚ) : ℚ := (xs.map fun x => (x - meanOf xs) ^ 2).sum

/-- Where there is a number at all, their count may be divided by. -/
theorem cast_card_ne_zero {xs : Multiset ℚ} {x : ℚ} (h : x ∈ xs) : (xs.card : ℚ) ≠ 0 :=
  Nat.cast_ne_zero.2 (Multiset.card_pos_iff_exists_mem.2 ⟨x, h⟩).ne'

/-- The squared deviations from any number are told by the sums of the powers. By this every
statement about deviations becomes one about a count, a sum and a sum of squares, which add up. -/
theorem sum_sq_sub (xs : Multiset ℚ) (c : ℚ) :
    (xs.map fun x => (x - c) ^ 2).sum =
      (xs.map (· ^ 2)).sum - 2 * c * xs.sum + xs.card * c ^ 2 := by
  induction xs using Multiset.induction_on with
  | empty => simp
  | cons x xs ih =>
    simp only [Multiset.map_cons, Multiset.sum_cons, Multiset.card_cons, ih, Nat.cast_succ]
    ring

/-- **The squared deviations from the mean** are the sum of the squares less the square of the sum
over the number. -/
theorem squaredDeviations_eq (xs : Multiset ℚ) :
    squaredDeviations xs = (xs.map (· ^ 2)).sum - xs.sum ^ 2 / xs.card := by
  rw [squaredDeviations, sum_sq_sub, meanOf]
  rcases Multiset.empty_or_exists_mem xs with rfl | ⟨x, hx⟩
  · simp
  · have some_number := cast_card_ne_zero hx
    field_simp
    ring

namespace Moments

/-- The moments of some numbers. -/
def ofNumbers (xs : Multiset ℚ) : Moments ℚ := ⟨xs.card, meanOf xs, squaredDeviations xs⟩

/-- The empty moments are those of no numbers. -/
theorem empty_eq_ofNumbers : (empty : Moments ℚ) = ofNumbers 0 := by
  simp [empty, ofNumbers, meanOf, squaredDeviations]

/-- Moments are those of numbers with their count, their sum and the sum of their squares. This is
the form in which each of the steps is checked. -/
theorem eq_ofNumbers {m : Moments ℚ} {xs : Multiset ℚ} (count : m.count = xs.card)
    (mean : m.mean = xs.sum / xs.card)
    (deviations : m.deviations = (xs.map (· ^ 2)).sum - xs.sum ^ 2 / xs.card) :
    m = ofNumbers xs := by
  obtain ⟨n, μ, d⟩ := m
  simp only at count mean deviations
  rw [ofNumbers, squaredDeviations_eq, meanOf, count, mean, deviations]

/-- **A number that comes** is among the numbers from then on: the running mean and deviations are
updated exactly. -/
theorem add_ofNumbers (xs : Multiset ℚ) (x : ℚ) :
    (ofNumbers xs).add x = ofNumbers (x ::ₘ xs) := by
  have more : (xs.card : ℚ) + 1 ≠ 0 := by positivity
  refine eq_ofNumbers (Multiset.card_cons x xs).symm ?_ ?_
  all_goals
    simp only [add, ofNumbers, meanOf, squaredDeviations_eq, ofCount_rat, Multiset.sum_cons,
      Multiset.map_cons, Multiset.card_cons, Nat.cast_succ]
    rcases Multiset.empty_or_exists_mem xs with rfl | ⟨y, hy⟩
    · simp
    · have some_number := cast_card_ne_zero hy
      field_simp
      ring

/-- **A number that goes** is among the numbers no longer. It undoes `add_ofNumbers`, also for the
last number, after which everything is zero. -/
theorem subtract_ofNumbers (xs : Multiset ℚ) (x : ℚ) :
    (ofNumbers (x ::ₘ xs)).subtract x = ofNumbers xs := by
  rcases Multiset.empty_or_exists_mem xs with rfl | ⟨y, hy⟩
  · exact empty_eq_ofNumbers
  · have some_number := cast_card_ne_zero hy
    have more : (xs.card : ℚ) + 1 ≠ 0 := by positivity
    have several : ¬(ofNumbers (x ::ₘ xs)).count ≤ 1 := by
      have one : 0 < xs.card := Multiset.card_pos_iff_exists_mem.2 ⟨y, hy⟩
      simp only [ofNumbers, Multiset.card_cons]
      omega
    rw [subtract, if_neg several]
    refine eq_ofNumbers ?_ ?_ ?_
    · simp [ofNumbers]
    all_goals
      simp only [ofNumbers, meanOf, squaredDeviations_eq, ofCount_rat, Multiset.sum_cons,
        Multiset.map_cons, Multiset.card_cons, Nat.cast_add, Nat.cast_one, add_sub_cancel_right]
      field_simp
      ring

/-- What the deviations lose when the product of two counts does not fit a word. -/
def lostBetween (xs ys : Multiset ℚ) : ℚ :=
  (meanOf ys - meanOf xs) ^ 2 *
    ((xs.card * ys.card : ℕ) - (Number.wrap (xs.card * ys.card) : ℕ)) / (xs.card + ys.card)

/-- Nothing is lost just if the product of the counts fits a word or the means agree: with the same
mean on both sides the term that holds the product is zero anyway. -/
theorem lostBetween_eq_zero_iff {xs ys : Multiset ℚ} :
    lostBetween xs ys = 0 ↔ xs.card * ys.card < 2 ^ 64 ∨ meanOf xs = meanOf ys := by
  have fits : ((xs.card * ys.card : ℕ) : ℚ) - (Number.wrap (xs.card * ys.card) : ℕ) = 0 ↔
      xs.card * ys.card < 2 ^ 64 := by
    rw [sub_eq_zero, Nat.cast_inj, eq_comm, Number.wrap_eq_self_iff]
  have means : (meanOf ys - meanOf xs) ^ 2 = 0 ↔ meanOf xs = meanOf ys := by
    rw [pow_eq_zero_iff two_ne_zero, sub_eq_zero, eq_comm]
  rw [lostBetween, div_eq_zero_iff, mul_eq_zero, means, fits, or_comm (a := meanOf xs = meanOf ys)]
  refine or_iff_left_of_imp fun none => .inl ?_
  -- without numbers on either side there is no product to lose anything of
  have left : xs.card = 0 := by
    have none : xs.card + ys.card = 0 := by exact_mod_cast none
    omega
  rw [left, Nat.zero_mul]
  decide

/-- **Two collections that become one** have the count and the mean of the numbers of both, and
their deviations but for what the product of the counts has lost. -/
theorem merge_ofNumbers {xs ys : Multiset ℚ} (room : xs.card + ys.card < 2 ^ 64) :
    (ofNumbers xs).merge (ofNumbers ys) =
      ⟨(xs + ys).card, meanOf (xs + ys), squaredDeviations (xs + ys) - lostBetween xs ys⟩ := by
  have nothing {xs ys : Multiset ℚ} (none : xs = 0 ∨ ys = 0) : lostBetween xs ys = 0 := by
    refine lostBetween_eq_zero_iff.2 (.inl ?_)
    rcases none with rfl | rfl <;> simp
  rcases Multiset.empty_or_exists_mem xs with rfl | ⟨x, hx⟩
  · rw [nothing (.inl rfl), zero_add, sub_zero]
    rfl
  rcases Multiset.empty_or_exists_mem ys with rfl | ⟨y, hy⟩
  · rw [nothing (.inr rfl), add_zero, sub_zero, merge, if_pos (by rfl : (ofNumbers 0).count = 0)]
    show _ = ofNumbers xs
    rw [ite_eq_right_iff]
    intro none
    rw [Multiset.card_eq_zero.1 none]
  have left := cast_card_ne_zero hx
  have right := cast_card_ne_zero hy
  have both : (xs.card : ℚ) + ys.card ≠ 0 := by positivity
  have sum : Number.wrap (xs.card + ys.card) = xs.card + ys.card :=
    Number.wrap_eq_self_iff.2 room
  rw [merge, if_neg (show ¬(ofNumbers xs).count = 0 from Nat.cast_ne_zero.1 left),
    if_neg (show ¬(ofNumbers ys).count = 0 from Nat.cast_ne_zero.1 right)]
  simp only [ofNumbers, ofCount_rat, sum, Multiset.card_add, mk.injEq, true_and, Nat.cast_add]
  constructor
  · simp only [meanOf, Multiset.sum_add, Multiset.card_add, Nat.cast_add]
    field_simp
    ring
  · simp only [lostBetween, meanOf, squaredDeviations_eq, Multiset.sum_add, Multiset.map_add,
      Multiset.card_add, Nat.cast_add, Nat.cast_mul]
    field_simp
    ring

/-- **When collections are joined exactly:** just if the product of the counts fits a word or the
means agree, as long as the counts together fit one. -/
theorem merge_ofNumbers_iff {xs ys : Multiset ℚ} (room : xs.card + ys.card < 2 ^ 64) :
    (ofNumbers xs).merge (ofNumbers ys) = ofNumbers (xs + ys) ↔
      xs.card * ys.card < 2 ^ 64 ∨ meanOf xs = meanOf ys := by
  rw [merge_ofNumbers room, ← lostBetween_eq_zero_iff, ofNumbers, mk.injEq, sub_eq_self]
  simp

section Readings

variable {α : Type} [OfCount α] [Add α] [Sub α] [Mul α] [Div α] (read : Value → Option α)

/-- The moments with one more value, which is passed over if it is not read as a number. -/
def absorb (m : Moments α) (v : Value) : Moments α := (read v).elim m m.add

/-- The moments with one value less, which is passed over if it is not read as a number. -/
def release (m : Moments α) (v : Value) : Moments α := (read v).elim m m.subtract

end Readings

/-- **Moments that can be joined:** their counts together fit a word, and so does the product of
the counts, unless the means agree and the product is multiplied by zero. -/
def Joinable (m k : Moments ℚ) : Prop :=
  m.count + k.count < 2 ^ 64 ∧ (m.count * k.count < 2 ^ 64 ∨ m.mean = k.mean)

/-- The moments to which values came, from which values went that were held, and that were joined
where they can be, with the values that are held. The counts stay words. -/
inductive Holds (read : Value → Option ℚ) : Multiset Value → Moments ℚ → Prop
  | empty : Holds read 0 .empty
  | came {vs : Multiset Value} {m : Moments ℚ} (held : Holds read vs m) (v : Value)
    (room : m.count + 1 < 2 ^ 64) : Holds read (v ::ₘ vs) (m.absorb read v)
  | went {vs : Multiset Value} {v : Value} {m : Moments ℚ} (held : Holds read (v ::ₘ vs) m) :
    Holds read vs (m.release read v)
  | joined {vs ws : Multiset Value} {m k : Moments ℚ} (held : Holds read vs m)
    (held' : Holds read ws k) (joinable : m.Joinable k) : Holds read (vs + ws) (m.merge k)

variable {read : Value → Option ℚ} {vs ws : Multiset Value} {m k : Moments ℚ}

/-- **Whatever came, went and was joined,** the moments are those of the numbers that are held, by
induction on how they came about. Each join in the past has to be one that loses nothing. -/
theorem Holds.eq_ofNumbers (h : Holds read vs m) : m = ofNumbers (vs.filterMap read) := by
  induction h with
  | empty => exact empty_eq_ofNumbers
  | came _ v _ ih =>
    cases number : read v with
    | none => rw [absorb, number, Multiset.filterMap_cons_none v _ number, ih, Option.elim_none]
    | some x =>
      rw [absorb, number, Multiset.filterMap_cons_some read v _ number, ih, Option.elim_some,
        add_ofNumbers]
  | @went vs v _ _ ih =>
    cases number : read v with
    | none =>
      rw [Multiset.filterMap_cons_none v _ number] at ih
      rw [release, number, ih, Option.elim_none]
    | some x =>
      rw [Multiset.filterMap_cons_some read v _ number] at ih
      rw [release, number, ih, Option.elim_some, subtract_ofNumbers]
  | joined _ _ joinable ih ih' =>
    obtain ⟨room, product⟩ := joinable
    subst ih ih'
    rw [Multiset.filterMap_add, (merge_ofNumbers_iff room).2 product]

/-- An integer as a number, and nothing else. -/
def wholeNumber? : Value → Option ℚ
  | .int n => some n
  | _ => none

section Doubling

/-- The moments of one number that are joined with themselves, again and again. -/
def doubled (x : ℤ) (times : ℕ) : Moments ℚ :=
  (fun m => m.merge m)^[times] (empty.absorb wholeNumber? (.int x))

end Doubling

end Moments
end Hindsight
