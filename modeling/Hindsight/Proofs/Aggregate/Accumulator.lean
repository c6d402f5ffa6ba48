import Hindsight.Aggregate.Accumulator
import Hindsight.Proofs.Except
import Mathlib.Data.List.Induction

/-!
# Accumulators and their inputs

An accumulator changes its function by no input (`Accumulator.function_absorb`). Whether it takes an
input depends on its function and the value alone (`Accumulator.fails_add_iff`), and after some
inputs it is what its function makes of those that are not null (`Accumulator.ofInputs`).
-/

namespace Hindsight
namespace Accumulator

/-- A function refuses a value: it is numeric and the value is neither a number nor null. -/
def Refuses (f : AggregateFunction) (v : Value) : Prop := Fails (accepts f v)

/-- A numeric function refuses what is neither null nor a number, and no other function refuses
anything. -/
theorem refuses_iff {f : AggregateFunction} {v : Value} :
    Refuses f v ↔ v.isNull = false ∧ f.isNumeric = true ∧ v.isNumeric = false := by
  unfold Refuses accepts
  split
  · simp [Fails, *]
  · split
    · simp_all [Fails]
    · simp_all [Fails]

/-- A function that is decided by the values that can still win refuses none. It only compares
values, and values that do not compare are passed over, so it has no use for numbers in
particular. -/
theorem not_refuses_of_isSelective {f : AggregateFunction} (h : f.isSelective = true) (v : Value) :
    ¬Refuses f v := by
  rw [refuses_iff]
  cases f <;> simp_all [AggregateFunction.isSelective, AggregateFunction.isNumeric]

/-- A value that is not refused is taken, and counts unless it is null. So of the three answers to
an input only the refusal depends on the function. -/
theorem accepts_of_not_refuses {f : AggregateFunction} {v : Value} (h : ¬Refuses f v) :
    accepts f v = .ok (!v.isNull) := by
  rw [refuses_iff] at h
  unfold accepts
  split
  · simp_all
  · simp_all

/-- Taking an input in changes no function, by the cases of accumulators. -/
@[simp] theorem function_absorb (a : Accumulator) (i : Input) :
    (a.absorb i).function = a.function := by
  cases a <;> rfl

/-- The accumulator after an input, which it passes over if it is null. -/
def extend (a : Accumulator) (i : Input) : Accumulator :=
  if i.value.isNull then a else a.absorb i

/-- An input that is taken or passed over changes no function. -/
@[simp] theorem function_extend (a : Accumulator) (i : Input) :
    (a.extend i).function = a.function := by
  unfold extend
  split
  · rfl
  · exact function_absorb a i

/-- **An accumulator takes every input that its function does not refuse,** and is then extended by
it. All that is said about accumulators after inputs goes through this step and `fails_add_iff`. -/
theorem add_of_not_refuses {a : Accumulator} {i : Input} (h : ¬Refuses a.function i.value) :
    a.add i = .ok (a.extend i) := by
  rw [add, accepts_of_not_refuses h, extend]
  cases i.value.isNull <;> rfl

/-- **An accumulator fails on an input just if its function refuses the value**: neither the time
nor what is held matters. -/
theorem fails_add_iff {a : Accumulator} {i : Input} :
    Fails (a.add i) ↔ Refuses a.function i.value := by
  constructor
  · intro fails
    by_contra accepted
    exact not_fails_of_eq_ok (add_of_not_refuses accepted) fails
  · rintro ⟨e, he⟩
    exact ⟨e, by rw [add, he]; rfl⟩

/-- An accumulator over the values of its inputs folds as what it holds does. This is for functions
that never look at the time of an input, so that a law of the fold over values becomes one of the
accumulator. -/
theorem foldl_absorb_of_values {σ : Type} (wrap : σ → Accumulator) {step : σ → Value → σ}
    (h : ∀ s i, (wrap s).absorb i = wrap (step s i.value)) (is : List Input) (s : σ) :
    is.foldl absorb (wrap s) = wrap ((is.map Input.value).foldl step s) := by
  rw [List.foldl_map]
  exact List.foldl_hom wrap h

/-- The inputs that are not null. -/
def counted (is : List Input) : List Input := is.filter fun i => !i.value.isNull

/-- The accumulator of a function after some inputs. -/
def ofInputs (f : AggregateFunction) (is : List Input) : Accumulator :=
  (counted is).foldl absorb (empty f)

/-- Without inputs an accumulator is empty. -/
@[simp] theorem ofInputs_nil (f : AggregateFunction) : ofInputs f [] = empty f := rfl

/-- One more input extends the accumulator. Inductions on inputs go from the end for this reason:
the last input is the one that was taken last. -/
theorem ofInputs_concat (f : AggregateFunction) (is : List Input) (i : Input) :
    ofInputs f (is ++ [i]) = (ofInputs f is).extend i := by
  rw [ofInputs, counted, List.filter_append, List.foldl_append, extend]
  cases h : i.value.isNull <;> simp [h, ofInputs, counted]

/-- The accumulator of some inputs has the function that it was made for. -/
@[simp] theorem function_ofInputs (f : AggregateFunction) (is : List Input) :
    (ofInputs f is).function = f := by
  induction is using List.reverseRecOn with
  | nil => exact function_empty f
  | append_singleton is i ih => rw [ofInputs_concat, function_extend, ih]

/-- **An accumulator folds as what it holds does**, over the inputs that count. The first condition
says where the fold starts, the second that one input is one step of it. -/
theorem ofInputs_eq_foldl {σ : Type} {f : AggregateFunction} (wrap : σ → Accumulator)
    {step : σ → Input → σ} {s : σ} (initial : empty f = wrap s)
    (h : ∀ s i, (wrap s).absorb i = wrap (step s i)) (is : List Input) :
    ofInputs f is = wrap ((counted is).foldl step s) := by
  rw [ofInputs, initial]
  exact List.foldl_hom wrap h

/-- An accumulator is fed inputs that are not refused one after the other, and none of the steps
fails: its function stays the same, and that alone decides about the next input. -/
theorem foldlM_add_eq_ofInputs {f : AggregateFunction} {is : List Input}
    (accepted : ∀ i ∈ is, ¬Refuses f i.value) :
    is.foldlM add (empty f) = .ok (ofInputs f is) := by
  induction is using List.reverseRecOn with
  | nil => rfl
  | append_singleton is i ih =>
    have here : ¬Refuses (ofInputs f is).function i.value := by
      rw [function_ofInputs]
      exact accepted i (List.mem_append_right is List.mem_cons_self)
    rw [List.foldlM_append, ih fun j hj => accepted j (List.mem_append_left [i] hj), ok_bind,
      List.foldlM_cons, add_of_not_refuses here, ofInputs_concat]
    rfl

end Accumulator
end Hindsight
