import Hindsight.Proofs.Aggregate.Accumulator
import Hindsight.Proofs.Dict
import Mathlib.Algebra.Ring.Int.Defs

/-!
# Taking back the oldest input

Which functions forget an input without a trace. Counts and tallies do so for all values. Sums and
means do so as long as all values are integers, since the total of the floats is not touched then.
For these, taking back the oldest of some inputs leaves the accumulator of the others
(`Accumulator.subtract_ofInputs`). A tally is determined by how often each key is held
(`DistinctTally.Tallies.unique`), in whichever order the values came and went.
-/

namespace Hindsight

namespace DistinctTally

/-- A tally binds to each key how often it occurs in a list, and nothing to the other keys. -/
structure Tallies (d : DistinctTally) (keys : List String) : Prop where
  ordered : d.counts.Ordered
  get? : ∀ k, d.counts.get? k = if keys.count k = 0 then none else some (keys.count k)

/-- The empty tally is that of no keys. -/
theorem tallies_empty : empty.Tallies [] := ⟨Dict.ordered_empty, fun _ => rfl⟩

namespace Tallies

variable {d e : DistinctTally} {keys keys' : List String} {v : Value}

/-- The order in which keys were counted leaves no trace in a tally. -/
theorem perm (h : d.Tallies keys) (p : keys.Perm keys') : d.Tallies keys' :=
  ⟨h.ordered, fun k => by rw [h.get?, p.count_eq]⟩

/-- **A tally is determined by how often each key is held**, because its keys are in order and none
is held zero times. -/
theorem unique (h : d.Tallies keys) (h' : e.Tallies keys) : d = e := by
  obtain ⟨counts⟩ := d
  obtain ⟨counts'⟩ := e
  have same : counts = counts' :=
    h.ordered.ext h'.ordered fun k => (h.get? k).trans (h'.get? k).symm
  rw [same]

/-- **A value that is counted** is held once more under its key. -/
theorem add (h : d.Tallies keys) : (d.add v).Tallies (v.distinctKey :: keys) := by
  refine ⟨Dict.ordered_insert h.ordered _ _, fun k => ?_⟩
  show (d.counts.insert v.distinctKey _).get? k = _
  by_cases same : k = v.distinctKey
  · rw [same, Dict.get?_insert_self, h.get?, List.count_cons_self]
    split
    · next none_held => simp [none_held]
    · simp
  · rw [Dict.get?_insert_of_ne same, h.get?, List.count_cons_of_ne (Ne.symm same)]

/-- **A value that is taken back** is held once less under its key, and its key goes when it was
held once. Only a value that is held may be taken back. -/
theorem subtract (h : d.Tallies (v.distinctKey :: keys)) : (d.subtract v).Tallies keys := by
  have held := h.get? v.distinctKey
  rw [List.count_cons_self, if_neg (Nat.succ_ne_zero _)] at held
  have others {k : String} (differ : k ≠ v.distinctKey) :
      d.counts.get? k = if keys.count k = 0 then none else some (keys.count k) := by
    rw [h.get?, List.count_cons_of_ne (Ne.symm differ)]
  rw [DistinctTally.subtract, held]
  dsimp only
  split
  · next last =>
    refine ⟨Dict.ordered_erase h.ordered _, fun k => ?_⟩
    by_cases same : k = v.distinctKey
    · rw [same, Dict.get?_erase_self, if_pos (by omega)]
    · rw [Dict.get?_erase_of_ne same, others same]
  · next more =>
    refine ⟨Dict.ordered_insert h.ordered _ _, fun k => ?_⟩
    by_cases same : k = v.distinctKey
    · rw [same, Dict.get?_insert_self, if_neg (by omega), Nat.add_sub_cancel]
    · rw [Dict.get?_insert_of_ne same, others same]

end Tallies

/-- The tally of some values. -/
def ofValues (vs : List Value) : DistinctTally := vs.foldl add empty

/-- The tally of some values counts their keys, by induction on the values. -/
theorem tallies_ofValues (vs : List Value) : (ofValues vs).Tallies (vs.map Value.distinctKey) := by
  induction vs using List.reverseRecOn with
  | nil => exact tallies_empty
  | append_singleton vs v ih =>
    rw [ofValues, List.foldl_append, List.map_append]
    exact (Tallies.add ih).perm (List.perm_append_singleton _ _).symm

/-- Taking back the first of some values leaves the tally of the others, because a tally is
determined by what it counts. -/
theorem subtract_ofValues (v : Value) (vs : List Value) :
    (ofValues (v :: vs)).subtract v = ofValues vs :=
  (tallies_ofValues (v :: vs)).subtract.unique (tallies_ofValues vs)

end DistinctTally

namespace Total

/-- The sum of some numbers. -/
def ofValues (vs : List Value) : Total := vs.foldl add empty

/-- The total of integers touches no float: its exact sum and its count are all there is. -/
theorem ofValues_int (ns : List Int) :
    ofValues (ns.map Value.int) = ⟨ns.sum, .zero, 0, ns.length⟩ := by
  induction ns using List.reverseRecOn with
  | nil => rfl
  | append_singleton ns n ih =>
    rw [ofValues] at ih ⊢
    rw [List.map_append, List.foldl_append, ih]
    simp [add]

/-- Taking back the first of some integers leaves the total of the others. With a float among the
values the rounding of the floats would show. -/
theorem subtract_ofValues {v : Value} {vs : List Value} {ns : List Int}
    (integers : v :: vs = ns.map Value.int) : (ofValues (v :: vs)).subtract v = ofValues vs := by
  cases ns with
  | nil => cases integers
  | cons n ns =>
    obtain ⟨rfl, rfl⟩ := List.cons.inj integers
    rw [← List.map_cons, ofValues_int, ofValues_int]
    have sum : (n :: ns).sum - n = ns.sum := by
      rw [List.sum_cons]
      omega
    have count : (n :: ns).length - 1 = ns.length := by
      rw [List.length_cons, Nat.add_sub_cancel]
    simp only [subtract, sum, count]

end Total

/-- The values on which a function follows a sliding window exactly. -/
def AggregateFunction.isExactOn (f : AggregateFunction) (v : Value) : Bool :=
  match f, v with
  | count, _ | countDistinct, _ => true
  | first, _ | last, _ | timeOfFirst, _ | timeOfLast, _ | timeOfNext, _ => true
  | sum, .null | sum, .int _ | mean, .null | mean, .int _ => true
  | _, _ => false

namespace Accumulator

/-- A subtractable function takes back every input that it does not refuse, and stays what it is. -/
theorem subtract_of_not_refuses {a : Accumulator} {i : Input}
    (subtractable : a.function.isSubtractable = true) (accepted : ¬Refuses a.function i.value) :
    ∃ b, a.subtract i = .ok b ∧ b.function = a.function := by
  rw [subtract, accepts_of_not_refuses accepted]
  cases i.value.isNull with
  | true => exact ⟨a, rfl, rfl⟩
  | false => cases a <;> first | exact ⟨_, rfl, rfl⟩ | cases subtractable

/-- A value on which giving back is exact is none that the function refuses. -/
theorem not_refuses_of_isExactOn {f : AggregateFunction} {v : Value} (h : f.isExactOn v = true) :
    ¬Refuses f v := by
  rw [refuses_iff]
  rintro ⟨some_value, numeric, no_number⟩
  cases f with
  | sum | mean => cases v <;> simp_all [AggregateFunction.isExactOn, Value.isNull, Value.isNumeric]
  | _ => simp_all [AggregateFunction.isExactOn, AggregateFunction.isNumeric]

/-- Inputs are counted one by one from wherever the counter stands, by induction on the inputs. -/
theorem foldl_absorb_count (is : List Input) (n : Int) :
    is.foldl absorb (count n) = count (n + is.length) := by
  induction is generalizing n with
  | nil => simp
  | cons i is ih =>
    rw [List.foldl_cons, absorb, ih, List.length_cons]
    congr 1
    omega

/-- Inputs on which a sum or a mean is exact are integers where they are not null, which brings
totals down to sums of integers. -/
theorem exists_map_counted_eq_map_int {f : AggregateFunction} (h : f = .sum ∨ f = .mean)
    {is : List Input} (exact : ∀ i ∈ is, f.isExactOn i.value = true) :
    ∃ ns : List Int, (counted is).map Input.value = ns.map Value.int := by
  induction is with
  | nil => exact ⟨[], rfl⟩
  | cons i is ih =>
    obtain ⟨ns, hns⟩ := ih fun j hj => exact j (List.mem_cons_of_mem _ hj)
    have here := exact i List.mem_cons_self
    obtain ⟨t, v⟩ := i
    rcases h with rfl | rfl
    all_goals
      cases v with
      | null => exact ⟨ns, hns⟩
      | int n => exact ⟨n :: ns, congrArg (Value.int n :: ·) hns⟩
      | _ => simp [AggregateFunction.isExactOn] at here

/-- **Taking back the oldest input leaves the accumulator of the others.** By the cases of
subtractable functions: a count goes down by one, a tally loses the key once, and a total of
integers loses the integer. -/
theorem subtract_ofInputs {f : AggregateFunction} {i : Input} {is : List Input}
    (subtractable : f.isSubtractable = true)
    (exact : ∀ j ∈ i :: is, f.isExactOn j.value = true) :
    (ofInputs f (i :: is)).subtract i = .ok (ofInputs f is) := by
  by_cases null : i.value.isNull = true
  · have same : ofInputs f (i :: is) = ofInputs f is := by simp [ofInputs, counted, null]
    rw [same, subtract, accepts_of_not_refuses (by simp [refuses_iff, null]), null]
    rfl
  · have accepted := not_refuses_of_isExactOn (exact i List.mem_cons_self)
    have kept : counted (i :: is) = i :: counted is := by simp [counted, null]
    suffices taken : (ofInputs f (i :: is)).retract? i = some (ofInputs f is) by
      rw [subtract, function_ofInputs, accepts_of_not_refuses accepted, taken]
      simp only [null]
      rfl
    rw [ofInputs, ofInputs, kept]
    cases f with
    | count =>
      rw [empty, foldl_absorb_count, foldl_absorb_count, retract?, List.length_cons]
      congr 2
      omega
    | countDistinct =>
      rw [empty, foldl_absorb_of_values countDistinct fun _ _ => rfl,
        foldl_absorb_of_values countDistinct fun _ _ => rfl, retract?]
      exact congrArg (some ∘ countDistinct) (DistinctTally.subtract_ofValues _ _)
    | sum =>
      obtain ⟨ns, integers⟩ := exists_map_counted_eq_map_int (.inl rfl) exact
      rw [kept, List.map_cons] at integers
      rw [empty, foldl_absorb_of_values sum fun _ _ => rfl,
        foldl_absorb_of_values sum fun _ _ => rfl, retract?]
      exact congrArg (some ∘ sum) (Total.subtract_ofValues integers)
    | mean =>
      obtain ⟨ns, integers⟩ := exists_map_counted_eq_map_int (.inr rfl) exact
      rw [kept, List.map_cons] at integers
      rw [empty, foldl_absorb_of_values mean fun _ _ => rfl,
        foldl_absorb_of_values mean fun _ _ => rfl, retract?]
      exact congrArg (some ∘ mean) (Total.subtract_ofValues integers)
    | variance | deviation => cases exact i List.mem_cons_self
    | _ => cases subtractable

end Accumulator
end Hindsight
