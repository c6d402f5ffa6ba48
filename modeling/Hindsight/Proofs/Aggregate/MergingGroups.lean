import Hindsight.Proofs.Aggregate.Merging

/-!
# Merging is feeding in the order of time

What two accumulators make of two lists of inputs is, when they are merged, what one accumulator
makes of the inputs of both in the order of time. The same holds of groups: each key holds the
accumulator of the inputs that came with it (`GroupedAccumulator.exists_addAll`), a key that one of
two has alone keeps its accumulator, and a key that both have gets the merged one
(`GroupedAccumulator.joined_heldOf`). Sorting all inputs sorts those of a key
(`GroupedAccumulator.inputsOf_inOrder`).
-/

namespace Hindsight
namespace GroupedAccumulator

open Accumulator (Refuses ofInputs valuesOf)

variable {f : AggregateFunction} {g h : GroupedAccumulator} {fed : List (Value × Input)}

/-- What is held for the inputs of a key, nothing if there are none. -/
def heldOf (f : AggregateFunction) (is : List Input) : Option Accumulator :=
  if is = [] then none else some (ofInputs f is)

/-- A key without inputs holds nothing. -/
@[simp] theorem heldOf_nil : heldOf f [] = none := rfl

/-- A key with inputs holds the accumulator of its inputs. -/
theorem heldOf_of_ne_nil {is : List Input} (some_input : is ≠ []) :
    heldOf f is = some (ofInputs f is) := if_neg some_input

/-- An empty accumulator stands for what is not held, so both cases are the accumulator of the
inputs. -/
theorem heldOf_getD (is : List Input) : (heldOf f is).getD (.empty f) = ofInputs f is := by
  cases is with
  | nil => rfl
  | cons i is => rw [heldOf_of_ne_nil (List.cons_ne_nil i is), Option.getD_some]

/-- With one more input a key holds an accumulator, which has that input as its last one. -/
theorem heldOf_concat (is : List Input) (i : Input) :
    heldOf f (is ++ [i]) = some ((ofInputs f is).extend i) := by
  rw [heldOf_of_ne_nil (by simp), Accumulator.ofInputs_concat]

/-- The groups of a function that were fed some inputs: each key holds the accumulator of those that
came with it. -/
structure Fed (f : AggregateFunction) (fed : List (Value × Input)) (g : GroupedAccumulator) :
    Prop where
  function : g.function = f
  ordered : g.groups.Ordered
  held (k : GroupKey) : g.groups.get? k = heldOf f (inputsOf fed k)

namespace Fed

/-- **What groups hold is determined by what they were fed**: their keys are in order, and each of
them holds what is held for its inputs. -/
theorem unique (left : Fed f fed g) (right : Fed f fed h) : g = h := by
  obtain ⟨function, ordered, held⟩ := left
  obtain ⟨function', ordered', held'⟩ := right
  obtain ⟨f₁, groups⟩ := g
  obtain ⟨f₂, groups'⟩ := h
  have same : groups = groups' := ordered.ext ordered' fun k => (held k).trans (held' k).symm
  rw [same, show f₁ = f₂ from function.trans function'.symm]

/-- One more input goes to the group of its key, which is made for it if there is none, and to no
group if the key is null. -/
theorem add (before : Fed f fed g) (key : Value) (i : Input)
    (accepted : key.isNull = false → ¬Refuses f i.value) :
    ∃ h, g.add key i = (.ok (), h) ∧ Fed f (fed ++ [(key, i)]) h := by
  obtain ⟨function, ordered, held⟩ := before
  cases null : key.isNull with
  | true =>
    refine ⟨g, add_eq_ok_iff.2 (.inl ⟨null, rfl⟩), function, ordered, fun k => ?_⟩
    rw [inputsOf_append, inputsOf_singleton, if_neg (by simp [null]), List.append_nil, held]
  | false =>
    have here : g.group (.of key) = ofInputs f (inputsOf fed (.of key)) := by
      rw [group, held, function, heldOf_getD]
    have taken : (g.group (.of key)).add i = .ok ((g.group (.of key)).extend i) :=
      Accumulator.add_of_not_refuses (by
        rw [here, Accumulator.function_ofInputs]
        exact accepted null)
    refine ⟨_, add_eq_ok_iff.2 (.inr ⟨null, _, taken, rfl⟩), function,
      Dict.ordered_insert ordered _ _, fun k => ?_⟩
    rw [inputsOf_append, inputsOf_singleton]
    by_cases same : GroupKey.of key = k
    · subst same
      rw [if_pos ⟨null, rfl⟩, heldOf_concat, Dict.get?_insert_self, here]
    · rw [if_neg (by simp [same]), List.append_nil, ← held, Dict.get?_insert_of_ne (Ne.symm same)]

end Fed

/-- **Each key holds the accumulator** of the inputs that came with it, which are not refused, by
induction on the inputs from the end. So feeding groups is feeding one accumulator for each key. -/
theorem exists_addAll (fed : List (Value × Input))
    (accepted : ∀ k, ∀ i ∈ inputsOf fed k, ¬Refuses f i.value) :
    ∃ g, (empty f).addAll fed = .ok g ∧ Fed f fed g := by
  induction fed using List.reverseRecOn with
  | nil => exact ⟨empty f, rfl, rfl, Dict.ordered_empty, fun _ => rfl⟩
  | append_singleton fed x ih =>
    obtain ⟨key, i⟩ := x
    obtain ⟨g, added, before⟩ := ih fun k j hj => accepted k j (by simp [hj])
    obtain ⟨h, last, after⟩ := before.add key i fun valid =>
      accepted (.of key) i (by simp [inputsOf_singleton, valid])
    refine ⟨h, ?_, after⟩
    rw [addAll] at added ⊢
    rw [List.foldlM_append, added, ok_bind, List.foldlM_cons, added_eq_ok_iff.2 last]
    rfl

/-- Accumulators of one function can be joined, one key after the other, and the function stays the
same throughout. -/
theorem exists_foldlM_join (es : List (GroupKey × Accumulator))
    {groups : Dict GroupKey Accumulator} (same : ∀ k a, groups.get? k = some a → a.function = f)
    (same' : ∀ e ∈ es, e.2.function = f) : ∃ joined, es.foldlM join groups = .ok joined := by
  induction es generalizing groups with
  | nil => exact ⟨groups, rfl⟩
  | cons e es ih =>
    obtain ⟨here, rest⟩ := List.forall_mem_cons.1 same'
    have step : ∃ c, join groups e = .ok (groups.insert e.1 c) ∧ c.function = f := by
      rw [join]
      split
      · next a held =>
        have function := same _ a held
        obtain ⟨c, merged, kept⟩ := Accumulator.exists_merge (function.trans here.symm)
        exact ⟨c, by rw [merged]; rfl, kept.trans function⟩
      · exact ⟨e.2, rfl, here⟩
    obtain ⟨c, joined, function⟩ := step
    rw [List.foldlM_cons, joined, ok_bind]
    refine ih (fun k a held => ?_) rest
    by_cases other : k = e.1
    · rw [other, Dict.get?_insert_self] at held
      rwa [← Option.some.inj held]
    · rw [Dict.get?_insert_of_ne other] at held
      exact same k a held

/-- **What is held for a key** by two, joined, is held for the inputs of both in the order of
time. -/
theorem joined_heldOf {is js : List Input} {held : Option Accumulator}
    (joined : Accumulator.Joined (heldOf f is) (heldOf f js) held)
    (sorted : InOrderOfTime is) (sorted' : InOrderOfTime js)
    (merges : f.MergesOn (valuesOf (is ++ js))) :
    held = heldOf f (inOrder Input.time (is ++ js)) := by
  by_cases none' : js = []
  · rw [none', heldOf_nil] at joined
    rw [none', List.append_nil, inOrder_of_pairwise sorted]
    generalize heldOf f is = left at joined
    cases joined
    rfl
  rw [heldOf_of_ne_nil none'] at joined
  by_cases none : is = []
  · rw [none, heldOf_nil] at joined
    rw [none, List.nil_append, inOrder_of_pairwise sorted', heldOf_of_ne_nil none']
    cases joined
    rfl
  · rw [heldOf_of_ne_nil none] at joined
    have some_input : inOrder Input.time (is ++ js) ≠ [] := fun empty => by
      have perm := inOrder_perm Input.time (is ++ js)
      rw [empty] at perm
      exact none (List.append_eq_nil_iff.1 (List.nil_perm.1 perm)).1
    rw [heldOf_of_ne_nil some_input]
    cases joined with
    | both merged =>
      rw [Except.ok.inj (merged.symm.trans (Accumulator.merge_ofInputs merges))]

/-- **Sorting all inputs sorts those of a key.** The sort is stable, and to pick the inputs of a key
is to filter, which a stable sort commutes with. -/
theorem inputsOf_inOrder (fed : List (Value × Input)) (k : GroupKey) :
    inputsOf (inOrder (fun x => x.2.time) fed) k = inOrder Input.time (inputsOf fed k) := by
  rw [inputsOf, filter_inOrder, map_inOrder Prod.snd Input.time]
  rfl

/-- The inputs of a key are in the order of time if all inputs are, since picking them leaves their
order. -/
theorem inOrderOfTime_inputsOf (sorted : InOrderOfTime (fed.map Prod.snd)) (k : GroupKey) :
    InOrderOfTime (inputsOf fed k) :=
  List.pairwise_map.2 ((List.pairwise_map.1 sorted).filter _)

namespace Fed

variable {xs ys : List (Value × Input)}

/-- The accumulator of a key has the function of the groups. -/
theorem function_of_get? (before : Fed f fed g) {k : GroupKey} {a : Accumulator}
    (bound : g.groups.get? k = some a) : a.function = f := by
  rw [before.held, heldOf] at bound
  split at bound
  · cases bound
  · rw [← Option.some.inj bound, Accumulator.function_ofInputs]

/-- **Merged, the groups** are those of the inputs of both in the order of time. A key that one of
the two has alone keeps its accumulator, for inputs that came in the order of time, and a key that
both have gets the merged one. -/
theorem merge (left : Fed f xs g) (right : Fed f ys h)
    (sorted : InOrderOfTime (xs.map Prod.snd)) (sorted' : InOrderOfTime (ys.map Prod.snd))
    (merges : ∀ k, f.MergesOn (valuesOf (inputsOf (xs ++ ys) k))) :
    ∃ m, g.merge h = .ok m ∧ Fed f (inOrder (fun x => x.2.time) (xs ++ ys)) m := by
  obtain ⟨groups, joined⟩ := exists_foldlM_join h.groups.entries
    (fun _ _ => left.function_of_get?)
    fun e he => right.function_of_get? ((Dict.mem_entries_iff right.ordered).1 he)
  refine ⟨_, merge_eq_ok_iff.2 ⟨groups, joined, rfl⟩, left.function, ?_, fun k => ?_⟩
  · refine foldlM_preserves (P := Dict.Ordered) joined left.ordered fun e _ _ _ step kept => ?_
    obtain ⟨c, rfl, -⟩ := join_eq_ok step
    exact Dict.ordered_insert kept e.1 c
  · have here := joined_of_foldlM right.ordered joined k
    rw [left.held, show Dict.get? ⟨h.groups.entries⟩ k = _ from right.held k] at here
    have merges_here := merges k
    rw [inputsOf_append] at merges_here
    rw [inputsOf_inOrder, inputsOf_append]
    exact joined_heldOf here (inOrderOfTime_inputsOf sorted k) (inOrderOfTime_inputsOf sorted' k)
      merges_here

end Fed

end GroupedAccumulator

open GroupedAccumulator (inputsOf)
open Accumulator (valuesOf)

/-- **Merging is feeding in the order of time.** Whatever values a function merges on, two
accumulators that are fed some inputs each are merged into the one that is fed all of them in the
order of time, those of one time in the order in which they would follow one another. The same holds
of groups, for inputs with keys that come in the order of time. -/
theorem AggregateFunction.merge_is_feeding_in_order (f : AggregateFunction) :
    (∀ xs ys : List Input, f.MergesOn (valuesOf (xs ++ ys)) →
      ∃ a b c, xs.foldlM Accumulator.add (.empty f) = .ok a ∧
        ys.foldlM Accumulator.add (.empty f) = .ok b ∧ a.merge b = .ok c ∧
        (inOrder Input.time (xs ++ ys)).foldlM Accumulator.add (.empty f) = .ok c) ∧
    ∀ xs ys : List (Value × Input), InOrderOfTime (xs.map Prod.snd) →
      InOrderOfTime (ys.map Prod.snd) → (∀ k, f.MergesOn (valuesOf (inputsOf (xs ++ ys) k))) →
      ∃ g h m, (GroupedAccumulator.empty f).addAll xs = .ok g ∧
        (GroupedAccumulator.empty f).addAll ys = .ok h ∧ g.merge h = .ok m ∧
        (GroupedAccumulator.empty f).addAll (inOrder (fun x => x.2.time) (xs ++ ys)) = .ok m := by
  refine ⟨fun xs ys merges => ?_, fun xs ys sorted sorted' merges => ?_⟩
  · have accepted := Accumulator.not_refuses_of_mergesOn merges
    obtain ⟨left, right⟩ := List.forall_mem_append.1 accepted
    exact ⟨_, _, _, Accumulator.foldlM_add_eq_ofInputs left,
      Accumulator.foldlM_add_eq_ofInputs right, Accumulator.merge_ofInputs merges,
      Accumulator.foldlM_add_eq_ofInputs fun i hi =>
        accepted i ((inOrder_perm _ _).mem_iff.1 hi)⟩
  · have accepted (k : GroupKey) := Accumulator.not_refuses_of_mergesOn (merges k)
    obtain ⟨g, fed, left⟩ := GroupedAccumulator.exists_addAll (f := f) xs fun k i hi =>
      accepted k i (by simp [hi])
    obtain ⟨h, fed', right⟩ := GroupedAccumulator.exists_addAll (f := f) ys fun k i hi =>
      accepted k i (by simp [hi])
    obtain ⟨m, merged, whole⟩ := left.merge right sorted sorted' merges
    obtain ⟨m', fed_all, whole'⟩ := GroupedAccumulator.exists_addAll (f := f)
      (inOrder (fun x => x.2.time) (xs ++ ys)) fun k i hi => by
        rw [GroupedAccumulator.inputsOf_inOrder] at hi
        exact accepted k i ((inOrder_perm _ _).mem_iff.1 hi)
    exact ⟨g, h, m, fed, fed', merged, whole.unique whole' ▸ fed_all⟩

/-- An input with a number, some seconds after the first midnight. -/
def numberAt (second : Nat) (n : Int) : Input :=
  ⟨(Time.Instant.ofParts? 0 second 0).getD .zero, .int n⟩

/-- Of inputs at the same time those of the first list come first, also in a group, and null is
passed over. -/
theorem AggregateFunction.merge_is_feeding_in_order_of_numbers :
    let xs := [numberAt 0 1, numberAt 1 3]
    let ys := [numberAt 0 2, ⟨.zero, .null⟩, numberAt 1 4]
    (∃ a b c, xs.foldlM Accumulator.add (.empty .values) = .ok a ∧
      ys.foldlM Accumulator.add (.empty .values) = .ok b ∧ a.merge b = .ok c ∧
      c.value = .list [.int 1, .int 2, .int 3, .int 4]) ∧
    ∃ g h m, (GroupedAccumulator.empty .values).addAll (xs.map fun i => (.text "k", i)) = .ok g ∧
      (GroupedAccumulator.empty .values).addAll (ys.map fun i => (.text "k", i)) = .ok h ∧
      g.merge h = .ok m ∧
      m.value = .map [("k", .list [.int 1, .int 2, .int 3, .int 4])] := by
  intro xs ys
  obtain ⟨single, grouped⟩ := AggregateFunction.values.merge_is_feeding_in_order
  refine ⟨?_, ?_⟩
  · obtain ⟨a, b, c, fed, fed', merged, whole⟩ := single xs ys trivial
    refine ⟨a, b, c, fed, fed', merged, ?_⟩
    simp only [xs, ys, List.cons_append, List.nil_append, inOrder_cons, inOrder_nil] at whole
    obtain rfl := Except.ok.inj whole
    rfl
  · obtain ⟨g, h, m, fed, fed', merged, whole⟩ := grouped (xs.map fun i => (.text "k", i))
      (ys.map fun i => (.text "k", i)) (by decide) (by decide) fun _ => trivial
    refine ⟨g, h, m, fed, fed', merged, ?_⟩
    simp only [xs, ys, List.map_cons, List.map_nil, List.cons_append, List.nil_append,
      inOrder_cons, inOrder_nil] at whole
    obtain rfl := Except.ok.inj whole
    rfl

end Hindsight
