import Hindsight.Proofs.Aggregate.Grouped
import Hindsight.Proofs.Aggregate.TakingBack
import Mathlib.Data.Set.Card

/-!
# How many values differ

Counting different values and dividing inputs into groups tell attributes apart by their kinds and
their texts. As inputs come and go, the count is the number of different keys among those that are
live (`Accumulator.Live.value_eq_ncard`), and there are as many groups as different keys came with
inputs (`GroupedAccumulator.Gathers.size_eq_ncard`). Both are the numbers of different values just
if no two lists among them look alike.
-/

namespace Hindsight

/-- The size of a dictionary is the number of keys that are bound, because no key is bound by two
entries. -/
theorem Dict.Ordered.size_eq_ncard {κ α : Type} [Ord κ] [Std.LawfulEqOrd κ] {d : Dict κ α}
    (h : d.Ordered) : d.size = {k | ∃ a, d.get? k = some a}.ncard := by
  classical
  have bound : {k | ∃ a, d.get? k = some a} = ↑d.keys.toFinset := by
    ext k
    simp [keys, ← mem_entries_iff h]
  rw [bound, Set.ncard_coe_finset, List.toFinset_card_of_nodup h.nodup_keys, keys, List.length_map]
  rfl

/-- The size of a tally is the number of different keys, however often each of them occurs. -/
theorem DistinctTally.Tallies.size_eq_ncard {d : DistinctTally} {keys : List String}
    (h : d.Tallies keys) : d.size = {k | k ∈ keys}.ncard := by
  have held : {k | ∃ n, d.counts.get? k = some n} = {k | k ∈ keys} := by
    ext k
    simp [h.get?, ← List.count_pos_iff, Nat.pos_iff_ne_zero]
  rw [size, h.ordered.size_eq_ncard, held]

namespace Value

/-- Attributes among which no two lists look alike. -/
def ToldApart (vs : List Value) : Prop := ∀ v ∈ vs, ∀ w ∈ vs, ¬v.LooksLike w

/-- **There are as many keys as attributes** just if no two lists among them look alike. Other
attributes of one key are the same, so only lists can make the number of keys smaller. -/
theorem ncard_eq_iff_toldApart {κ : Type} {key : Value → κ}
    (same_iff : ∀ v w, key v = key w ↔ v.distinctKey = w.distinctKey) {vs : List Value}
    (attributes : ∀ v ∈ vs, v.isAttribute = true) :
    (key '' {v | v ∈ vs}).ncard = {v | v ∈ vs}.ncard ↔ ToldApart vs := by
  rw [Set.ncard_image_iff (List.finite_toSet vs)]
  constructor
  · rintro apart v hv w hw ⟨differ, lists⟩
    refine differ (apart hv hw ((same_iff v w).2 ?_))
    exact (distinctKey_eq_iff_of_isAttribute (attributes v hv) (attributes w hw)).2
      (.inr ⟨differ, lists⟩)
  · intro apart v hv w hw same
    refine ((distinctKey_eq_iff_of_isAttribute (attributes v hv) (attributes w hw)).1
      ((same_iff v w).1 same)).resolve_right (apart v hv w hw)

end Value

namespace Accumulator

/-- The accumulators of a function with the inputs that are live: those that came and were not taken
back. -/
inductive Live (f : AggregateFunction) : List Input → Accumulator → Prop
  | empty : Live f [] (empty f)
  | add {is : List Input} {i : Input} {a b : Accumulator} (live : Live f is a)
      (added : a.add i = .ok b) : Live f (i :: is) b
  | subtract {is js : List Input} {i : Input} {a b : Accumulator}
      (live : Live f (is ++ i :: js) a) (taken : a.subtract i = .ok b) : Live f (is ++ js) b

/-- The values of some inputs, those that are null apart. -/
def valuesOf (is : List Input) : List Value := (counted is).map Input.value

/-- The values that count in two lists of inputs are those of each. -/
theorem valuesOf_append (is js : List Input) :
    valuesOf (is ++ js) = valuesOf is ++ valuesOf js := by
  rw [valuesOf, counted, List.filter_append, List.map_append]
  rfl

/-- A null at the front does not count, and any other value does. By this the values that count are
followed through an induction on inputs. -/
theorem valuesOf_cons (i : Input) (is : List Input) :
    valuesOf (i :: is) = if i.value.isNull then valuesOf is else i.value :: valuesOf is := by
  rw [valuesOf, counted, List.filter_cons]
  cases i.value.isNull <;> rfl

variable {is : List Input} {a b : Accumulator} {i : Input} {d : DistinctTally}

/-- A count of different values takes every input. It tallies the key of the value, unless that is
null. -/
theorem add_countDistinct (d : DistinctTally) (i : Input) : (countDistinct d).add i =
    .ok (countDistinct (if i.value.isNull then d else d.add i.value)) := by
  rw [add_of_not_refuses (by simp [refuses_iff, function, AggregateFunction.isNumeric]), extend]
  cases i.value.isNull <;> rfl

/-- A count of different values lets every input be taken back. It is held once less under its
key. -/
theorem subtract_countDistinct (d : DistinctTally) (i : Input) : (countDistinct d).subtract i =
    .ok (countDistinct (if i.value.isNull then d else d.subtract i.value)) := by
  rw [subtract, accepts_of_not_refuses
    (by simp [refuses_iff, function, AggregateFunction.isNumeric])]
  cases i.value.isNull <;> rfl

/-- **What inputs that come and go leave behind** is a tally of the values that are live, by
induction on how they came and went: a tally is the same in whichever order its values were
counted. -/
theorem Live.tallies (live : Live .countDistinct is a) :
    ∃ d, a = countDistinct d ∧ d.Tallies ((valuesOf is).map Value.distinctKey) := by
  induction live with
  | empty => exact ⟨.empty, rfl, DistinctTally.tallies_empty⟩
  | @add is i _ _ _ added ih =>
    obtain ⟨d, rfl, tallies⟩ := ih
    rw [add_countDistinct] at added
    obtain rfl := Except.ok.inj added
    refine ⟨_, rfl, ?_⟩
    rw [valuesOf_cons]
    split
    · exact tallies
    · exact tallies.add
  | @subtract is js i _ _ _ taken ih =>
    obtain ⟨d, rfl, tallies⟩ := ih
    rw [subtract_countDistinct] at taken
    obtain rfl := Except.ok.inj taken
    refine ⟨_, rfl, ?_⟩
    rw [valuesOf_append, valuesOf_cons] at tallies
    rw [valuesOf_append]
    cases null : i.value.isNull with
    | true =>
      rw [if_pos null] at tallies
      exact tallies
    | false =>
      rw [if_neg (by simp [null]), List.map_append, List.map_cons] at tallies
      rw [List.map_append]
      exact (tallies.perm List.perm_middle).subtract

/-- A count of different values is the number of different keys that are live. Whether this is the
number of different values is a question about keys alone. -/
theorem Live.value_eq_ncard (live : Live .countDistinct is a) :
    a.value = .int (Value.distinctKey '' {v | v ∈ valuesOf is}).ncard := by
  obtain ⟨d, rfl, tallies⟩ := live.tallies
  have keys : {k | k ∈ (valuesOf is).map Value.distinctKey} =
      Value.distinctKey '' {v | v ∈ valuesOf is} := by
    ext k
    simp
  rw [value, tallies.size_eq_ncard, keys]

end Accumulator

namespace GroupedAccumulator

/-- The keys that came with some inputs, those that are null apart. -/
def keysOf (fed : List (Value × Input)) : List Value :=
  (fed.map Prod.fst).filter fun key => !key.isNull

/-- There are as many groups as different keys came with inputs, whether they came one by one or by
merging. -/
theorem Gathers.size_eq_ncard {f : AggregateFunction} {fed : List (Value × Input)}
    {g : GroupedAccumulator} (gathers : Gathers f fed g) :
    g.groups.size = (GroupKey.of '' {v | v ∈ keysOf fed}).ncard := by
  have keys : {k | ∃ a, g.groups.get? k = some a} = GroupKey.of '' {v | v ∈ keysOf fed} := by
    ext k
    have held := (gathers.groupOf k).eq_none_iff
    rw [Set.mem_ofPred_eq, ← Option.ne_none_iff_exists', ne_eq, held]
    constructor
    · intro some_input
      obtain ⟨x, member, valid, rfl⟩ := exists_of_inputsOf_ne_nil some_input
      exact ⟨x.1, List.mem_filter.2 ⟨List.mem_map_of_mem member, by simp [valid]⟩, rfl⟩
    · rintro ⟨v, hv, rfl⟩
      obtain ⟨i, member, valid⟩ : ∃ i, (v, i) ∈ fed ∧ v.isNull = false := by
        simpa [keysOf] using hv
      refine List.ne_nil_of_mem (a := i) (List.mem_map.2 ⟨(v, i), ?_, rfl⟩)
      simp [member, valid]
  rw [gathers.ordered.size_eq_ncard, keys]

end GroupedAccumulator

namespace Value

open Accumulator GroupedAccumulator

/-- **Two attributes are told apart** unless they are different lists of one text, and no lists are
of one text if their items are not mistaken. So as inputs come and go, the count of different values
is right just if no two live lists look alike, and so is the number of groups for the keys that came
with inputs. -/
theorem attributes_told_apart_iff {v w : Value} (hv : v.isAttribute = true)
    (hw : w.isAttribute = true) :
    (v.distinctKey = w.distinctKey ↔ v = w ∨ v.LooksLike w) ∧
    (GroupKey.of v = GroupKey.of w ↔ v = w ∨ v.LooksLike w) ∧
    (∀ xs ys, v = list xs → w = list ys →
      (∀ x ∈ xs ++ ys, x.isSimple = true ∧ x.IsUnmistakable) → ¬v.LooksLike w) ∧
    (∀ is a, Live .countDistinct is a → (∀ u ∈ valuesOf is, u.isAttribute = true) →
      (∀ i, (∃ b, a.add i = .ok b) ∧ ∃ b, a.subtract i = .ok b) ∧
        (a.value = .int {u | u ∈ valuesOf is}.ncard ↔ ToldApart (valuesOf is))) ∧
    ∀ f fed g, GroupedAccumulator.Gathers f fed g → (∀ u ∈ keysOf fed, u.isAttribute = true) →
      (g.groups.size = {u | u ∈ keysOf fed}.ncard ↔ ToldApart (keysOf fed)) := by
  refine ⟨distinctKey_eq_iff_of_isAttribute hv hw, ?_, ?_,
    fun is a live attributes => ⟨fun i => ?_, ?_⟩, fun f fed g gathers attributes => ?_⟩
  · rw [GroupKey.of_eq_iff]
    exact distinctKey_eq_iff_of_isAttribute hv hw
  · rintro xs ys rfl rfl clear
    exact not_looksLike_of_isUnmistakable (fun x hx => clear x (List.mem_append_left ys hx))
      fun y hy => clear y (List.mem_append_right xs hy)
  · obtain ⟨d, rfl, -⟩ := live.tallies
    exact ⟨⟨_, add_countDistinct d i⟩, _, subtract_countDistinct d i⟩
  · rw [live.value_eq_ncard, Value.int.injEq, Nat.cast_inj]
    exact ncard_eq_iff_toldApart (fun _ _ => Iff.rfl) attributes
  · rw [gathers.size_eq_ncard]
    exact ncard_eq_iff_toldApart (fun _ _ => GroupKey.of_eq_iff) attributes

/-- A list of a number and a word. -/
def numberAndWord (s : String) : Value := list [int 1, text s]

/-- Lists of numbers and words are told apart, and from a number, in a count that a text has left
and in groups. -/
theorem numbers_and_words_told_apart :
    let vs := [numberAndWord "a", numberAndWord "b", int 1]
    (numberAndWord "a").isAttribute = true ∧ (numberAndWord "b").isAttribute = true ∧
      (numberAndWord "a").distinctKey ≠ (numberAndWord "b").distinctKey ∧
      GroupKey.of (numberAndWord "a") ≠ GroupKey.of (numberAndWord "b") ∧
      (∃ a, Live .countDistinct (vs.map (Input.mk .zero)) a ∧ a.value = .int 3 ∧
        a.value = .int {u | u ∈ valuesOf (vs.map (Input.mk .zero))}.ncard) ∧
      ∃ g, GroupedAccumulator.Gathers .count (marks vs) g ∧ g.groups.size = 3 ∧
        g.groups.size = {u | u ∈ keysOf (marks vs)}.ncard := by
  intro vs
  have hv : (numberAndWord "a").isAttribute = true := rfl
  have hw : (numberAndWord "b").isAttribute = true := rfl
  obtain ⟨key, group, different, counts, groups⟩ := attributes_told_apart_iff hv hw
  have one : (int 1).isSimple = true ∧ (int 1).IsUnmistakable := ⟨rfl, trivial⟩
  have a : (text "a").isSimple = true ∧ (text "a").IsUnmistakable :=
    ⟨rfl, isUnmistakable_text (by decide) (by decide) (by decide) ⟨'a', by decide⟩⟩
  have b : (text "b").isSimple = true ∧ (text "b").IsUnmistakable :=
    ⟨rfl, isUnmistakable_text (by decide) (by decide) (by decide) ⟨'b', by decide⟩⟩
  have lists := different _ _ rfl rfl (by simpa using ⟨one, a, one, b⟩)
  have other : numberAndWord "a" ≠ numberAndWord "b" := by simp [numberAndWord]
  have apart : ToldApart vs := by
    rintro x hx y hy ⟨differ, xs, ys, rfl, rfl, same⟩
    simp only [vs, List.mem_cons, reduceCtorEq, List.not_mem_nil, or_false] at hx hy
    rcases hx with hx | hx <;> rcases hy with hy | hy <;> rw [hx, hy] at differ same
    · exact differ rfl
    · exact lists ⟨differ, _, _, rfl, rfl, same⟩
    · exact lists ⟨differ.symm, _, _, rfl, rfl, same.symm⟩
    · exact differ rfl
  have attributes : ∀ u ∈ vs, u.isAttribute = true := by decide
  refine ⟨hv, hw, mt key.1 (not_or.2 ⟨other, lists⟩), mt group.1 (not_or.2 ⟨other, lists⟩), ?_, ?_⟩
  · have four : Live .countDistinct ([⟨.zero, numberAndWord "a"⟩] ++ ⟨.zero, text "1"⟩ ::
        [⟨.zero, numberAndWord "b"⟩, ⟨.zero, int 1⟩]) _ :=
      .add (.add (.add (.add .empty rfl) rfl) rfl) rfl
    have live := four.subtract rfl
    exact ⟨_, live, rfl, ((counts _ _ live attributes).2).2 apart⟩
  · obtain ⟨g, counted, size⟩ : ∃ g,
        countMarks [numberAndWord "a", numberAndWord "b", int 1] = .ok g ∧ g.groups.size = 3 :=
      ⟨_, rfl, rfl⟩
    have gathers := GroupedAccumulator.Gathers.empty.addAll counted
    exact ⟨g, gathers, size, (groups _ _ _ gathers attributes).2 apart⟩

/-- The number 1 and the text `1` differ, but as items of a list they count as one, because the text
of a list shows its items without their kinds. -/
theorem lists_of_one_text_count_as_one :
    list [int 1] ≠ list [text "1"] ∧
      (list [int 1]).distinctKey = (list [text "1"]).distinctKey ∧
      GroupKey.of (list [int 1]) = GroupKey.of (list [text "1"]) ∧
      (∃ a, Live .countDistinct ([list [text "1"], list [int 1]].map (Input.mk .zero)) a ∧
        a.value = .int 1) ∧
      ∃ g, GroupedAccumulator.Gathers .count (marks [list [int 1], list [text "1"]]) g ∧
        g.groups.size = 1 := by
  refine ⟨by simp, rfl, rfl, ⟨_, .add (.add .empty rfl) rfl, rfl⟩, ?_⟩
  obtain ⟨g, counted, size⟩ : ∃ g, countMarks [list [int 1], list [text "1"]] = .ok g ∧
      g.groups.size = 1 := ⟨_, rfl, rfl⟩
  exact ⟨g, GroupedAccumulator.Gathers.empty.addAll counted, size⟩

end Value
end Hindsight
