import Hindsight.Proofs.Aggregate.Accumulator
import Hindsight.Proofs.Dict
import Hindsight.Proofs.Value.Display

/-!
# Groups and their names

What an input comes to is told once (`GroupedAccumulator.add_cases`). One that is refused changes no
accumulator, though its key has a group from then on (`GroupedAccumulator.of_add_eq_error`). However
inputs that are taken reach groups, one by one or by merging, a key has a group just if it came with
an input, and the accumulator of the group gathers exactly the inputs that came with it
(`GroupedAccumulator.Gathers.groupOf`). The value of the groups is read under names. A name is the
text of a key, or its kind and its text where keys share a text, and two keys come to one name just
if one of them is shared and the other is the text that the name of the first one spells
(`GroupedAccumulator.Gathers.name_eq_iff`). Only such a text costs a group its entry.
-/

namespace Hindsight

namespace GroupKey

/-- Keys of groups are ordered by their texts first and then by their kinds. -/
theorem compare_eq : (compare : GroupKey → GroupKey → Ordering) =
    compareLex (compareOn text) (compareOn kind) := rfl

instance : Std.TransOrd GroupKey := by
  rw [Std.TransOrd, compare_eq]
  infer_instance

instance : Std.LawfulEqOrd GroupKey where
  compare_self := Std.ReflCmp.compare_self
  eq_of_compare {k l} h := by
    obtain ⟨text, kind⟩ := Ordering.then_eq_eq.1 h
    obtain ⟨kText, kKind⟩ := k
    obtain rfl : kText = l.text := Std.LawfulEqOrd.eq_of_compare text
    obtain rfl : kKind = l.kind := Std.LawfulEqOrd.eq_of_compare kind
    rfl

end GroupKey

namespace Accumulator

/-- The accumulators of a function after some inputs, which they took one by one or from one
another. -/
inductive Gathers (f : AggregateFunction) : List Input → Accumulator → Prop
  | empty : Gathers f [] (empty f)
  | add {is : List Input} {i : Input} {a b : Accumulator} (gathered : Gathers f is a)
      (added : a.add i = .ok b) : Gathers f (is ++ [i]) b
  | merge {is js : List Input} {a b c : Accumulator} (gathered : Gathers f is a)
      (gathered' : Gathers f js b) (merged : a.merge b = .ok c) : Gathers f (is ++ js) c

/-- What is held for some inputs: nothing if there are none, and else an accumulator that gathers
them. -/
inductive Holds (f : AggregateFunction) : List Input → Option Accumulator → Prop
  | nothing : Holds f [] none
  | group {is : List Input} {a : Accumulator} (some_input : is ≠ [])
      (gathered : Gathers f is a) : Holds f is (some a)

/-- What two hold together: the merged accumulator, or what one of them holds. -/
inductive Joined : Option Accumulator → Option Accumulator → Option Accumulator → Prop
  | left (held : Option Accumulator) : Joined held none held
  | right (a : Accumulator) : Joined none (some a) (some a)
  | both {a b c : Accumulator} (merged : a.merge b = .ok c) : Joined (some a) (some b) (some c)

variable {f : AggregateFunction} {is js : List Input} {a b : Accumulator} {i : Input}

/-- An accumulator that a group holds came with at least one input and gathers what came. There are
no empty groups among inputs that were all taken. -/
theorem Holds.gathers (h : Holds f is (some a)) : is ≠ [] ∧ Gathers f is a := by
  cases h with
  | group some_input gathered => exact ⟨some_input, gathered⟩

/-- A key has no group just if no input came with it. -/
theorem Holds.eq_none_iff {held : Option Accumulator} (h : Holds f is held) :
    held = none ↔ is = [] := by
  cases h with
  | nothing => simp
  | group some_input _ => simp [some_input]

/-- One more input for what is held, where nothing counts as an accumulator without inputs. In this
way a new group and an old one are one case. -/
theorem Holds.add {held : Option Accumulator} (h : Holds f is held)
    (added : (held.getD (.empty f)).add i = .ok b) : Holds f (is ++ [i]) (some b) := by
  cases h with
  | nothing => exact .group (by simp) (.add .empty added)
  | group _ gathered => exact .group (by simp) (.add gathered added)

/-- What two groups of one key are joined to holds the inputs of both, where either of them may be
missing. -/
theorem Joined.holds {x y z : Option Accumulator} (h : Joined x y z) (hx : Holds f is x)
    (hy : Holds f js y) : Holds f (is ++ js) z := by
  cases h with
  | left =>
    obtain rfl := hy.eq_none_iff.1 rfl
    rwa [List.append_nil]
  | right =>
    obtain rfl := hx.eq_none_iff.1 rfl
    exact hy
  | both merged =>
    obtain ⟨some_input, gathered⟩ := hx.gathers
    exact .group (by simp [some_input]) (.merge gathered hy.gathers.2 merged)

end Accumulator

namespace GroupedAccumulator

/-- The groups of a function after some inputs with their keys, which they took one by one or from
one another. -/
inductive Gathers (f : AggregateFunction) : List (Value × Input) → GroupedAccumulator → Prop
  | empty : Gathers f [] (empty f)
  | add {fed : List (Value × Input)} {key : Value} {i : Input} {g h : GroupedAccumulator}
      (gathered : Gathers f fed g) (added : g.add key i = (.ok (), h)) :
      Gathers f (fed ++ [(key, i)]) h
  | merge {fed fed' : List (Value × Input)} {g h m : GroupedAccumulator}
      (gathered : Gathers f fed g) (gathered' : Gathers f fed' h) (merged : g.merge h = .ok m) :
      Gathers f (fed ++ fed') m

variable {f : AggregateFunction} {g h m : GroupedAccumulator} {key : Value} {i : Input}
  {k l : GroupKey} {fed : List (Value × Input)} {s : String}

section Steps

/-- **An input comes to one of three things:** it is passed over if its key is null, and else it is
taken by the accumulator of the key, or refused by it, and in either case the key has a group. -/
theorem add_cases (g : GroupedAccumulator) (key : Value) (i : Input) :
    (key.isNull = true ∧ g.add key i = (.ok (), g)) ∨
    (key.isNull = false ∧ ∃ a, (g.group (.of key)).add i = .ok a ∧
      g.add key i = (.ok (), { g with groups := g.groups.insert (.of key) a })) ∨
    (key.isNull = false ∧ ∃ e, (g.group (.of key)).add i = .error e ∧
      g.add key i =
        (.error e, { g with groups := g.groups.insert (.of key) (g.group (.of key)) })) := by
  rw [add]
  cases key.isNull with
  | true => exact .inl ⟨rfl, rfl⟩
  | false =>
    rw [if_neg (by simp)]
    cases taken : (g.group (.of key)).add i with
    | ok a => exact .inr (.inl ⟨rfl, a, rfl, by simp only [taken]⟩)
    | error e => exact .inr (.inr ⟨rfl, e, rfl, by simp only [taken]⟩)

/-- **An input** that a group takes changes that group alone. One with a null key is passed over,
and changes nothing at all. -/
theorem add_eq_ok_iff : g.add key i = (.ok (), h) ↔
    key.isNull = true ∧ h = g ∨
      key.isNull = false ∧ ∃ a, (g.group (.of key)).add i = .ok a ∧
        h = { g with groups := g.groups.insert (.of key) a } := by
  obtain ⟨null, passed⟩ | ⟨valid, a, taken, step⟩ | ⟨valid, e, refused, step⟩ := g.add_cases key i
  · simp [null, passed, eq_comm]
  · simp [valid, taken, step, eq_comm]
  · simp [valid, refused, step]

/-- The groups with one more input are those that are left where it is taken. Where an input is
refused they are dropped here, since the reading of a window fails with it. -/
theorem added_eq_ok_iff : g.added key i = .ok h ↔ g.add key i = (.ok (), h) := by
  obtain ⟨r, left⟩ : ∃ r, g.add key i = r := ⟨_, rfl⟩
  obtain ⟨r, h'⟩ := r
  rw [added, left]
  cases r <;> simp [Except.map]

/-- **A refused input changes no accumulator.** All that it leaves is a group of its key, without
inputs if the key had none. -/
theorem of_add_eq_error {e : EvalError} (refused : g.add key i = (.error e, h)) :
    h.function = g.function ∧ (∀ k, h.group k = g.group k) ∧
      ∀ k, h.groups.get? k = if k = .of key then some (g.group k) else g.groups.get? k := by
  obtain ⟨-, passed⟩ | ⟨-, a, -, step⟩ | ⟨-, e', -, step⟩ := g.add_cases key i
  · cases passed.symm.trans refused
  · cases step.symm.trans refused
  · obtain ⟨-, rfl⟩ := Prod.mk.inj (step.symm.trans refused)
    have held (k : GroupKey) : (g.groups.insert (.of key) (g.group (.of key))).get? k =
        if k = .of key then some (g.group k) else g.groups.get? k := by
      split
      · next same => rw [same, Dict.get?_insert_self]
      · next other => exact Dict.get?_insert_of_ne other _ _
    refine ⟨rfl, fun k => ?_, held⟩
    rw [group, held]
    split <;> rfl

/-- A word is refused by a sum, and the key that it came with is shown from then on. -/
example : ((empty .sum).add (.int 7) ⟨.zero, .text "x"⟩).2.value = .map [("7", .null)] := rfl

/-- The groups with one more accumulator for a key. -/
def join (groups : Dict GroupKey Accumulator) (e : GroupKey × Accumulator) :
    Except EvalError (Dict GroupKey Accumulator) :=
  match groups.get? e.1 with
  | some a => (a.merge e.2).map (groups.insert e.1)
  | none => .ok (groups.insert e.1 e.2)

/-- Two grouped accumulators are merged by joining the groups of the second into those of the first,
one by one. -/
theorem merge_eq_ok_iff : g.merge h = .ok m ↔
    ∃ groups, h.groups.entries.foldlM join g.groups = .ok groups ∧
      m = { g with groups := groups } := by
  have merge_eq : g.merge h = h.groups.entries.foldlM join g.groups >>= fun groups =>
      .ok { g with groups := groups } := rfl
  rw [merge_eq, bind_eq_ok_iff]
  simp [eq_comm]

/-- Joining a group changes the accumulator of its key only, to one that is joined from both. Where
the key was not bound before, the accumulator is taken over as it is. -/
theorem join_eq_ok {groups joined : Dict GroupKey Accumulator} {e : GroupKey × Accumulator}
    (h : join groups e = .ok joined) :
    ∃ c, joined = groups.insert e.1 c ∧
      Accumulator.Joined (groups.get? e.1) (some e.2) (some c) := by
  rw [join] at h
  split at h
  · next a held =>
    obtain ⟨c, merged, rfl⟩ := map_eq_ok_iff.1 h
    exact ⟨c, rfl, held ▸ .both merged⟩
  · next absent =>
    obtain rfl := Except.ok.inj h
    exact ⟨e.2, rfl, absent ▸ .right e.2⟩

/-- **Joining the groups one after the other** joins what is held for each key, by induction on the
groups. Keys are ordered, so no key comes twice and each is joined once. -/
theorem joined_of_foldlM {es : List (GroupKey × Accumulator)}
    (ordered : Dict.Ordered ⟨es⟩) {groups joined : Dict GroupKey Accumulator}
    (h : es.foldlM join groups = .ok joined) (k : GroupKey) :
    Accumulator.Joined (groups.get? k) (Dict.get? ⟨es⟩ k) (joined.get? k) := by
  induction es generalizing groups with
  | nil =>
    obtain rfl := Except.ok.inj h
    exact .left _
  | cons e es ih =>
    obtain ⟨l, b⟩ := e
    rw [List.foldlM_cons] at h
    obtain ⟨next, first, later⟩ := bind_eq_ok_iff.1 h
    obtain ⟨c, rfl, here⟩ := join_eq_ok first
    have after := ih (List.pairwise_cons.1 ordered).2 later
    by_cases same : k = l
    · -- no entry behind is of this key, so what the first one makes of it stays
      subst same
      rw [Dict.get?_insert_self, ordered.get?_rest] at after
      rw [show Dict.get? ⟨(k, b) :: es⟩ k = some b from Dict.findEntry_cons_self k b es]
      generalize joined.get? k = held at after
      cases after
      exact here
    · rw [Dict.get?_insert_of_ne same] at after
      rwa [show Dict.get? ⟨(l, b) :: es⟩ k = Dict.get? ⟨es⟩ k from
        Dict.findEntry_cons_of_ne same b es]

end Steps

/-- The inputs that came with a key, which is not null. -/
def inputsOf (fed : List (Value × Input)) (k : GroupKey) : List Input :=
  (fed.filter fun x => !x.1.isNull && GroupKey.of x.1 == k).map Prod.snd

/-- The inputs of a key are those from the first list and then those from the second. -/
@[simp] theorem inputsOf_append (fed fed' : List (Value × Input)) (k : GroupKey) :
    inputsOf (fed ++ fed') k = inputsOf fed k ++ inputsOf fed' k := by
  rw [inputsOf, List.filter_append, List.map_append]
  rfl

/-- A pair gives its input to the group of its key, and to none if its key is null. -/
theorem inputsOf_singleton (key : Value) (i : Input) (k : GroupKey) :
    inputsOf [(key, i)] k = if key.isNull = false ∧ GroupKey.of key = k then [i] else [] := by
  by_cases here : key.isNull = false ∧ GroupKey.of key = k
  · simp [inputsOf, here]
  · rw [if_neg here]
    simpa [inputsOf] using here

/-- Where a key has inputs there is one that came with it. -/
theorem exists_of_inputsOf_ne_nil (h : inputsOf fed k ≠ []) :
    ∃ x ∈ fed, x.1.isNull = false ∧ GroupKey.of x.1 = k := by
  obtain ⟨i, hi⟩ := List.exists_mem_of_ne_nil _ h
  obtain ⟨x, hx, -⟩ := List.mem_map.1 hi
  obtain ⟨member, here⟩ := List.mem_filter.1 hx
  exact ⟨x, member, by simpa using here⟩

/-- The groups with some more inputs, one after the other. -/
def addAll (g : GroupedAccumulator) (fed : List (Value × Input)) :
    Except EvalError GroupedAccumulator :=
  fed.foldlM (fun g x => g.added x.1 x.2) g

namespace Gathers

/-- Groups that take some inputs one after the other have gathered them as well, by induction on the
inputs with one of them at each step. -/
theorem addAll {fed' : List (Value × Input)} (gathers : Gathers f fed g)
    (added : g.addAll fed' = .ok h) : Gathers f (fed ++ fed') h := by
  induction fed' generalizing fed g with
  | nil =>
    obtain rfl := Except.ok.inj added
    rwa [List.append_nil]
  | cons x fed' ih =>
    rw [GroupedAccumulator.addAll, List.foldlM_cons] at added
    obtain ⟨next, first, later⟩ := bind_eq_ok_iff.1 added
    rw [← List.singleton_append, ← List.append_assoc]
    exact ih (gathers.add (added_eq_ok_iff.1 first)) later

/-- However inputs reach groups, the function stays the one that it started with. -/
theorem function_eq (gathers : Gathers f fed g) : g.function = f := by
  induction gathers with
  | empty => rfl
  | add _ added ih =>
    obtain ⟨-, rfl⟩ | ⟨-, a, -, rfl⟩ := add_eq_ok_iff.1 added
    · exact ih
    · exact ih
  | merge _ _ merged ih _ =>
    obtain ⟨groups, -, rfl⟩ := merge_eq_ok_iff.1 merged
    exact ih

/-- However inputs reach groups, the keys stay in their order. -/
theorem ordered (gathers : Gathers f fed g) : g.groups.Ordered := by
  induction gathers with
  | empty => exact Dict.ordered_empty
  | add _ added ih =>
    obtain ⟨-, rfl⟩ | ⟨-, a, -, rfl⟩ := add_eq_ok_iff.1 added
    · exact ih
    · exact Dict.ordered_insert ih _ a
  | merge _ _ merged ih _ =>
    obtain ⟨groups, joined, rfl⟩ := merge_eq_ok_iff.1 merged
    refine foldlM_preserves (P := Dict.Ordered) joined ih fun e _ before after step kept => ?_
    obtain ⟨c, rfl, -⟩ := join_eq_ok step
    exact Dict.ordered_insert kept e.1 c

/-- **A key has a group** just if it came with an input, and its accumulator gathers the inputs that
came with it. -/
theorem groupOf (gathers : Gathers f fed g) (k : GroupKey) :
    Accumulator.Holds f (inputsOf fed k) (g.groups.get? k) := by
  induction gathers with
  | empty => exact .nothing
  | @add fed key i g h gathered added ih =>
    rw [inputsOf_append, inputsOf_singleton]
    obtain ⟨null, rfl⟩ | ⟨valid, a, taken, rfl⟩ := add_eq_ok_iff.1 added
    · rw [if_neg (by simp [null]), List.append_nil]
      exact ih
    · by_cases same : GroupKey.of key = k
      · subst same
        rw [if_pos ⟨valid, rfl⟩, Dict.get?_insert_self]
        rw [GroupedAccumulator.group, gathered.function_eq] at taken
        exact ih.add taken
      · rw [if_neg (by simp [same]), List.append_nil, Dict.get?_insert_of_ne (Ne.symm same)]
        exact ih
  | merge _ gathered' merged ih ih' =>
    obtain ⟨groups, joined, rfl⟩ := merge_eq_ok_iff.1 merged
    rw [inputsOf_append]
    exact (joined_of_foldlM gathered'.ordered joined k).holds ih ih'

/-- The keys of the groups are those of values that came with an input, since a key whose inputs are
none has no group. -/
theorem exists_key (gathers : Gathers f fed g) (member : k ∈ g.groups.keys) :
    ∃ x ∈ fed, x.1.isNull = false ∧ GroupKey.of x.1 = k := by
  obtain ⟨⟨k, a⟩, bound, rfl⟩ := List.mem_map.1 member
  have held := gathers.groupOf k
  rw [(Dict.mem_entries_iff gathers.ordered).1 bound] at held
  exact exists_of_inputsOf_ne_nil held.gathers.1

end Gathers

section Names

/-- A text is shared if two keys have it. Keys with one text differ in their kinds. -/
theorem one_lt_sharing_of_ne (hk : k ∈ g.groups.keys) (hl : l ∈ g.groups.keys) (differ : k ≠ l)
    (same : k.text = l.text) : 1 < g.sharing k.text := by
  have both : [k, l] ⊆ g.groups.keys.filter fun m => m.text == k.text := by
    simp [hk, hl, same]
  have nodup : [k, l].Nodup := by simpa using differ
  exact (List.subperm_of_subset nodup both).length_le

/-- A text that is shared is that of a key besides any given one. Keys do not repeat, so two of them
with the text are two different ones. -/
theorem exists_of_one_lt_sharing (nodup : g.groups.keys.Nodup) (shared : 1 < g.sharing s)
    (l : GroupKey) : ∃ k ∈ g.groups.keys, k.text = s ∧ k ≠ l := by
  by_contra none_else
  push Not at none_else
  have only : (g.groups.keys.filter fun k => k.text == s) ⊆ [l] := fun k hk => by
    obtain ⟨member, same⟩ := List.mem_filter.1 hk
    exact List.mem_singleton.2 (none_else k member (by simpa using same))
  exact absurd (List.subperm_of_subset (nodup.filter _) only).length_le (not_le.2 shared)

/-- The name of a key whose text is shared spells another key, which is a text. -/
def Spells (g : GroupedAccumulator) (k l : GroupKey) : Prop :=
  1 < g.sharing k.text ∧ l = .of (.text (k.kind ++ ":" ++ k.text))

instance : Decidable (g.Spells k l) := inferInstanceAs (Decidable (_ ∧ _))

namespace Gathers

/-- A key that looks like a kind with a colon behind it is that of a text, because no value of
another kind is written in this way. -/
theorem eq_of_text (gathers : Gathers f fed g) (hk : k ∈ g.groups.keys) {w : Value}
    (spelt : k.text = w.typeName ++ ":" ++ s) : k = .of (.text k.text) := by
  obtain ⟨x, -, -, rfl⟩ := gathers.exists_key hk
  exact congrArg GroupKey.of (Value.eq_text_of_display spelt)

/-- A text that looks like a kind with a colon behind it is not shared: all keys with such a text
are texts, and there is one key for each text. -/
theorem not_shared_of_text (gathers : Gathers f fed g) {w : Value}
    (spelt : k.text = w.typeName ++ ":" ++ s) : ¬1 < g.sharing k.text := by
  intro shared
  obtain ⟨l, hl, same, differ⟩ :=
    exists_of_one_lt_sharing gathers.ordered.nodup_keys shared (.of (.text k.text))
  exact differ (same ▸ gathers.eq_of_text hl (same.trans spelt))

/-- A key that is spelt by the name of another one goes by its text, since its text looks like a
kind with a colon behind it and is not shared. -/
theorem not_shared_of_spells (gathers : Gathers f fed g) (hk : k ∈ g.groups.keys)
    (spells : g.Spells k l) : ¬1 < g.sharing l.text := by
  obtain ⟨x, -, -, rfl⟩ := gathers.exists_key hk
  exact gathers.not_shared_of_text (w := x.1) (s := x.1.display) (congrArg GroupKey.text spells.2)

/-- A key whose text is shared comes to one name with the key that it spells: the first is named
with its kind in front, and the second, whose text is not shared, is named by its text alone. -/
theorem name_eq_of_spells (gathers : Gathers f fed g) (hk : k ∈ g.groups.keys)
    (spells : g.Spells k l) : g.name k = g.name l := by
  rw [name, if_pos spells.1, name, if_neg (gathers.not_shared_of_spells hk spells), spells.2]
  rfl

/-- The name of a key whose text is shared, and the text of one whose text is not: if the two are
the same, the name spells the second key. This is the only way in which an entry is lost. -/
theorem spells_of_name_eq (gathers : Gathers f fed g) (hk : k ∈ g.groups.keys)
    (hl : l ∈ g.groups.keys) (shared : 1 < g.sharing k.text) (single : ¬1 < g.sharing l.text)
    (same : g.name k = g.name l) : g.Spells k l := by
  rw [name, if_pos shared, name, if_neg single] at same
  obtain ⟨x, -, -, rfl⟩ := gathers.exists_key hk
  refine ⟨shared, ?_⟩
  rw [same]
  exact gathers.eq_of_text hl (w := x.1) same.symm

/-- **Two keys come to one name** just if the name of one of them spells the other. Names of keys
that are both shared, or both not, differ: the first carry the kind, and the second are different
texts. -/
theorem name_eq_iff (gathers : Gathers f fed g) (hk : k ∈ g.groups.keys)
    (hl : l ∈ g.groups.keys) (differ : k ≠ l) :
    g.name k = g.name l ↔ g.Spells k l ∨ g.Spells l k := by
  constructor
  · intro same
    -- a name has the kind in it just where the text is shared
    by_cases shared : 1 < g.sharing k.text <;> by_cases shared' : 1 < g.sharing l.text
    · rw [name, if_pos shared, name, if_pos shared'] at same
      obtain ⟨x, -, -, rfl⟩ := gathers.exists_key hk
      obtain ⟨y, -, -, rfl⟩ := gathers.exists_key hl
      obtain ⟨kind, text⟩ := Value.typeName_append_inj same
      exact absurd (GroupKey.of_eq_iff.2 (Value.distinctKey_eq_iff.2 ⟨kind, text⟩)) differ
    · exact .inl (gathers.spells_of_name_eq hk hl shared shared' same)
    · exact .inr (gathers.spells_of_name_eq hl hk shared' shared same.symm)
    · rw [name, if_neg shared, name, if_neg shared'] at same
      exact absurd (one_lt_sharing_of_ne hk hl differ same) shared
  · rintro (spells | spells)
    · exact gathers.name_eq_of_spells hk spells
    · exact (gathers.name_eq_of_spells hl spells).symm

/-- The names of the keys differ just if none of them spells another key. So whether the value of
the groups has an entry for each of them can be read off the keys. -/
theorem nodup_names_iff (gathers : Gathers f fed g) :
    (g.groups.keys.map g.name).Nodup ↔
      ∀ k ∈ g.groups.keys, ∀ l ∈ g.groups.keys, ¬g.Spells k l := by
  rw [List.nodup_map_iff_inj_on gathers.ordered.nodup_keys]
  constructor
  · intro apart k hk l hl spells
    obtain rfl := apart k hk l hl (gathers.name_eq_of_spells hk spells)
    exact gathers.not_shared_of_spells hk spells spells.1
  · intro none_spelt k hk l hl same
    by_contra differ
    rcases (gathers.name_eq_iff hk hl differ).1 same with spells | spells
    · exact none_spelt k hk l hl spells
    · exact none_spelt l hl k hk spells

end Gathers

/-- What the value of the groups is to show: for each group its name and its value. -/
def shown (g : GroupedAccumulator) : List (String × Value) :=
  g.groups.entries.map fun e => (g.name e.1, e.2.value)

/-- The entries of the value stand under the names of the keys, in the order of the keys. -/
theorem map_fst_shown (g : GroupedAccumulator) :
    g.shown.map Prod.fst = g.groups.keys.map g.name := by
  rw [shown, List.map_map, Dict.keys, List.map_map]
  rfl

end Names

/-- **Each group has an entry of its own**, with the value of the accumulator that gathers its
inputs, just if no key is the text that the name of another one spells. In any case the names of the
entries increase, and each entry is that of a group. A name is made of the kind and the text of a
key where several keys have one text. -/
theorem Gathers.entry_of_each_group_iff (gathers : Gathers f fed g) :
    (∀ k, Accumulator.Holds f (inputsOf fed k) (g.groups.get? k)) ∧
      ∃ entries, g.value = .map entries ∧
        entries.Pairwise (fun x y => compare x.1 y.1 = .lt) ∧
        (∀ e ∈ entries, ∃ k a, g.groups.get? k = some a ∧ e = (g.name k, a.value)) ∧
        (entries.Perm g.shown ↔
          ∀ k ∈ g.groups.keys, ∀ l ∈ g.groups.keys, ¬g.Spells k l) := by
  refine ⟨gathers.groupOf, (Dict.ofList g.shown).entries, rfl, Dict.ordered_ofList g.shown,
    fun e he => ?_, ?_⟩
  · obtain ⟨⟨k, a⟩, bound, rfl⟩ := List.mem_map.1 (Dict.mem_of_mem_ofList he)
    exact ⟨k, a, (Dict.mem_entries_iff gathers.ordered).1 bound, rfl⟩
  · rw [← gathers.nodup_names_iff, ← map_fst_shown]
    refine ⟨fun each => ?_, Dict.perm_entries_ofList⟩
    exact (each.map Prod.fst).nodup_iff.1 (Dict.ordered_ofList g.shown).nodup_keys

section Marks

/-- Marks with some keys. -/
def marks (keys : List Value) : List (Value × Input) :=
  keys.map fun key => (key, ⟨.zero, .bool true⟩)

/-- The groups that count the marks with some keys. -/
def countMarks (keys : List Value) : Except EvalError GroupedAccumulator :=
  (empty .count).addAll (marks keys)

/-- A number and a text that look alike are counted apart, also where a second count joins in. -/
theorem Gathers.entries_of_marks :
    let fed := marks [.int 1, .text "1", .null] ++ marks [.text "1", .text "2"]
    ∃ g, Gathers .count fed g ∧ (∀ k ∈ g.groups.keys, ∀ l ∈ g.groups.keys, ¬g.Spells k l) ∧
      g.value = .map [("2", .int 1), ("int:1", .int 1), ("string:1", .int 2)] ∧
      ∃ entries, g.value = .map entries ∧ entries.Perm g.shown := by
  intro fed
  obtain ⟨g, h, m, first, second, merged, apart, value⟩ : ∃ g h m,
      countMarks [.int 1, .text "1", .null] = .ok g ∧
      countMarks [.text "1", .text "2"] = .ok h ∧ g.merge h = .ok m ∧
      (∀ k ∈ m.groups.keys, ∀ l ∈ m.groups.keys, ¬m.Spells k l) ∧
      m.value = .map [("2", .int 1), ("int:1", .int 1), ("string:1", .int 2)] :=
    ⟨_, _, _, rfl, rfl, rfl, by decide, rfl⟩
  have gathers : Gathers .count fed m :=
    .merge (Gathers.empty.addAll first) (Gathers.empty.addAll second) merged
  obtain ⟨-, entries, shows, -, -, each⟩ := entry_of_each_group_iff gathers
  exact ⟨m, gathers, apart, value, entries, shows, each.2 apart⟩

/-- The text `int:1` and the number that shares its text with another key have one entry. The number
and the text `1` are named with their kinds, and the name of the number is the third key. -/
theorem count_loses_group_of_spelt_text :
    ∃ g, Gathers .count (marks [.int 1, .text "1", .text "int:1"]) g ∧ g.groups.size = 3 ∧
      g.value = .map [("int:1", .int 1), ("string:1", .int 1)] := by
  obtain ⟨g, counted, size, value⟩ : ∃ g,
      countMarks [.int 1, .text "1", .text "int:1"] = .ok g ∧ g.groups.size = 3 ∧
      g.value = .map [("int:1", .int 1), ("string:1", .int 1)] :=
    ⟨_, rfl, rfl, rfl⟩
  exact ⟨g, Gathers.empty.addAll counted, size, value⟩

end Marks

end GroupedAccumulator
end Hindsight
