import Hindsight.Event.Json
import Hindsight.Proofs.Json.Decode
import Hindsight.Proofs.Json.Nesting
import Hindsight.Proofs.Json.Text
import Hindsight.Proofs.Time.Text
import Hindsight.Proofs.Value.Json

/-!
# Events are read back

Decoding an event flattens nested attributes to dotted names and takes integers for ids; the tree
that is written for an event has neither. An attribute of a decoded event is the value of a tree
that is no object (`Event.isOfLeaf_of_decode`), so nothing is flattened a second time, and the event
is one that JSON holds as it is (`Event.heldByJson_of_decode`). Such an event is decoded from its
tree (`Event.decode_toJson`), which is nested no deeper than the one that the event came from
(`Event.nesting_toJson_le_of_decode`), so **a decoded event is read back** from its tree and from
its text (`Event.decoded_reads_back`).
-/

namespace Hindsight
namespace Event

open Json (HasValue IsFinite)

/-- A value is that of a tree that is no object and has a property. -/
def IsOfLeaf (P : Json → Prop) (v : Value) : Prop :=
  ∃ leaf, P leaf ∧ (∀ members, leaf ≠ .object members) ∧ v = Value.ofJson leaf

section Leaves

variable {P : Json → Prop}

mutual

/-- **An attribute that a member contributes** is the value of a tree in it that is no object.
Whatever members inherit from objects is known of that tree. -/
theorem isOfLeaf_of_mem_leaves
    (inherited : ∀ {members : List (String × Json)}, P (.object members) → ∀ m ∈ members, P m.2) :
    ∀ (j : Json) (path : String), P j → ∀ a ∈ leaves path j, IsOfLeaf P a.2
  | .object members, path, h => isOfLeaf_of_mem_leavesOfMembers inherited members _ (inherited h)
  | .null, _, h | .bool _, _, h | .int _, _, h | .float _, _, h | .string _, _, h
  | .array _, _, h | .fault _, _, h => by
    refine fun a ha => ⟨_, h, nofun, ?_⟩
    rw [List.mem_singleton.1 ha]

/-- The attributes of nested members come from leaves, along with those of a single value. -/
theorem isOfLeaf_of_mem_leavesOfMembers
    (inherited : ∀ {members : List (String × Json)}, P (.object members) → ∀ m ∈ members, P m.2) :
    ∀ (members : List (String × Json)) (stem : String), (∀ m ∈ members, P m.2) →
      ∀ a ∈ leavesOfMembers stem members, IsOfLeaf P a.2
  | [], _, _ => fun _ ha => absurd ha List.not_mem_nil
  | (k, j) :: rest, stem, h => by
    obtain ⟨first, later⟩ := List.forall_mem_cons.1 h
    intro a ha
    rcases List.mem_append.1 ha with here | there
    · exact isOfLeaf_of_mem_leaves inherited j _ first a here
    · exact isOfLeaf_of_mem_leavesOfMembers inherited rest stem later a there

end

end Leaves

section Decoding

variable {j : Json} {e : Event}

/-- What a decoded event is made of: a record of the members, and what is checked of it in the
end. -/
theorem exists_record_of_decode (h : decode j = .ok e) :
    ∃ r absent type time entities, Json.decodeMembers recordShape Record.start j = .ok (r, absent) ∧
      ofRecord r type time entities = .ok e := by
  obtain ⟨⟨r, absent⟩, members, h⟩ := bind_eq_ok_iff.1 h
  obtain ⟨type, -, h⟩ := bind_eq_ok_iff.1 h
  obtain ⟨time, -, h⟩ := bind_eq_ok_iff.1 h
  obtain ⟨entities, -, h⟩ := bind_eq_ok_iff.1 h
  refine ⟨r, absent, type, time, entities, members, ?_⟩
  split at h
  · next made => rw [made, Except.ok.inj h]
  · cases h

/-- The event that a record makes, and what was checked of it: a type that is not blank and at least
one entity. -/
theorem ofRecord_eq_ok {r : Record} {type : String} {time : Time.Instant} {given : Dict String Json}
    (h : ofRecord r type time given = .ok e) :
    ∃ entries id, e = ⟨type, time, Dict.ofList entries, id, r.experiment.getD none,
        ((r.attributes.getD none).map flatten).getD .empty⟩ ∧
      (Text.trimChars type.toList).isEmpty = false ∧ (Dict.ofList entries).isEmpty = false := by
  obtain ⟨entities, ids, h⟩ := bind_eq_ok_iff.1 h
  obtain ⟨entries, -, made⟩ := bind_eq_ok_iff.1 ids
  obtain rfl := Except.ok.inj made
  obtain ⟨id, -, h⟩ := bind_eq_ok_iff.1 h
  obtain ⟨bare, created, h⟩ := bind_eq_ok_iff.1 h
  obtain rfl := Except.ok.inj h
  unfold create at created
  split at created
  · cases created
  · next named =>
    split at created
    · cases created
    · next someone =>
      obtain rfl := Except.ok.inj created
      exact ⟨entries, id, rfl, Bool.eq_false_iff.2 named, Bool.eq_false_iff.2 someone⟩

/-- A part of a tree leaves the attributes of a record alone, or it is the one that gives them. They
are given once at most. -/
theorem step_attributes {r r' : Record} {name : String} {part : Json}
    (h : recordShape.step r name part = .ok r') :
    r'.attributes = r.attributes ∧ name ≠ "attrs" ∨
      name = "attrs" ∧ r.attributes = none ∧ ∃ given, r'.attributes = some given ∧
        Json.decodeOption (Json.decodeDict Json.decodeAny) part = .ok given := by
  simp only [recordShape] at h
  split at h
  all_goals
    first
      | obtain ⟨x, decoded, made⟩ := bind_eq_ok_iff.1 h
        obtain rfl := Except.ok.inj made
      | obtain rfl := Except.ok.inj h
  iterate 5 exact .inl ⟨rfl, by decide⟩
  · obtain ⟨free, given, read, rfl⟩ := Json.once_eq_ok decoded
    exact .inr ⟨rfl, free, given, rfl, read⟩
  · next other => exact .inl ⟨rfl, other⟩

/-- **An attribute of a decoded event** is the value of a tree that is no object and stands in a
member of an object among the parts of the event. -/
theorem isOfLeaf_of_decode {P : Json → Prop}
    (inherited : ∀ {members : List (String × Json)}, P (.object members) → ∀ m ∈ members, P m.2)
    (given : ∀ members, .object members ∈ j.parts → ∀ m ∈ members, P m.2.canonical)
    (h : decode j = .ok e) :
    ∀ a ∈ e.attributes.entries, IsOfLeaf P a.2 := by
  obtain ⟨r, absent, type, time, entities, members, made⟩ := exists_record_of_decode h
  obtain ⟨entries, id, rfl, -, -⟩ := ofRecord_eq_ok made
  have read : ∀ d, r.attributes = some (some d) → ∀ m ∈ d.entries, P m.2 := by
    refine Json.decodeMembers_preserves
      (P := fun r : Record => ∀ d, r.attributes = some (some d) → ∀ m ∈ d.entries, P m.2)
      members nofun fun part hpart name r r' step kept d hd => ?_
    rcases step_attributes step with ⟨same, -⟩ | ⟨-, -, attrs, here, read⟩
    · exact kept d (same ▸ hd)
    · obtain rfl := Option.some.inj (here.symm.trans hd)
      obtain ⟨members, rfl, rfl⟩ := Json.decodeDict_decodeAny (Json.decodeOption_eq_ok_some read)
      intro m hm
      have member := Dict.mem_of_mem_ofList hm
      rw [Json.canonicalMembers_eq] at member
      obtain ⟨m', hm', rfl⟩ := List.mem_map.1 member
      exact given members hpart m' hm'
  intro a ha
  cases attrs : r.attributes with
  | none => simp [attrs, Dict.empty] at ha
  | some attrs' =>
    cases attrs' with
    | none => simp [attrs, Dict.empty] at ha
    | some d =>
      simp only [attrs, Option.getD_some, Option.map_some, flatten] at ha
      exact isOfLeaf_of_mem_leavesOfMembers inherited d.entries "" (read d attrs) a
        (Dict.mem_of_mem_ofList ha)

end Decoding

/-- **An event that JSON holds as it is.** -/
structure HeldByJson (e : Event) : Prop where
  named : (Text.trimChars e.type.toList).isEmpty = false
  someone : e.entities.isEmpty = false
  entities : e.entities.Ordered
  attributes : e.attributes.Ordered
  held : ∀ a ∈ e.attributes.entries, a.2.HeldByJson
  flat : ∀ a ∈ e.attributes.entries, ∀ entries, a.2 ≠ .map entries

/-- The value of a tree is a map only if the tree is an object. So the leaves of attributes are no
maps. -/
theorem ofJson_ne_map {j : Json} (h : ∀ members, j ≠ .object members)
    (entries : List (String × Value)) : Value.ofJson j ≠ .map entries := by
  cases j with
  | object members => exact absurd rfl (h members)
  | int n =>
    rw [Value.ofJson]
    split <;> exact nofun
  | null | bool _ | float _ | string _ | array _ | fault _ => exact nofun

/-- **A decoded event** is held by JSON. So it can be written and read back, whatever it was decoded
from. -/
theorem heldByJson_of_decode {j : Json} {e : Event} (numbers : j.Every IsFinite)
    (h : decode j = .ok e) : e.HeldByJson := by
  have leaf := isOfLeaf_of_decode (P := (·.Every IsFinite))
    (fun all => Json.everyOfMembers_iff.1 all)
    (fun members hpart m hm => Json.every_canonical m.2
      (Json.everyOfMembers_iff.1 (Json.every_of_mem_parts numbers hpart) m hm)) h
  obtain ⟨r, absent, type, time, given, -, made⟩ := exists_record_of_decode h
  obtain ⟨entries, id, rfl, named, someone⟩ := ofRecord_eq_ok made
  refine ⟨named, someone, Dict.ordered_ofList entries, ?_, fun a ha => ?_, fun a ha => ?_⟩
  · cases r.attributes.getD none with
    | none => exact Dict.ordered_empty
    | some d => exact Dict.ordered_ofList _
  · obtain ⟨j, finite, -, same⟩ := leaf a ha
    rw [same]
    exact Value.heldByJson_ofJson j finite
  · obtain ⟨j, -, apart, same⟩ := leaf a ha
    rw [same]
    exact ofJson_ne_map apart

section Encoding

variable {e : Event}

/-- Strings that are given for entities are their ids, and come back under their types. -/
theorem entitiesOfJson_strings {d : Entities} (ordered : d.Ordered) :
    entitiesOfJson (d.map Json.string) = .ok d := by
  unfold entitiesOfJson
  refine bind_eq_ok_iff.2 ⟨d.entries, mapM_eq_ok_iff.2 ?_, congrArg _ (Dict.ofList_entries ordered)⟩
  rw [Dict.map, List.forall₂_map_left_iff, List.forall₂_same]
  exact fun _ _ => rfl

/-- Something that is no map becomes one attribute, with itself as the value. -/
theorem leaves_toJson {v : Value} (held : v.HeldByJson) (flat : ∀ es, v ≠ .map es)
    (path : String) : leaves path v.toJson = [(path, v)] := by
  have back := Value.ofJson_toJson v held
  cases v with
  | map es => exact absurd rfl (flat es)
  | float x =>
    rw [Value.toJson_float held] at back ⊢
    exact congrArg (fun v => [(path, v)]) back
  | null | bool _ | int _ | text _ | list _ => exact congrArg (fun v => [(path, v)]) back
  | negativeNaN | instant _ => exact held.elim

/-- Attributes that are no maps are leaves of their own, so they are read back under their names. -/
theorem leavesOfMembers_toJson {entries : List (String × Value)}
    (held : ∀ a ∈ entries, a.2.HeldByJson) (flat : ∀ a ∈ entries, ∀ es, a.2 ≠ .map es) :
    leavesOfMembers "" (entries.map fun a => (a.1, a.2.toJson)) = entries := by
  induction entries with
  | nil => rfl
  | cons a rest ih =>
    obtain ⟨held_here, held_later⟩ := List.forall_mem_cons.1 held
    obtain ⟨flat_here, flat_later⟩ := List.forall_mem_cons.1 flat
    rw [List.map_cons, leavesOfMembers, leaves_toJson held_here flat_here,
      ih held_later flat_later, String.empty_append, List.singleton_append]

/-- **Attributes that are no maps** are flat already, so flattening what was written gives them
back. -/
theorem flatten_toJson {d : Dict String Value} (ordered : d.Ordered)
    (held : ∀ a ∈ d.entries, a.2.HeldByJson) (flat : ∀ a ∈ d.entries, ∀ es, a.2 ≠ .map es) :
    flatten (d.map Value.toJson) = d := by
  rw [flatten, Dict.map, leavesOfMembers_toJson held flat, Dict.ofList_entries ordered]

/-- The record that an event is read back into. -/
def asRecord (e : Event) : Record where
  type := some e.type
  time := some e.time
  entities := some (e.entities.map Json.string)
  id := e.id.map fun id => some (Json.string id)
  experiment := e.experiment.map some
  attributes := some (some (e.attributes.map Value.toJson))

/-- The members of the tree of an event are decoded to its record, each member once and none of them
unknown. -/
theorem decodeMembers_toJson (h : e.HeldByJson) :
    Json.decodeMembers recordShape Record.start e.toJson = .ok (e.asRecord, .missingField) := by
  have time : Json.decodeInstant (.string e.time.text) = .ok e.time := by
    simp only [Json.decodeInstant, Json.decodeString, Time.Instant.readInstant_text, ok_bind]
  have entities := Json.decodeDict_decodeAny_entries (h.entities.map Json.string) fun m hm => by
    obtain ⟨a, -, rfl⟩ := List.mem_map.1 hm
    exact ⟨rfl, rfl⟩
  have attributes := Json.decodeDict_decodeAny_entries (h.attributes.map Value.toJson)
    fun m hm => by
      obtain ⟨a, ha, rfl⟩ := List.mem_map.1 hm
      have held := h.held a ha
      exact ⟨Json.isReadable_of_every _ (Value.every_toJson a.2 held),
        Value.canonical_toJson a.2 held⟩
  have string (s : String) : Json.decodeAny (.string s) = .ok (.string s) := rfl
  obtain ⟨type, t, es, id, experiment, attrs⟩ := e
  -- An id and an experiment that are not set are no members, so the members are four lists.
  cases id <;> cases experiment <;>
    simp [toJson, asRecord, Json.decodeMembers, recordShape, Record.start, Json.once, time,
      entities, attributes, Json.decodeOption, Json.decodeString, string, Except.map, pure,
      Except.pure]

/-- **The record of an event is that event again**: its type, its time and its entities are there,
and its attributes are read back from their trees. -/
theorem ofRecord_asRecord (h : e.HeldByJson) :
    ofRecord e.asRecord e.type e.time (e.entities.map Json.string) = .ok e := by
  have flat := flatten_toJson h.attributes h.held h.flat
  obtain ⟨type, t, es, id, experiment, attrs⟩ := e
  rw [ofRecord, entitiesOfJson_strings h.entities]
  cases id <;> cases experiment <;>
    simp [asRecord, idOfJson, idOfJson?, create, h.named, h.someone, flat, pure, Except.pure]

/-- **An event that JSON holds** is read back from its tree, with its type, time, id, experiment,
entities and attributes. -/
theorem decode_toJson (h : e.HeldByJson) : decode e.toJson = .ok e := by
  have type : e.asRecord.type = some e.type := rfl
  have time : e.asRecord.time = some e.time := rfl
  have entities : e.asRecord.entities = some (e.entities.map Json.string) := rfl
  rw [decode, decodeMembers_toJson h, ok_bind]
  simp only [Json.required, type, time, entities, ok_bind, ofRecord_asRecord h]
  rfl

/-- What holds of texts, of the entities and of the attributes holds of every part of an event. Each
fact about the tree is then proved for these three. -/
theorem forall_mem_parts_toJson {P : Json → Prop} (text : ∀ s, P (.string s))
    (entities : P (.object (e.entities.map Json.string).entries))
    (attributes : P (.object (e.attributes.map Value.toJson).entries)) :
    ∀ part ∈ e.toJson.parts, P part := by
  obtain ⟨type, time, es, id, experiment, attrs⟩ := e
  cases id <;> cases experiment <;> simp_all [toJson, Json.parts]

/-- The tree of an event that JSON holds is made of scalars with a value of their own, which is what
its text needs. -/
theorem every_toJson (h : e.HeldByJson) : e.toJson.Every HasValue := by
  have parts := forall_mem_parts_toJson (P := (·.Every HasValue)) (e := e) (fun _ => trivial)
    (Json.everyOfMembers_iff.2 fun m hm => by
      obtain ⟨a, -, rfl⟩ := List.mem_map.1 hm
      trivial)
    (Json.everyOfMembers_iff.2 fun m hm => by
      obtain ⟨a, ha, rfl⟩ := List.mem_map.1 hm
      exact Value.every_toJson a.2 (h.held a ha))
  exact Json.everyOfMembers_iff.2 fun m hm => parts m.2 (List.mem_map_of_mem hm)

/-- The tree of an event is nested two deeper than those of its attributes, by the event and by the
object of the attributes. -/
theorem nesting_toJson_le {n : Nat} (shallow : ∀ a ∈ e.attributes.entries, a.2.toJson.nesting ≤ n) :
    e.toJson.nesting ≤ n + 2 := by
  have parts := forall_mem_parts_toJson (P := (·.nesting ≤ n + 1)) (e := e)
    (fun _ => Nat.zero_le _)
    (Nat.succ_le_succ (Json.nestingOfMembers_le_iff.2 fun m hm => by
      obtain ⟨a, -, rfl⟩ := List.mem_map.1 hm
      exact Nat.zero_le n))
    (Nat.succ_le_succ (Json.nestingOfMembers_le_iff.2 fun m hm => by
      obtain ⟨a, ha, rfl⟩ := List.mem_map.1 hm
      exact shallow a ha))
  exact Nat.succ_le_succ <| Json.nestingOfMembers_le_iff.2 fun m hm =>
    parts m.2 (List.mem_map_of_mem hm)

/-- The tree of an event that was decoded from a tree of at most that nesting is nested no
deeper. -/
theorem nesting_toJson_le_of_decode {j : Json} {n : Nat} (nested : j.nesting ≤ n + 2)
    (read : decode j = .ok e) : e.toJson.nesting ≤ n + 2 := by
  have inner {members : List (String × Json)} {m : String × Json} (hm : m ∈ members) :
      m.2.nesting < (Json.object members).nesting :=
    Json.nesting_lt_of_mem_parts (List.mem_map_of_mem hm)
  have leaf := isOfLeaf_of_decode (P := (·.nesting ≤ n))
    (fun within m hm => (inner hm).le.trans within)
    (fun members hpart m hm => by
      have outer := Json.nesting_lt_of_mem_parts hpart
      have kept := Json.nesting_canonical_le m.2
      have := inner hm
      omega) read
  refine nesting_toJson_le fun a ha => ?_
  obtain ⟨k, within, -, same⟩ := leaf a ha
  rw [same]
  exact (Value.nesting_toJson_ofJson_le k).trans within

end Encoding

/-- **A decoded event is read back.** It is decoded from its own tree; if it was decoded from the
tree of a text, it is also read from its own text, provided that the text of each float in it is
read as the float. The number of such a text is rounded, so this has to be known of each float. -/
theorem decoded_reads_back {j : Json} {e : Event} (numbers : j.Every IsFinite)
    (decoded : decode j = .ok e) :
    decode e.toJson = .ok e ∧
      ∀ s, (Json.Document.ofText s).root = j → e.toJson.Every Json.FloatReadsBack →
        ofText e.toJson.text = .ok e := by
  have held := heldByJson_of_decode numbers decoded
  have back := decode_toJson held
  refine ⟨back, fun s same floats => ?_⟩
  have nested : j.nesting ≤ 125 + 2 := same ▸ Json.Document.nesting_ofText_le s
  have document := Json.Document.ofText_text (every_toJson held) floats
    (nesting_toJson_le_of_decode nested decoded)
  rw [ofText, document, Json.Document.decode, back]
  rfl

section Order

/-- An order in a leap second of a year before the first one, with integers for ids and nested
attributes. -/
def leapOrderTree : Json :=
  .object [("event_type", .string "order"), ("event_time", .string " -0001-12-31 23:59:60.25"),
    ("entities", .object [("customer", .int 42), ("city", .string "Sydney")]),
    ("event_id", .int 17), ("experiment_id", .string "late"),
    ("attrs", .object [("note", .string "a \"b\"\n"), ("item", .object [("count", .int 12),
      ("size.cm", .array [.object [("y", .null), ("x", .bool true)], .int (-3)])])])]

/-- The event of that order. -/
def leapOrder : Event :=
  ⟨"order", ⟨-367, 86399, 1250000000, by decide⟩,
    ⟨[("city", "Sydney"), ("customer", "42")]⟩, some "17", some "late",
    ⟨[("item.count", .int 12),
      ("item.size.cm", .list [.map [("x", .bool true), ("y", .null)], .int (-3)]),
      ("note", .text "a \"b\"\n")]⟩⟩

/-- The order is decoded, and it is read back from its tree and from its text. Its time is a leap
second, and its customer is given by a number. -/
theorem leapOrder_reads_back :
    decode leapOrderTree = .ok leapOrder ∧ decode leapOrder.toJson = .ok leapOrder ∧
      ofText leapOrder.toJson.text = .ok leapOrder := by
  have decoded : decode leapOrderTree = .ok leapOrder := rfl
  have numbers : leapOrderTree.Every IsFinite := by
    simp only [leapOrderTree, Json.Every, Json.EveryOfMembers, Json.EveryOfItems, IsFinite]
    decide
  have values : leapOrderTree.Every HasValue := by repeat' constructor
  have text : (Json.Document.ofText leapOrderTree.text).root = leapOrderTree := by
    rw [Json.Document.ofText_text values (by repeat' constructor) (by decide)]
  have back := decoded_reads_back numbers decoded
  exact ⟨decoded, back.1, back.2 leapOrderTree.text text (by repeat' constructor)⟩

end Order

end Event
end Hindsight
