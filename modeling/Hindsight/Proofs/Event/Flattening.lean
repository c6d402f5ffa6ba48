import Hindsight.Proofs.Event.Json
import Hindsight.Proofs.Json.Path

/-!
# Nested attributes

Flattening goes through nested objects with the path so far as a stem and collects what is no
object: a tree contributes its leaves, each under its dotted path behind the stem
(`Event.mem_leaves_iff`). Objects without members contribute nothing, and names may be empty or have
points in them, so two leaves can have one dotted path, and then the last stays. Where no two have,
the flattened members are the leaves (`Event.mem_flatten_iff`), hence **a decoded event has exactly
one attribute for each leaf** of what its tree gives for them
(`Event.decoded_attributes_are_leaves`).
-/

namespace Hindsight
namespace Event

open Json (canonicalMembers)

section Leaves

variable {a : String × Value} {stem : String}

/-- What members contribute to the attributes, one after the other. The name of each comes behind
the stem. -/
theorem leavesOfMembers_eq (stem : String) (members : List (String × Json)) :
    leavesOfMembers stem members = members.flatMap fun m => leaves (stem ++ m.1) m.2 := by
  induction members with
  | nil => rfl
  | cons m rest ih => rw [leavesOfMembers, ih, List.flatMap_cons]

/-- What is no object contributes its own value, under the stem itself. -/
theorem leaves_canonical {j : Json} (h : ∀ members, j ≠ .object members) (stem : String) :
    leaves stem j.canonical = [(stem, Value.ofJson j)] := by
  rw [← Value.ofJson_canonical j]
  cases j with
  | object members => exact absurd rfl (h members)
  | _ => rfl

/-- An attribute is the value of a leaf, under the dotted path to it behind a stem. -/
def IsAtLeaf (j : Json) (stem : String) (a : String × Value) : Prop :=
  ∃ path leaf, j.LeafAt path leaf ∧ a = (".".intercalate (stem :: path), Value.ofJson leaf)

/-- **The members of an object** contribute its leaves, if what it has at each name contributes
its own. -/
theorem mem_leavesOfMembers_iff {members : List (String × Json)}
    (each : ∀ name part, (Json.object members).get? name = some part →
      ∀ stem, a ∈ leaves stem part.canonical ↔ IsAtLeaf part stem a) :
    a ∈ leavesOfMembers stem (Dict.ofList (canonicalMembers members)).entries ↔
      ∃ path leaf, (Json.object members).LeafAt path leaf ∧
        a = (stem ++ ".".intercalate path, Value.ofJson leaf) := by
  rw [leavesOfMembers_eq, List.mem_flatMap]
  constructor
  · rintro ⟨⟨name, tree⟩, member, contributed⟩
    have bound := (Dict.mem_entries_iff (Dict.ordered_ofList _)).1 member
    rw [Json.get?_canonicalMembers] at bound
    obtain ⟨part, here, rfl⟩ := Option.map_eq_some_iff.1 bound
    obtain ⟨path, leaf, there, rfl⟩ := (each name part here _).1 contributed
    refine ⟨name :: path, leaf, Json.leafAt_object_iff.2 ⟨name, path, part, rfl, here, there⟩, ?_⟩
    rw [String.intercalate_cons_append]
  · rintro ⟨path, leaf, reached, rfl⟩
    obtain ⟨name, rest, part, rfl, here, there⟩ := Json.leafAt_object_iff.1 reached
    refine ⟨(name, part.canonical), (Dict.mem_entries_iff (Dict.ordered_ofList _)).2 ?_,
      (each name part here _).2 ⟨rest, leaf, there, ?_⟩⟩
    · rw [Json.get?_canonicalMembers, here]
      rfl
    · rw [String.intercalate_cons_append]

/-- **A tree contributes its leaves.** An attribute is contributed just if a path leads from the
root to a tree that is no object, and the names along the path make up its name. -/
theorem mem_leaves_iff (j : Json) (stem : String) :
    a ∈ leaves stem j.canonical ↔ IsAtLeaf j stem a := by
  induction nested : j.nesting using Nat.strong_induction_on generalizing j stem with
  | h n ih =>
    by_cases object : ∃ members, j = .object members
    · obtain ⟨members, rfl⟩ := object
      rw [Json.canonical, leaves, mem_leavesOfMembers_iff fun name part here stem =>
        ih part.nesting (nested ▸ Json.nesting_lt_of_mem_parts
          (List.mem_map_of_mem (Json.mem_of_get? here))) part stem rfl]
      refine exists_congr fun path => exists_congr fun leaf => and_congr_right fun reached => ?_
      obtain ⟨name, rest, -, rfl, -⟩ := Json.leafAt_object_iff.1 reached
      rw [String.intercalate_cons_cons]
    · have apart : ∀ members, j ≠ .object members := fun members same => object ⟨members, same⟩
      rw [leaves_canonical apart, List.mem_singleton]
      simp [IsAtLeaf, Json.leafAt_iff_of_ne_object apart]

/-- **Flattening loses nothing.** If no two leaves of an object have one dotted path, its flattened
members are its leaves under their dotted paths. -/
theorem mem_flatten_iff {members : List (String × Json)}
    (apart : ∀ p q l m, (Json.object members).LeafAt p l → (Json.object members).LeafAt q m →
      ".".intercalate p = ".".intercalate q → p = q) :
    a ∈ (flatten (Dict.ofList (canonicalMembers members))).entries ↔
      ∃ path leaf, (Json.object members).LeafAt path leaf ∧
        a = (".".intercalate path, Value.ofJson leaf) := by
  have contributed {a : String × Value} :
      a ∈ leavesOfMembers "" (Dict.ofList (canonicalMembers members)).entries ↔
        ∃ path leaf, (Json.object members).LeafAt path leaf ∧
          a = (".".intercalate path, Value.ofJson leaf) := by
    rw [mem_leavesOfMembers_iff fun _ part _ stem => mem_leaves_iff part stem]
    simp only [String.empty_append]
  rw [flatten, Dict.mem_entries_ofList_iff, contributed]
  intro d hd e he same
  obtain ⟨p, l, hl, rfl⟩ := contributed.1 hd
  obtain ⟨q, m, hm, rfl⟩ := contributed.1 he
  obtain rfl := apart p q l m hl hm same
  obtain rfl := Option.some.inj (hl.1.symm.trans hm.1)
  rfl

end Leaves

section Decoding

variable {j : Json} {e : Event} {members : List (String × Json)}

/-- **The attributes of a decoded event** are the flattened members of what its tree gives for
them. -/
theorem attributes_of_decode (decoded : decode j = .ok e)
    (given : recordShape.given? "attrs" j = some (.object members)) :
    e.attributes = flatten (Dict.ofList (canonicalMembers members)) := by
  obtain ⟨r, absent, type, time, entities, read, made⟩ := exists_record_of_decode decoded
  obtain ⟨entries, id, rfl, -, -⟩ := ofRecord_eq_ok made
  have attributes : r.attributes = some (some (Dict.ofList (canonicalMembers members))) := by
    refine Json.decodeMembers_reaches
      (P := fun r => r.attributes = some (some (Dict.ofList (canonicalMembers members))))
      read (by simp [recordShape]) given (fun s t step => ?_) fun name part s t step kept => ?_
    · rcases step_attributes step with ⟨-, other⟩ | ⟨-, -, attrs, here, part⟩
      · exact absurd rfl other
      · obtain ⟨d, dict, rfl⟩ := map_eq_ok_iff.1 part
        obtain ⟨_, same, rfl⟩ := Json.decodeDict_decodeAny dict
        obtain rfl := Json.object.inj same
        exact here
    · rcases step_attributes step with ⟨same, -⟩ | ⟨-, free, -⟩
      · exact same.trans kept
      · cases free.symm.trans kept
  rw [attributes]
  rfl

/-- **Flattening loses nothing.** If no two leaves of the object that is given for the attributes of
a decoded event have one dotted path, each leaf is an attribute under its dotted path, each
attribute is that of one leaf, and none is a map. Where two leaves share a path, one of them would
be overwritten. -/
theorem decoded_attributes_are_leaves (decoded : decode j = .ok e)
    (given : recordShape.given? "attrs" j = some (.object members))
    (apart : ∀ p q l m, (Json.object members).LeafAt p l → (Json.object members).LeafAt q m →
      ".".intercalate p = ".".intercalate q → p = q) :
    e.attributes.keys.Nodup ∧
      (∀ path leaf, (Json.object members).LeafAt path leaf →
        (".".intercalate path, Value.ofJson leaf) ∈ e.attributes.entries) ∧
      ∀ a ∈ e.attributes.entries,
        (∃! at_ : List String × Json, (Json.object members).LeafAt at_.1 at_.2 ∧
          a = (".".intercalate at_.1, Value.ofJson at_.2)) ∧
        ∀ entries, a.2 ≠ .map entries := by
  rw [attributes_of_decode decoded given]
  refine ⟨(Dict.ordered_ofList _).nodup_keys, fun path leaf reached => ?_, fun a ha => ?_⟩
  · exact (mem_flatten_iff apart).2 ⟨path, leaf, reached, rfl⟩
  · obtain ⟨path, leaf, reached, rfl⟩ := (mem_flatten_iff apart).1 ha
    refine ⟨⟨(path, leaf), ⟨reached, rfl⟩, ?_⟩, ofJson_ne_map reached.2⟩
    rintro ⟨path', leaf'⟩ ⟨reached', same⟩
    obtain rfl := apart path' path leaf' leaf reached' reached (Prod.mk.inj same).1.symm
    obtain rfl := Option.some.inj (reached.1.symm.trans reached'.1)
    rfl

section Wind

/-- The members of a reading of the wind: nested ones, among them one without members and one
without a name, and one whose name has a point in it and whose value is a list. -/
def windMembers : List (String × Json) :=
  [("wind", .object [("speed", .int 12), ("dir", .object [("label", .string "NW")]),
      ("gusts", .object [])]),
    ("", .object [("", .null)]),
    ("a.b", .array [.object [("y", .null), ("x", .bool true)]])]

/-- A report of that reading. -/
def windTree : Json :=
  .object [("event_type", .string "weather"), ("event_time", .string "2021-01-01"),
    ("entities", .object [("city", .string "Sydney")]), ("attrs", .object windMembers)]

/-- The event of that report. -/
def windReport : Event :=
  ⟨"weather", ⟨737790, 0, 0, by decide⟩, ⟨[("city", "Sydney")]⟩, none, none,
    ⟨[(".", .null), ("a.b", .list [.map [("x", .bool true), ("y", .null)]]),
      ("wind.dir.label", .text "NW"), ("wind.speed", .int 12)]⟩⟩

/-- The paths to the leaves of the reading. Names that are empty or have points in them are paths of
their own. -/
theorem windMembers_paths {path : List String} {leaf : Json}
    (h : (Json.object windMembers).LeafAt path leaf) :
    path ∈ [["wind", "speed"], ["wind", "dir", "label"], ["", ""], ["a.b"]] := by
  have scalar {j : Json} {rest : List String} (there : j.LeafAt rest leaf)
      (apart : ∀ members, j ≠ .object members) : rest = [] :=
    ((Json.leafAt_iff_of_ne_object apart).1 there).1
  obtain ⟨m, member, rest, rfl, there⟩ := h.exists_member
  simp only [windMembers, List.mem_cons, List.not_mem_nil, or_false] at member
  rcases member with rfl | rfl | rfl
  · obtain ⟨m, member, rest, rfl, within⟩ := there.exists_member
    simp only [List.mem_cons, List.not_mem_nil, or_false] at member
    rcases member with rfl | rfl | rfl
    · simp [scalar within (by simp)]
    · obtain ⟨m, member, rest, rfl, inside⟩ := within.exists_member
      obtain rfl := List.mem_singleton.1 member
      simp [scalar inside (by simp)]
    · obtain ⟨m, member, -⟩ := within.exists_member
      cases member
  · obtain ⟨m, member, rest, rfl, within⟩ := there.exists_member
    obtain rfl := List.mem_singleton.1 member
    simp [scalar within (by simp)]
  · simp [scalar there (by simp)]

/-- The label of the wind is an attribute under its dotted path, and the attribute of the point
alone is that of one leaf. -/
theorem windReport_attributes_are_leaves :
    (decode windTree = .ok windReport ∧
      recordShape.given? "attrs" windTree = some (.object windMembers)) ∧
    (Json.object windMembers).LeafAt ["wind", "dir", "label"] (.string "NW") ∧
      ("wind.dir.label", .text "NW") ∈ windReport.attributes.entries ∧
        ∃! at_ : List String × Json, (Json.object windMembers).LeafAt at_.1 at_.2 ∧
          (".", .null) = (".".intercalate at_.1, Value.ofJson at_.2) := by
  have decoded : decode windTree = .ok windReport := rfl
  have given : recordShape.given? "attrs" windTree = some (.object windMembers) := rfl
  have reached : (Json.object windMembers).LeafAt ["wind", "dir", "label"] (.string "NW") :=
    ⟨rfl, nofun⟩
  have apart : ∀ p ∈ [["wind", "speed"], ["wind", "dir", "label"], ["", ""], ["a.b"]],
      ∀ q ∈ [["wind", "speed"], ["wind", "dir", "label"], ["", ""], ["a.b"]],
        ".".intercalate p = ".".intercalate q → p = q := by decide
  obtain ⟨-, listed, each⟩ := decoded_attributes_are_leaves decoded given
    fun p q _ _ hp hq => apart p (windMembers_paths hp) q (windMembers_paths hq)
  have unnamed : (".", .null) ∈ windReport.attributes.entries := by simp [windReport]
  exact ⟨⟨decoded, given⟩, reached, listed _ _ reached, (each _ unnamed).1⟩

end Wind

end Decoding

end Event
end Hindsight
