import Hindsight.Proofs.Json.Scalars

/-!
# Paths into a tree

A path of names leads from an object to one of its members and on from there; of members with one
name the last counts (`Json.follow?`), so of members with different names each is found
(`Json.get?_eq_some_of_mem`). What it leads to may be a leaf, something that is no object
(`Json.LeafAt`). The canonical tree has at each name what the tree has there, in canonical form
(`Json.get?_canonicalMembers`). Members that are written in sequence, each under its name, are found
where they would be found in the list (`Json.get?_ofList`), those of the back before those of the
front (`Json.get?_append`).
-/

namespace Hindsight
namespace Json

/-- What a path of names leads to. -/
def follow? : Json → List String → Option Json
  | j, [] => some j
  | j, name :: path => (j.get? name).bind fun part => part.follow? path

/-- A path leads to something that is no object. -/
def LeafAt (j : Json) (path : List String) (leaf : Json) : Prop :=
  j.follow? path = some leaf ∧ ∀ members, leaf ≠ object members

variable {j part leaf : Json} {members : List (String × Json)} {name : String} {path : List String}

/-- What is found under a name stands among the members, perhaps behind others of the name. -/
theorem mem_of_get? (h : (object members).get? name = some part) : (name, part) ∈ members := by
  obtain ⟨m, found, rfl⟩ := Option.map_eq_some_iff.1 h
  have member := List.mem_reverse.1 (List.mem_of_find?_eq_some found)
  have named : m.1 = name := by simpa using List.find?_some found
  rwa [← named]

/-- **Members written one after the other** are found as in the list of them, where the last of a
name counts. -/
theorem get?_ofList (members : List (String × Json)) (name : String) :
    (object (Dict.ofList members).entries).get? name = (object members).get? name := by
  have again := Dict.get?_ofList (Dict.ofList members).entries name
  rw [Dict.ofList_entries (Dict.ordered_ofList members), Dict.get?_ofList] at again
  exact again.symm

/-- Of what is in front and what is behind, what is behind counts. The front is asked only if there
is nothing behind. -/
theorem get?_append (front back : List (String × Json)) (name : String) :
    (object (front ++ back)).get? name =
      ((object back).get? name).or ((object front).get? name) := by
  simp only [get?, List.reverse_append, List.find?_append, Option.map_or]

/-- Nothing is found under a name just if no member has it. -/
theorem get?_eq_none_iff :
    (object members).get? name = none ↔ name ∉ members.map Prod.fst := by
  simp only [get?, Option.map_eq_none_iff, List.find?_eq_none, List.mem_reverse, beq_iff_eq,
    List.mem_map, not_exists, not_and]

/-- Of members with different names each is found. Without that, one may hide another. -/
theorem get?_eq_some_of_mem (nodup : (members.map Prod.fst).Nodup) (h : (name, part) ∈ members) :
    (object members).get? name = some part := by
  cases found : (object members).get? name with
  | none => exact absurd (List.mem_map_of_mem h) (get?_eq_none_iff.1 found)
  | some other =>
    obtain ⟨-, rfl⟩ := Prod.mk.inj (List.inj_on_of_nodup_map nodup (mem_of_get? found) h rfl)
    rfl

/-- **The canonical tree** has the canonical form of what the tree has at a name. So paths lead to
the same leaves in both. -/
theorem get?_canonicalMembers (members : List (String × Json)) (name : String) :
    (Dict.ofList (canonicalMembers members)).get? name =
      ((object members).get? name).map canonical := by
  rw [Dict.get?_ofList, canonicalMembers_eq, ← List.map_reverse, List.find?_map, get?]
  simp only [Option.map_map]
  rfl

/-- **A leaf of an object** is a leaf of what the object has at the first name of the path. This is
one step along a path. -/
theorem leafAt_object_iff : (object members).LeafAt path leaf ↔
    ∃ name rest part, path = name :: rest ∧ (object members).get? name = some part ∧
      part.LeafAt rest leaf := by
  cases path with
  | nil =>
    refine ⟨fun h => absurd (Option.some.inj h.1).symm (h.2 members), ?_⟩
    rintro ⟨_, _, _, here, -⟩
    cases here
  | cons name rest =>
    constructor
    · rintro ⟨reached, apart⟩
      obtain ⟨part, here, there⟩ := Option.bind_eq_some_iff.1 reached
      exact ⟨name, rest, part, rfl, here, there, apart⟩
    · rintro ⟨_, _, part, same, here, there, apart⟩
      obtain ⟨rfl, rfl⟩ := List.cons.inj same
      exact ⟨Option.bind_eq_some_iff.2 ⟨part, here, there⟩, apart⟩

/-- A leaf of an object is a leaf of one of its members, the one that counts for its name. -/
theorem LeafAt.exists_member (h : (object members).LeafAt path leaf) :
    ∃ m ∈ members, ∃ rest, path = m.1 :: rest ∧ m.2.LeafAt rest leaf := by
  obtain ⟨name, rest, part, rfl, here, there⟩ := leafAt_object_iff.1 h
  exact ⟨(name, part), mem_of_get? here, rest, rfl, there⟩

/-- What is no object is its own only leaf, and the path to it is empty. -/
theorem leafAt_iff_of_ne_object (h : ∀ members, j ≠ object members) :
    j.LeafAt path leaf ↔ path = [] ∧ leaf = j := by
  constructor
  · rintro ⟨reached, -⟩
    cases path with
    | nil => exact ⟨rfl, (Option.some.inj reached).symm⟩
    | cons name rest =>
      obtain ⟨part, here, -⟩ := Option.bind_eq_some_iff.1 reached
      cases j with
      | object members => exact absurd rfl (h members)
      | _ => cases here
  · rintro ⟨rfl, rfl⟩
    exact ⟨rfl, h⟩

end Json
end Hindsight
