import Hindsight.Proofs.Json.Scalars
import Hindsight.Value.Json

/-!
# Values that JSON holds

JSON holds integers of a word, finite floats and maps in the order of their keys, and it holds
neither instants nor floats that are not finite (`Value.HeldByJson`). The value that is read from a
tree is that of the canonical tree (`Value.ofJson_canonical`), it is held if the numbers of the tree
are finite (`Value.heldByJson_ofJson`), and its own tree is nested no deeper
(`Value.nesting_toJson_ofJson_le`). The tree of a value that is held is made of
scalars with a value of their own and is canonical (`Value.every_toJson`,
`Value.canonical_toJson`), and **the value is read back from it** (`Value.ofJson_toJson`).
-/

namespace Hindsight
namespace Value

open Json (EveryOfItems EveryOfMembers HasValue IsFinite)

mutual

/-- A value that JSON holds as it is. -/
def HeldByJson : Value → Prop
  | int n => Number.fitsWord n = true
  | float x => Number.isFinite x = true
  | negativeNaN | instant _ => False
  | list items => ItemsHeld items
  | map entries => (Dict.mk entries).Ordered ∧ EntriesHeld entries
  | _ => True

/-- Items that JSON holds. -/
def ItemsHeld : List Value → Prop
  | [] => True
  | v :: rest => HeldByJson v ∧ ItemsHeld rest

/-- Entries whose values JSON holds. -/
def EntriesHeld : List (String × Value) → Prop
  | [] => True
  | (_, v) :: rest => HeldByJson v ∧ EntriesHeld rest

end

/-- Entries are held by JSON if the value of each of them is; the recursion through maps says the
same one entry at a time. -/
theorem entriesHeld_iff {entries : List (String × Value)} :
    EntriesHeld entries ↔ ∀ e ∈ entries, e.2.HeldByJson := by
  induction entries with
  | nil => simp [EntriesHeld]
  | cons e rest ih => rw [EntriesHeld, ih, List.forall_mem_cons]

/-- The members of the tree of a map are its entries with the tree of each value, under the same
keys. -/
theorem entriesToJson_eq (entries : List (String × Value)) :
    entriesToJson entries = ((Dict.mk entries).map toJson).entries := by
  induction entries with
  | nil => rfl
  | cons e rest ih => exact congrArg ((e.1, e.2.toJson) :: ·) ih

/-- A finite float is a number of the tree. Other floats have none and are written as null. -/
theorem toJson_float {x : Float} (finite : Number.isFinite x = true) :
    (float x).toJson = .float x :=
  if_pos finite

/-- The entries read from members are the members with the value of each tree, under the same
keys. -/
theorem entriesOfJson_eq (members : List (String × Json)) :
    entriesOfJson members = ((Dict.mk members).map ofJson).entries := by
  induction members with
  | nil => rfl
  | cons m rest ih => exact congrArg ((m.1, ofJson m.2) :: ·) ih

section Reading

mutual

/-- **The order of members** and members that are repeated later do not matter to what is read, as
the entries of a map are put in order anyway. -/
theorem ofJson_canonical : ∀ j : Json, ofJson j.canonical = ofJson j
  | .array items => congrArg list (itemsOfJson_canonicalItems items)
  | .object members => by
    have ordered := Dict.ordered_ofList (Json.canonicalMembers members)
    rw [Json.canonical, ofJson, ofJson, ← entriesOfJson_canonicalMembers members, entriesOfJson_eq,
      entriesOfJson_eq, Dict.ofList_entries (ordered.map ofJson), Dict.map_ofList]
    rfl
  | .null | .bool _ | .int _ | .float _ | .string _ | .fault _ => rfl

/-- The values read from items are those of the canonical items, by recursion along with trees. -/
theorem itemsOfJson_canonicalItems :
    ∀ items : List Json, itemsOfJson (Json.canonicalItems items) = itemsOfJson items
  | [] => rfl
  | j :: rest => by
    rw [Json.canonicalItems, itemsOfJson, itemsOfJson, ofJson_canonical j,
      itemsOfJson_canonicalItems rest]

/-- The values read from members are those of the canonical members, by the same recursion. -/
theorem entriesOfJson_canonicalMembers :
    ∀ members : List (String × Json),
      entriesOfJson (Json.canonicalMembers members) = entriesOfJson members
  | [] => rfl
  | (k, j) :: rest => by
    rw [Json.canonicalMembers, entriesOfJson, entriesOfJson, ofJson_canonical j,
      entriesOfJson_canonicalMembers rest]

end

mutual

/-- **What is read from a tree** is held by JSON. Numbers are asked to be finite, since no text has
others. -/
theorem heldByJson_ofJson : ∀ j : Json, j.Every IsFinite → (ofJson j).HeldByJson
  | .int n, h => by
    rw [ofJson]
    split
    · next fits => exact fits
    · next beyond => exact h.resolve_left beyond
  | .float _, h => h
  | .array items, h => itemsHeld_ofJson items h
  | .object members, h => by
    have held := entriesHeld_iff.1 (entriesHeld_ofJson members h)
    exact ⟨Dict.ordered_ofList _, entriesHeld_iff.2 fun e he => held e (Dict.mem_of_mem_ofList he)⟩
  | .null, _ | .bool _, _ | .string _, _ | .fault _, _ => trivial

/-- Items that are read from a tree with finite numbers are held by JSON. -/
theorem itemsHeld_ofJson :
    ∀ items : List Json, EveryOfItems IsFinite items → ItemsHeld (itemsOfJson items)
  | [], _ => trivial
  | j :: rest, h => ⟨heldByJson_ofJson j h.1, itemsHeld_ofJson rest h.2⟩

/-- Entries that are read from a tree with finite numbers have values that JSON holds. -/
theorem entriesHeld_ofJson :
    ∀ members : List (String × Json), EveryOfMembers IsFinite members →
      EntriesHeld (entriesOfJson members)
  | [], _ => trivial
  | (_, j) :: rest, h => ⟨heldByJson_ofJson j h.1, entriesHeld_ofJson rest h.2⟩

end

/-- A float is written as a number or as null, neither of which is nested. -/
theorem nesting_toJson_float (x : Float) : (float x).toJson.nesting = 0 := by
  rw [toJson]
  split <;> rfl

mutual

/-- The tree of what is read from a tree is nested no deeper. It may be less deep, where a member is
repeated. -/
theorem nesting_toJson_ofJson_le : ∀ j : Json, (ofJson j).toJson.nesting ≤ j.nesting
  | .int n => by
    rw [ofJson]
    split
    · exact Nat.le_refl 0
    · exact (nesting_toJson_float _).le
  | .float x => (nesting_toJson_float x).le
  | .array items => Nat.succ_le_succ (nestingOfItems_toJson_ofJson_le items)
  | .object members => by
    have entries := nestingOfEntries_toJson_ofJson_le members
    rw [entriesToJson_eq, Json.nestingOfMembers_le_iff] at entries
    refine Nat.succ_le_succ ?_
    rw [entriesToJson_eq, Json.nestingOfMembers_le_iff]
    refine fun m hm => entries m ?_
    obtain ⟨e, he, rfl⟩ := List.mem_map.1 hm
    exact List.mem_map_of_mem (Dict.mem_of_mem_ofList he)
  | .null | .bool _ | .string _ | .fault _ => Nat.le_refl 0

/-- The items that are read from a tree are written no deeper than the tree was. -/
theorem nestingOfItems_toJson_ofJson_le :
    ∀ items : List Json, Json.nestingOfItems (itemsToJson (itemsOfJson items)) ≤
      Json.nestingOfItems items
  | [] => Nat.le_refl 0
  | j :: rest => max_le_max (nesting_toJson_ofJson_le j) (nestingOfItems_toJson_ofJson_le rest)

/-- The entries that are read from members are written no deeper than the members were, by the same
recursion. -/
theorem nestingOfEntries_toJson_ofJson_le :
    ∀ members : List (String × Json),
      Json.nestingOfMembers (entriesToJson (entriesOfJson members)) ≤ Json.nestingOfMembers members
  | [] => Nat.le_refl 0
  | (_, j) :: rest =>
    max_le_max (nesting_toJson_ofJson_le j) (nestingOfEntries_toJson_ofJson_le rest)

end

end Reading

section Writing

mutual

/-- **The tree of a value that JSON holds** is made of scalars with a value of their own, which is
what its text needs. -/
theorem every_toJson : ∀ v : Value, v.HeldByJson → v.toJson.Every HasValue
  | null, _ | bool _, _ | text _, _ => trivial
  | int _, h => h
  | float x, h => by
    rw [toJson_float h]
    exact h
  | negativeNaN, h | instant _, h => h.elim
  | list items, h => everyOfItems_toJson items h
  | map entries, h => everyOfMembers_toJson entries h.2

/-- The items of a value that is held are written with scalars that have a value of their own. -/
theorem everyOfItems_toJson :
    ∀ items : List Value, ItemsHeld items → EveryOfItems HasValue (itemsToJson items)
  | [], _ => trivial
  | v :: rest, h => ⟨every_toJson v h.1, everyOfItems_toJson rest h.2⟩

/-- The entries of a value that is held are written with such scalars as well. -/
theorem everyOfMembers_toJson :
    ∀ entries : List (String × Value), EntriesHeld entries →
      EveryOfMembers HasValue (entriesToJson entries)
  | [], _ => trivial
  | (_, v) :: rest, h => ⟨every_toJson v h.1, everyOfMembers_toJson rest h.2⟩

end

mutual

/-- **The tree of a value that JSON holds** is canonical: keys are in order and come once. -/
theorem canonical_toJson : ∀ v : Value, v.HeldByJson → v.toJson.canonical = v.toJson
  | null, _ | bool _, _ | int _, _ | text _, _ => rfl
  | float x, h => by
    rw [toJson_float h]
    rfl
  | negativeNaN, h | instant _, h => h.elim
  | list items, h => congrArg Json.array (canonical_itemsToJson items h)
  | map entries, h => by
    rw [toJson, Json.canonical, canonical_entriesToJson entries h.2, entriesToJson_eq,
      Dict.ofList_entries (h.1.map toJson)]

/-- Items that are held are written canonically, by recursion along with values. -/
theorem canonical_itemsToJson :
    ∀ items : List Value, ItemsHeld items →
      Json.canonicalItems (itemsToJson items) = itemsToJson items
  | [], _ => rfl
  | v :: rest, h => by
    rw [itemsToJson, Json.canonicalItems, canonical_toJson v h.1, canonical_itemsToJson rest h.2]

/-- Entries that are held are written canonically: the keys of a map are in their order already. -/
theorem canonical_entriesToJson :
    ∀ entries : List (String × Value), EntriesHeld entries →
      Json.canonicalMembers (entriesToJson entries) = entriesToJson entries
  | [], _ => rfl
  | (k, v) :: rest, h => by
    rw [entriesToJson, Json.canonicalMembers, canonical_toJson v h.1,
      canonical_entriesToJson rest h.2]

end

mutual

/-- **A value that JSON holds** is read back from its tree. Instants are not held, as they would
come back as texts. -/
theorem ofJson_toJson : ∀ v : Value, v.HeldByJson → ofJson v.toJson = v
  | null, _ | bool _, _ | text _, _ => rfl
  | int n, h => if_pos h
  | float x, h => by rw [toJson_float h, ofJson]
  | negativeNaN, h | instant _, h => h.elim
  | list items, h => congrArg list (itemsOfJson_toJson items h)
  | map entries, h => by
    rw [toJson, ofJson, entriesOfJson_toJson entries h.2, Dict.ofList_entries h.1]

/-- **Items that are held are read back from their trees**, by recursion along with values. -/
theorem itemsOfJson_toJson :
    ∀ items : List Value, ItemsHeld items → itemsOfJson (itemsToJson items) = items
  | [], _ => rfl
  | v :: rest, h => by
    rw [itemsToJson, itemsOfJson, ofJson_toJson v h.1, itemsOfJson_toJson rest h.2]

/-- **Entries that are held are read back from their trees**, under the keys they had. -/
theorem entriesOfJson_toJson :
    ∀ entries : List (String × Value), EntriesHeld entries →
      entriesOfJson (entriesToJson entries) = entries
  | [], _ => rfl
  | (k, v) :: rest, h => by
    rw [entriesToJson, entriesOfJson, ofJson_toJson v h.1, entriesOfJson_toJson rest h.2]

end

end Writing

end Value
end Hindsight
