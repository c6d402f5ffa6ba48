import Hindsight.Json.Basic
import Hindsight.Number.Shortest
import Hindsight.Number.Word
import Hindsight.Proofs.Dict
import Mathlib.Order.MinMax

/-!
# What a tree is made of

A property of scalars may hold throughout a tree (`Json.Every`): that its numbers are finite, or
that it has no fault and its integers fit a word. The tree in the order of its names has no scalar
that was not there and is nested no deeper (`Json.every_canonical`, `Json.nesting_canonical_le`).
-/

namespace Hindsight
namespace Json

section Every

variable {p : Json → Prop}

mutual

/-- A property holds of every part of a tree that has no parts itself. -/
def Every (p : Json → Prop) : Json → Prop
  | array items => EveryOfItems p items
  | object members => EveryOfMembers p members
  | j => p j

/-- A property holds of every scalar in items. -/
def EveryOfItems (p : Json → Prop) : List Json → Prop
  | [] => True
  | j :: rest => Every p j ∧ EveryOfItems p rest

/-- A property holds of every scalar in the values of members. -/
def EveryOfMembers (p : Json → Prop) : List (String × Json) → Prop
  | [] => True
  | (_, j) :: rest => Every p j ∧ EveryOfMembers p rest

end

/-- A property holds throughout items if it holds throughout each of them. -/
theorem everyOfItems_iff {items : List Json} : EveryOfItems p items ↔ ∀ i ∈ items, i.Every p := by
  induction items with
  | nil => simp [EveryOfItems]
  | cons i rest ih => rw [EveryOfItems, ih, List.forall_mem_cons]

/-- A property holds throughout members if it holds throughout the value of each of them. -/
theorem everyOfMembers_iff {members : List (String × Json)} :
    EveryOfMembers p members ↔ ∀ m ∈ members, m.2.Every p := by
  induction members with
  | nil => simp [EveryOfMembers]
  | cons m rest ih => rw [EveryOfMembers, ih, List.forall_mem_cons]

mutual

/-- What holds throughout a tree holds throughout it when its members are put in order. Some of them
may be left out then, and none is added. -/
theorem every_canonical : ∀ j : Json, j.Every p → j.canonical.Every p
  | array items, h => everyOfItems_canonical items h
  | object members, h => by
    have inOrder := everyOfMembers_iff.1 (everyOfMembers_canonical members h)
    exact everyOfMembers_iff.2 fun m hm => inOrder m (Dict.mem_of_mem_ofList hm)
  | null, h | bool _, h | int _, h | float _, h | string _, h | fault _, h => h

/-- What holds throughout items holds throughout the canonical ones, by recursion along with
trees. -/
theorem everyOfItems_canonical :
    ∀ items : List Json, EveryOfItems p items → EveryOfItems p (canonicalItems items)
  | [], _ => trivial
  | j :: rest, h => ⟨every_canonical j h.1, everyOfItems_canonical rest h.2⟩

/-- What holds throughout members holds throughout the canonical ones, before they are put in
order. -/
theorem everyOfMembers_canonical :
    ∀ members : List (String × Json), EveryOfMembers p members →
      EveryOfMembers p (canonicalMembers members)
  | [], _ => trivial
  | (_, j) :: rest, h => ⟨every_canonical j h.1, everyOfMembers_canonical rest h.2⟩

end

end Every

/-- Canonical members keep their names and their order; putting them in order comes afterwards. -/
theorem canonicalMembers_eq (members : List (String × Json)) :
    canonicalMembers members = members.map fun m => (m.1, m.2.canonical) := by
  induction members with
  | nil => rfl
  | cons m rest ih => rw [canonicalMembers, ih, List.map_cons]

/-- A number is finite, and so is the float that an integer beyond a word is read as. -/
def IsFinite : Json → Prop
  | int n => Number.fitsWord n = true ∨ Number.isFinite (Number.toFloat n) = true
  | float x => Number.isFinite x = true
  | _ => True

/-- A scalar has a value of its own: an integer fits a word, a float is finite, and it is no
fault. -/
def HasValue : Json → Prop
  | int n => Number.fitsWord n = true
  | float x => Number.isFinite x = true
  | fault _ => False
  | _ => True

mutual

/-- A tree whose scalars have a value of their own is read without a fault, by recursion on
trees. -/
theorem isReadable_of_every : ∀ j : Json, j.Every HasValue → j.isReadable = true
  | array items, h => isReadable_of_everyOfItems items h
  | object members, h => isReadable_of_everyOfMembers members h
  | null, _ | bool _, _ | int _, _ | float _, _ | string _, _ => rfl
  | fault _, h => h.elim

/-- Items whose scalars have a value of their own are read without a fault. -/
theorem isReadable_of_everyOfItems :
    ∀ items : List Json, EveryOfItems HasValue items →
      allFaultsOfItems (fun _ => false) items = true
  | [], _ => rfl
  | j :: rest, h =>
    Bool.and_eq_true_iff.2 ⟨isReadable_of_every j h.1, isReadable_of_everyOfItems rest h.2⟩

/-- Members whose scalars have a value of their own are read without a fault. -/
theorem isReadable_of_everyOfMembers :
    ∀ members : List (String × Json), EveryOfMembers HasValue members →
      allFaultsOfMembers (fun _ => false) members = true
  | [], _ => rfl
  | (_, j) :: rest, h =>
    Bool.and_eq_true_iff.2 ⟨isReadable_of_every j h.1, isReadable_of_everyOfMembers rest h.2⟩

end

section Nesting

mutual

/-- How many arrays and objects a tree has around its scalars at most. -/
def nesting : Json → Nat
  | array items => nestingOfItems items + 1
  | object members => nestingOfMembers members + 1
  | _ => 0

/-- The greatest nesting of the items. -/
def nestingOfItems : List Json → Nat
  | [] => 0
  | j :: rest => max (nesting j) (nestingOfItems rest)

/-- The greatest nesting of the values of members. -/
def nestingOfMembers : List (String × Json) → Nat
  | [] => 0
  | (_, j) :: rest => max (nesting j) (nestingOfMembers rest)

end

/-- Items are nested no deeper than some depth just if each of them is nested no deeper. -/
theorem nestingOfItems_le_iff {items : List Json} {n : Nat} :
    nestingOfItems items ≤ n ↔ ∀ i ∈ items, i.nesting ≤ n := by
  induction items with
  | nil => simp [nestingOfItems]
  | cons i rest ih => rw [nestingOfItems, Nat.max_le, ih, List.forall_mem_cons]

/-- Members are nested no deeper than some depth just if the value of each of them is nested no
deeper. -/
theorem nestingOfMembers_le_iff {members : List (String × Json)} {n : Nat} :
    nestingOfMembers members ≤ n ↔ ∀ m ∈ members, m.2.nesting ≤ n := by
  induction members with
  | nil => simp [nestingOfMembers]
  | cons m rest ih => rw [nestingOfMembers, Nat.max_le, ih, List.forall_mem_cons]

mutual

/-- A tree is nested no deeper when its members are put in order, by recursion on trees. -/
theorem nesting_canonical_le : ∀ j : Json, j.canonical.nesting ≤ j.nesting
  | array items => Nat.succ_le_succ (nestingOfItems_canonical_le items)
  | object members => by
    have inOrder := nestingOfMembers_le_iff.1 (nestingOfMembers_canonical_le members)
    exact Nat.succ_le_succ <|
      nestingOfMembers_le_iff.2 fun m hm => inOrder m (Dict.mem_of_mem_ofList hm)
  | null | bool _ | int _ | float _ | string _ | fault _ => Nat.le_refl 0

/-- Canonical items are nested no deeper, by recursion along with trees. -/
theorem nestingOfItems_canonical_le :
    ∀ items : List Json, nestingOfItems (canonicalItems items) ≤ nestingOfItems items
  | [] => Nat.le_refl 0
  | j :: rest => max_le_max (nesting_canonical_le j) (nestingOfItems_canonical_le rest)

/-- Canonical members are nested no deeper, before they are put in order. -/
theorem nestingOfMembers_canonical_le :
    ∀ members : List (String × Json), nestingOfMembers (canonicalMembers members) ≤
      nestingOfMembers members
  | [] => Nat.le_refl 0
  | (_, j) :: rest => max_le_max (nesting_canonical_le j) (nestingOfMembers_canonical_le rest)

end

end Nesting

end Json
end Hindsight
