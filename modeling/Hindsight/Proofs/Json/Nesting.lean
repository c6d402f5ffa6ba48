import Hindsight.Json.Reader
import Hindsight.Proofs.Json.Number
import Hindsight.Proofs.Json.Scalars

/-!
# How deep a text nests

What is read as a scalar has no parts, and each array or object takes one from the depth that is
left, so **the tree of a text** is nested to a depth of 127 at most
(`Json.Document.nesting_ofText_le`).
-/

namespace Hindsight
namespace Json

section Scalars

variable {negative : Bool} {significand : Nat} {cs more : List Char} {j : Json}

/-- A number made of its parts is a scalar, or a fault where it is too large. -/
theorem nesting_ofParts (negative : Bool) (significand : Nat) (e : Int) :
    (ofParts negative significand e).nesting = 0 := by
  unfold ofParts
  split <;> rfl

/-- A number with an exponent is a scalar. -/
theorem nesting_readExponent {e : Int}
    (h : readExponent negative significand e cs = some (j, more)) : j.nesting = 0 := by
  cases cs with
  | nil =>
    obtain ⟨rfl, -⟩ := Prod.mk.inj (Option.some.inj h)
    exact nesting_ofParts negative significand e
  | cons c cs =>
    by_cases letter : c = 'e' ∨ c = 'E'
    · rw [readExponent_letter letter] at h
      dsimp only at h
      split at h
      · cases h
      · obtain ⟨rfl, -⟩ := Prod.mk.inj (Option.some.inj h)
        exact nesting_ofParts _ _ _
    · obtain ⟨rfl, -⟩ := Prod.mk.inj (Option.some.inj ((if_neg letter).symm.trans h))
      exact nesting_ofParts negative significand e

/-- A number with a fraction is a scalar, with an exponent or without. -/
theorem nesting_readFraction {e : Int}
    (h : readFraction negative significand e cs = some (j, more)) : j.nesting = 0 := by
  unfold readFraction at h
  dsimp only at h
  split at h
  · exact nesting_readExponent h
  · split at h
    · cases h
    · exact nesting_readExponent h

/-- A number of digits alone is a scalar, an integer or a float where it does not fit. -/
theorem nesting_ofDigits (negative : Bool) (significand : Nat) :
    (ofDigits negative significand).nesting = 0 := by
  unfold ofDigits
  repeat' split
  all_goals rfl

/-- A number without its sign is a scalar, by the three cases of what is behind its digits. -/
theorem nesting_readUnsigned (h : readUnsigned negative cs = some (j, more)) : j.nesting = 0 := by
  rw [readUnsigned_eq] at h
  dsimp only at h
  split at h
  · cases h
  split at h
  · cases h
  generalize List.drop _ _ = behind at h
  by_cases point : behind.head? = some '.'
  · cases behind with
    | nil => cases point
    | cons c behind =>
      obtain rfl : c = '.' := Option.some.inj point
      exact nesting_readFraction h
  · rw [readBehindDigits_of_ne point] at h
    split at h
    · exact nesting_readExponent h
    · obtain ⟨rfl, -⟩ := Prod.mk.inj (Option.some.inj h)
      exact nesting_ofDigits negative _

/-- A number is a scalar. -/
theorem nesting_readNumber (h : readNumber cs = some (j, more)) : j.nesting = 0 := by
  unfold readNumber at h
  split at h <;> exact nesting_readUnsigned h

/-- A value without parts is read as a scalar. -/
theorem nesting_readScalar (cs : List Char) : (readScalar cs).1.nesting = 0 := by
  unfold readScalar
  dsimp only
  split
  iterate 4
    · split <;> rfl
  · split
    · next number => exact nesting_readNumber number
    · rfl

/-- What is refused for its depth is a fault, and a fault is not nested. -/
theorem nesting_readTooDeep (cs : List Char) : (readTooDeep cs).1.nesting = 0 := by
  unfold readTooDeep
  split <;> rfl

end Scalars

section Step

variable {fuel : Nat} (value : ∀ depth cs, (readValue fuel depth cs).1.nesting ≤ depth)
  (items : ∀ depth first cs, nestingOfItems (readItems fuel depth first cs).1 ≤ depth)
  (members : ∀ depth first cs, nestingOfMembers (readMembers fuel depth first cs).1 ≤ depth)

include items members in
/-- **A value takes no more depth than is left**, by one step of reading: a bracket takes one and
leaves the rest to what it holds. -/
theorem nesting_readValue_succ (depth : Nat) (cs : List Char) :
    (readValue (fuel + 1) depth cs).1.nesting ≤ depth := by
  have inside {n : Nat} (some_depth : depth ≠ 0) (h : n ≤ depth - 1) : n + 1 ≤ depth := by omega
  rw [readValue]
  split
  · split
    · exact (nesting_readTooDeep _).trans_le (Nat.zero_le depth)
    · next some_depth => exact inside some_depth (items (depth - 1) true _)
  · split
    · exact (nesting_readTooDeep _).trans_le (Nat.zero_le depth)
    · next some_depth => exact inside some_depth (members (depth - 1) true _)
  · exact (nesting_readScalar _).trans_le (Nat.zero_le depth)

include value in
/-- The same in the form in which items and members ask for it, with the tree by a name. -/
theorem nesting_of_readValue {depth : Nat} {cs : List Char} {j : Json} {more : Option (List Char)}
    (h : readValue fuel depth cs = (j, more)) : j.nesting ≤ depth := by
  have read := value depth cs
  rwa [h] at read

include value items in
/-- Items take no more depth than is left: each of them does, and a comma takes none. -/
theorem nesting_readItems_succ (depth : Nat) (first : Bool) (cs : List Char) :
    nestingOfItems (readItems (fuel + 1) depth first cs).1 ≤ depth := by
  rw [readItems]
  dsimp only
  split
  · exact Nat.zero_le depth
  · split
    · exact Nat.zero_le depth
    · split
      · next read =>
        exact Nat.max_le.2 ⟨nesting_of_readValue value read, items depth false _⟩
      · next read => exact Nat.max_le.2 ⟨nesting_of_readValue value read, Nat.zero_le depth⟩
  · split
    · split
      · next read =>
        exact Nat.max_le.2 ⟨nesting_of_readValue value read, items depth false _⟩
      · next read => exact Nat.max_le.2 ⟨nesting_of_readValue value read, Nat.zero_le depth⟩
    · exact Nat.zero_le depth

include value members in
/-- Members take no more depth than is left: each value does, and names take none. -/
theorem nesting_readMembers_succ (depth : Nat) (first : Bool) (cs : List Char) :
    nestingOfMembers (readMembers (fuel + 1) depth first cs).1 ≤ depth := by
  have named {j : Json} (within : j.nesting ≤ depth) (name : Option String) (rest : List Char) :
      nestingOfMembers ((name.map (·, j)).getD ("", fault .unreadableName) ::
        (readMembers fuel depth false rest).1) ≤ depth := by
    cases name with
    | none => exact Nat.max_le.2 ⟨Nat.zero_le depth, members depth false rest⟩
    | some name => exact Nat.max_le.2 ⟨within, members depth false rest⟩
  rw [readMembers]
  dsimp only
  split
  · exact Nat.zero_le depth
  · split
    · exact Nat.zero_le depth
    · split
      · split
        · next read => exact named (nesting_of_readValue value read) _ _
        · next read => exact Nat.max_le.2 ⟨nesting_of_readValue value read, Nat.zero_le depth⟩
      · exact Nat.zero_le depth
  · split
    · split
      · split
        · next read => exact named (nesting_of_readValue value read) _ _
        · next read => exact Nat.max_le.2 ⟨nesting_of_readValue value read, Nat.zero_le depth⟩
      · exact Nat.zero_le depth
    · exact Nat.zero_le depth

end Step

/-- **What is read** is nested no deeper than it may be. By induction on the fuel, for values, items
and members at once. -/
theorem nesting_read (fuel : Nat) :
    (∀ depth cs, (readValue fuel depth cs).1.nesting ≤ depth) ∧
      (∀ depth first cs, nestingOfItems (readItems fuel depth first cs).1 ≤ depth) ∧
        ∀ depth first cs, nestingOfMembers (readMembers fuel depth first cs).1 ≤ depth := by
  induction fuel with
  | zero => exact ⟨fun _ _ => Nat.zero_le _, fun _ _ _ => Nat.zero_le _, fun _ _ _ => Nat.zero_le _⟩
  | succ fuel ih =>
    obtain ⟨value, items, members⟩ := ih
    exact ⟨nesting_readValue_succ items members, nesting_readItems_succ value items,
      nesting_readMembers_succ value members⟩

/-- **The tree of a text** is nested to a depth of 127 at most. Where a text goes deeper, its tree
has a fault in the place. -/
theorem Document.nesting_ofText_le (s : String) : (Document.ofText s).root.nesting ≤ 127 := by
  have read := (nesting_read (2 * s.toList.length + 2)).1 127 s.toList
  simp only [Document.ofText]
  split
  · next same =>
    rw [same] at read
    exact read
  · next same =>
    rw [same] at read
    exact read

end Json
end Hindsight
