import Hindsight.Regex.Escape

/-!
# Classes in brackets

A class in brackets is a union of characters, ranges and other classes, or two such unions joined
by an operation; operations are read from left to right. Brackets nest, and the recursion is on how
deep they may. The depth of a class counts its brackets, each union of more than one item and each
operation.
-/

namespace Hindsight
namespace Regex

/-- An element of a class: a character or a class. -/
def readElement : Reader (Char ⊕ CharSet) := fun s =>
  match s.rest with
  | [] => none
  | '\\' :: _ =>
    match readEscape (s.advance 1) with
    | some (.literal c, s) | some (.byte c, s) => some (.inl c, s)
    | some (.charClass set, s) => some (.inr set, s)
    | _ => none
  | c :: _ => some (.inl c, s.advance 1)

/-- The class of an element. -/
def Flags.element? (f : Flags) : Char ⊕ CharSet → Option CharSet
  | .inl c => f.range? c c
  | .inr set => some set

/-- A range or a single element. -/
def readItem : Reader CharSet := fun s => do
  let (first, s) ← readElement s
  let s := s.skipBlanks
  let alone := (s.flags.element? first).map (·, s)
  match s.rest with
  | [] => none
  | '-' :: _ =>
    match (s.advanceSkipping).rest with
    | ']' :: _ | '-' :: _ => alone
    | _ =>
      let (last, s) ← readElement s.advanceSkipping
      match first, last with
      | .inl c, .inl d => (s.flags.range? c d).map (·, s)
      | _, _ => none
  | _ => alone

/-- The name of an ASCII class between a bracket and a colon on either side, whether a caret
complements it, and what follows it. -/
def asciiName? : List Char → Option (String × Bool × List Char)
  | '[' :: ':' :: rest =>
    let negated := rest.head? == some '^'
    let rest := if negated then rest.drop 1 else rest
    match rest.dropWhile (· != ':') with
    | ':' :: ']' :: after => some (String.ofList (rest.takeWhile (· != ':')), negated, after)
    | _ => none
  | _ => none

/-- An ASCII class by its name, if one stands at the head. -/
def readAsciiClass (s : Source) : Option (Option (CharSet × Source)) := do
  let (name, negated, rest) ← asciiName? s.rest
  let set ← asciiClass? name
  some ((s.flags.negate? negated (s.flags.fold set)).map (·, { s with rest := rest }))

/-- An operation between two classes. -/
def setOperation? : List Char → Option (CharSet → CharSet → CharSet)
  | '&' :: '&' :: _ => some .inter
  | '-' :: '-' :: _ => some .diff
  | '~' :: '~' :: _ => some .symDiff
  | _ => none

/-- A union that is being read: its characters, the number of its items and the depth of the
deepest. -/
structure Items where
  set : CharSet
  count : Nat
  depth : Nat

namespace Items

/-- No items. -/
def none : Items := ⟨.empty, 0, 0⟩

/-- One item more. -/
def push (i : Items) (set : CharSet) (depth : Nat) : Items :=
  ⟨i.set.union set, i.count + 1, max i.depth depth⟩

/-- The union as a class. -/
def toNested (i : Items) : Nested CharSet := ⟨i.set, if 2 ≤ i.count then i.depth + 1 else i.depth⟩

end Items

/-- The class left of an operation, and the operation. -/
abbrev Pending := Option (Nested CharSet × (CharSet → CharSet → CharSet))

/-- The class left of an operation and the union right of it become one. -/
def Flags.combine (f : Flags) (pending : Pending) (right : Items) : Nested CharSet :=
  match pending with
  | none => right.toNested
  | some (left, op) =>
    ⟨op (f.fold left.value) (f.fold right.toNested.value),
      max left.depth right.toNested.depth + 1⟩

/-- The inside of brackets up to the closing one: the union `items` of what is read so far, right
of a `pending` operation. `fuel` bounds the number of items. -/
def readItems (nested : Reader (Nested CharSet)) :
    Nat → Pending → Items → Reader (Nested CharSet)
  | 0, _, _, _ => none
  | fuel + 1, pending, items, s =>
    let s := s.skipBlanks
    match s.rest with
    | [] => none
    | ']' :: _ => some (s.flags.combine pending items, s.advance 1)
    | '[' :: _ =>
      match readAsciiClass s with
      | some read => do
        let (set, s) ← read
        readItems nested fuel pending (items.push set 0) s
      | none => do
        let (inner, s) ← nested s
        readItems nested fuel pending (items.push inner.value inner.depth) s
    | _ =>
      match setOperation? s.rest with
      | some op =>
        readItems nested fuel (some (s.flags.combine pending items, op)) .none (s.advance 2)
      | none => do
        let (set, s) ← readItem s
        readItems nested fuel pending (items.push set 0) s

/-- Hyphens at the start of a class stand for themselves; `fuel` bounds their number. -/
def readHyphens : Nat → Items → Source → Items × Source
  | fuel + 1, items, s =>
    match s.rest with
    | '-' :: _ => readHyphens fuel (items.push (.single '-') 0) s.advanceSkipping
    | _ => (items, s)
  | 0, items, s => (items, s)

/-- A class in brackets that nest at most `n` deep. -/
def readBracket : Nat → Reader (Nested CharSet)
  | 0, _ => none
  | n + 1, s => do
    let s := s.advanceSkipping
    let negated := s.rest.head? == some '^'
    let s := if negated then s.advanceSkipping else s
    let (items, s) := readHyphens s.rest.length .none s
    let (items, s) :=
      if items.count = 0 && s.rest.head? == some ']' then
        (items.push (.single ']') 0, s.advanceSkipping)
      else (items, s)
    let (inner, s) ← readItems (readBracket n) (s.rest.length + 1) none items s
    let set ← s.flags.negate? negated (s.flags.fold inner.value)
    return (⟨set, inner.depth + 1⟩, s)

end Regex
end Hindsight
