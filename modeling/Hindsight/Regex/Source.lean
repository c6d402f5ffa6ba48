import Hindsight.Regex.Flags
import Hindsight.Text.Basic

/-!
# The text of a regular expression

A text that is being read carries the flags that hold at its head, the names of captures so far and
the number of the next one. Flags may say that blanks and comments do not count.
-/

namespace Hindsight
namespace Regex

/-- A text that is being read: what is left of it and what is known so far. -/
structure Source where
  rest : List Char
  flags : Flags
  /-- The number of the next capture. -/
  next : Nat
  names : List (String × Nat)

/-- A reader of something at the head of a source. -/
abbrev Reader (α : Type) := Source → Option (α × Source)

namespace Source

/-- The characters without blanks and comments in front; `fuel` bounds their number. -/
def dropComments : Nat → List Char → List Char
  | fuel + 1, c :: rest =>
    if Text.isBlank c then dropComments fuel rest
    else if c = '#' then dropComments fuel (rest.dropWhile (· != '\n'))
    else c :: rest
  | _, cs => cs

/-- Skip blanks and comments where the flags say that they do not count. -/
def skipBlanks (s : Source) : Source :=
  if s.flags.extended then { s with rest := dropComments s.rest.length s.rest } else s

/-- The source with `n` characters less. -/
def advance (s : Source) (n : Nat) : Source := { s with rest := s.rest.drop n }

/-- The source with one character less and without the blanks behind it. -/
def advanceSkipping (s : Source) : Source := (s.advance 1).skipBlanks

/-- The source with one capture more. -/
def withCapture (s : Source) (rest : List Char) (name : Option String) : Source :=
  { s with
    rest := rest
    next := s.next + 1
    names := (name.map fun n => (n, s.next)).toList ++ s.names }

end Source

/-- The characters at the head for which `p` holds, and what follows them; blanks that do not count
are skipped behind each. `fuel` bounds their number. -/
def readWhile (p : Char → Bool) : Nat → List Char → Source → List Char × Source
  | fuel + 1, cs, s =>
    match s.rest with
    | c :: _ => if p c then readWhile p fuel (c :: cs) s.advanceSkipping else (cs.reverse, s)
    | [] => (cs.reverse, s)
  | 0, cs, s => (cs.reverse, s)

/-- The characters up to a closing brace, and what follows the brace. -/
def readBraced : Reader (List Char) := fun s =>
  let (cs, s) := readWhile (· != '\x7d') s.rest.length [] s
  if s.rest.isEmpty then none else some (cs, s.advance 1)

/-- A node or a class, and how deep it nests others in it. -/
structure Nested (α : Type) where
  value : α
  depth : Nat

/-- How deep a regular expression may nest. -/
def maxDepth : Nat := 250

end Regex
end Hindsight
