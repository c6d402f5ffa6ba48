import Hindsight.Text.CharSet

/-!
# Regular expressions

The syntax tree of a regular expression. Whatever its flags say is already part of the tree: which
characters a class holds, what a dot stands for, where an anchor holds, and whether a repetition
prefers more or fewer rounds.

Trees are put together by functions that keep them small: an empty part adds nothing to a sequence,
a choice between characters is a class, and a part that matches only the empty text is not repeated.
-/

namespace Hindsight

namespace Regex

/-- A condition on a place between two characters. -/
inductive Look where
  | textStart
  | textEnd
  | lineStart
  | lineEnd
  /-- The start of a line where a carriage return ends a line too. -/
  | lineStartCrlf
  /-- The end of a line where a carriage return ends a line too. -/
  | lineEndCrlf
  | boundary (w : CharSet)
  | noBoundary (w : CharSet)
  | wordStart (w : CharSet)
  | wordEnd (w : CharSet)
  /-- No word character comes before. -/
  | wordStartHalf (w : CharSet)
  /-- No word character comes after. -/
  | wordEndHalf (w : CharSet)
deriving DecidableEq

/-- Whether a condition holds between the character before and the one after. -/
def Look.holds (l : Look) (before after : Option Char) : Bool :=
  match l with
  | textStart => before.isNone
  | textEnd => after.isNone
  | lineStart => before.all (· == '\n')
  | lineEnd => after.all (· == '\n')
  | lineStartCrlf =>
    before.all fun c => c == '\n' || (c == '\r' && after != some '\n')
  | lineEndCrlf =>
    after.all fun c => c == '\r' || (c == '\n' && before != some '\r')
  | boundary w => before.any w.contains != after.any w.contains
  | noBoundary w => before.any w.contains == after.any w.contains
  | wordStart w => !before.any w.contains && after.any w.contains
  | wordEnd w => before.any w.contains && !after.any w.contains
  | wordStartHalf w => !before.any w.contains
  | wordEndHalf w => !after.any w.contains

/-- A node of a regular expression. -/
inductive Node where
  | empty
  | char (s : CharSet)
  | look (l : Look)
  /-- A part whose match is remembered under a number. -/
  | capture (index : Nat) (part : Node)
  | sequence (first second : Node)
  | choice (first second : Node)
  | repetition (least : Nat) (greatest : Option Nat) (greedy : Bool) (part : Node)
deriving DecidableEq

namespace Node

/-- Whether a node matches no text but the empty one. -/
def onlyEmpty : Node → Bool
  | empty | look _ => true
  | char _ => false
  | capture _ n => n.onlyEmpty
  | sequence a b | choice a b => a.onlyEmpty && b.onlyEmpty
  | repetition _ greatest _ n => greatest == some 0 || n.onlyEmpty

/-- Whether every match of a node has a character in it. -/
def needsChar : Node → Bool
  | empty | look _ => false
  | char _ => true
  | capture _ n => n.needsChar
  | sequence a b => a.needsChar || b.needsChar
  | choice a b => a.needsChar && b.needsChar
  | repetition least _ _ n => 0 < least && n.needsChar

/-- A node before another one. -/
def append : Node → Node → Node
  | empty, b => b
  | sequence a rest, b => sequence a (rest.append b)
  | a, empty => a
  | a, b => sequence a b

/-- The parts one after the other. -/
def sequenceAll (parts : List Node) : Node := parts.foldr append empty

/-- The parts of a choice, the first of them preferred. -/
def alternatives : Node → List Node
  | choice a b => a :: b.alternatives
  | n => [n]

/-- The set of a node that is one character of a set. -/
def charSet? : Node → Option CharSet
  | char s => some s
  | _ => none

/-- The first of the parts that leads to a match. -/
def firstOf : List Node → Node
  | [] => empty
  | [n] => n
  | n :: rest => choice n (firstOf rest)

/-- A choice between the parts. Single characters become one class, and so do classes. -/
def choiceAll (parts : List Node) : Node :=
  let flat := parts.flatMap alternatives
  match flat.mapM charSet? with
  | some sets =>
    if sets.all CharSet.isSingle || sets.all (!·.isSingle) then char (.unionAll sets)
    else firstOf flat
  | none => firstOf flat

/-- A part as often as bounds say. More than one empty text in a row is no more than one. -/
def repeated (least : Nat) (greatest : Option Nat) (greedy : Bool) (part : Node) : Node :=
  let least := if part.onlyEmpty then min least 1 else least
  let greatest := if part.onlyEmpty then some (min (greatest.getD 1) 1) else greatest
  if greatest = some 0 then empty
  else if least = 1 ∧ greatest = some 1 then part
  else repetition least greatest greedy part

end Node

end Regex

/-- A regular expression. -/
structure Regex where
  root : Regex.Node
  /-- The names of captures with their numbers. -/
  names : List (String × Nat)
  /-- One more than the greatest number of a capture; the whole match is capture 0. -/
  captures : Nat

end Hindsight
