import Hindsight.Regex.Machine
import Hindsight.Regex.Reader

/-!
# Searching texts

All matches of a regular expression in a text, from left to right and without overlap, and what is
made of them: whether there is one, the first one, their number, the text between them, and the
text with each of them replaced. An empty match does not count directly behind the match before.

In a replacement a dollar sign before a number or a name stands for the text of that capture, in
braces or as far as word characters go; two dollar signs stand for one.
-/

namespace Hindsight
namespace Regex

/-- A match: where captures start and end. Capture 0 is the whole match. -/
structure Match where
  marks : Marks

namespace Match

/-- Where a capture starts and ends. -/
def span? (m : Match) (n : Nat) : Option (Nat × Nat) :=
  match m.marks[2 * n]?, m.marks[2 * n + 1]? with
  | some (some a), some (some b) => some (a, b)
  | _, _ => none

/-- Where the match starts. -/
def start (m : Match) : Nat := ((m.span? 0).map (·.1)).getD 0

/-- Where the match ends. -/
def stop (m : Match) : Nat := ((m.span? 0).map (·.2)).getD 0

end Match

/-- A regular expression as a program. -/
structure Searcher where
  program : Program
  entry : Nat
  captures : Nat

/-- The program of a regular expression. -/
def searcher (r : Regex) : Searcher :=
  let (p, entry) := (Node.capture 0 r.root).compile 0 #[.accept]
  ⟨p, entry, r.captures⟩

/-- The first match that does not start before a place. -/
def Searcher.find? (s : Searcher) (cs : List Char) (start : Nat) : Option Match :=
  if cs.length < start then none
  else
    let before := if start = 0 then none else cs[start - 1]?
    (search s.program s.entry s.captures before start (cs.drop start)).map Match.mk

/-- The matches from a place on; `last` is where the match before ended. `fuel` bounds their
number. -/
def Searcher.findFrom (s : Searcher) (cs : List Char) : Nat → Nat → Option Nat → List Match
  | 0, _, _ => []
  | fuel + 1, start, last =>
    let found := (s.find? cs start).bind fun m =>
      if m.start = m.stop ∧ last = some m.stop then s.find? cs (start + 1) else some m
    match found with
    | none => []
    | some m => m :: findFrom s cs fuel m.stop (some m.stop)

/-- All matches in a text. -/
def findAll (r : Regex) (cs : List Char) : List Match :=
  r.searcher.findFrom cs (cs.length + 1) 0 none

/-- The characters from one place up to another. -/
def slice (cs : List Char) (a b : Nat) : List Char := (cs.drop a).take (b - a)

/-- Whether there is a match. -/
def isMatch (r : Regex) (text : String) : Bool := (r.searcher.find? text.toList 0).isSome

/-- The text of the first match. -/
def extract? (r : Regex) (text : String) : Option String :=
  let cs := text.toList
  (r.searcher.find? cs 0).map fun m => String.ofList (slice cs m.start m.stop)

/-- The number of matches. -/
def count (r : Regex) (text : String) : Nat := (r.findAll text.toList).length

/-- The text from a place on, split at matches. -/
def splitFrom (cs : List Char) : Nat → List Match → List String
  | a, [] => [String.ofList (cs.drop a)]
  | a, m :: rest => String.ofList (slice cs a m.start) :: splitFrom cs m.stop rest

/-- The texts between matches. -/
def split (r : Regex) (text : String) : List String :=
  let cs := text.toList
  splitFrom cs 0 (r.findAll cs)

/-- A piece of a replacement. -/
inductive Piece where
  | literal (c : Char)
  | capture (n : Nat)
  | named (name : String)
deriving DecidableEq, Repr

/-- Whether a character goes on in a capture without braces. -/
def isReferenceChar (c : Char) : Bool := c.isAlphanum || c == '_'

/-- The capture that a text refers to, by its number or by its name. -/
def Piece.ofReference (cs : List Char) : Piece :=
  let digits := if cs.head? == some '+' then cs.drop 1 else cs
  let n := digits.foldl (fun n c => 10 * n + (c.toNat - 48)) 0
  if !digits.isEmpty && digits.all Char.isDigit && n < 18446744073709551616 then .capture n
  else .named (String.ofList cs)

/-- The pieces of a replacement; `fuel` bounds their number. -/
def pieces : Nat → List Char → List Piece
  | 0, _ => []
  | _, [] => []
  | fuel + 1, '$' :: '$' :: rest => .literal '$' :: pieces fuel rest
  | fuel + 1, '$' :: '\x7b' :: rest =>
    match rest.dropWhile (· != '\x7d') with
    | [] => .literal '$' :: pieces fuel ('\x7b' :: rest)
    | _ :: after => .ofReference (rest.takeWhile (· != '\x7d')) :: pieces fuel after
  | fuel + 1, '$' :: rest =>
    let name := rest.takeWhile isReferenceChar
    if name.isEmpty then .literal '$' :: pieces fuel rest
    else .ofReference name :: pieces fuel (rest.dropWhile isReferenceChar)
  | fuel + 1, c :: rest => .literal c :: pieces fuel rest

/-- The characters that a piece stands for in a match. -/
def Piece.chars (r : Regex) (cs : List Char) (m : Match) (p : Piece) : List Char :=
  let captured (n : Nat) : List Char :=
    match m.span? n with
    | some (a, b) => slice cs a b
    | none => []
  match p with
  | .literal c => [c]
  | .capture n => captured n
  | .named name => ((r.names.lookup name).map captured).getD []

/-- The text from a place on with matches replaced. -/
def replaceFrom (r : Regex) (cs : List Char) (ps : List Piece) : Nat → List Match → List Char
  | a, [] => cs.drop a
  | a, m :: rest =>
    slice cs a m.start ++ ps.flatMap (Piece.chars r cs m) ++ replaceFrom r cs ps m.stop rest

/-- The text with every match replaced. -/
def replaceAll (r : Regex) (text replacement : String) : String :=
  let cs := text.toList
  let rs := replacement.toList
  String.ofList (replaceFrom r cs (pieces rs.length rs) 0 (r.findAll cs))

end Regex
end Hindsight
