import Hindsight.Regex.Bracket
import Hindsight.Regex.Size
import Hindsight.Unicode.Recent

/-!
# Reading regular expressions

The text of a regular expression is read from left to right. Flags hold from where they are set to
the end of the group around them. A text that is no regular expression has no tree; why is not
told.

A group nests the reader in itself, and the recursion is on how deep groups may nest. The depth of
an expression counts its groups, repetitions and brackets, and each sequence and each choice of more
than one part. An expression that nests too deep or takes too much room is refused.
-/

namespace Hindsight
namespace Regex

/-- A number between blanks; digits may be apart where blanks do not count. -/
def readNumber : Reader Nat := fun s =>
  let s := { s with rest := Text.dropBlanks s.rest }
  let (ds, s) := readWhile Char.isDigit s.rest.length [] s
  let s := { s with rest := Text.dropBlanks s.rest }
  let n := ds.foldl (fun n c => 10 * n + (c.toNat - 48)) 0
  if ds.isEmpty || 4294967296 ≤ n then none else some (n, s)

/-- The bounds of a counted repetition from behind its brace on. -/
def readCounts : Reader (Nat × Option Nat) := fun s => do
  let s := s.skipBlanks
  let (least, s) ← readNumber s
  let (counts, s) ← match s.rest with
    | ',' :: _ =>
      let s := s.advanceSkipping
      match s.rest with
      | '\x7d' :: _ => some ((least, Option.none), s)
      | _ => do
        let (greatest, s) ← readNumber s
        if greatest < least then none else some ((least, some greatest), s)
    | _ => some ((least, some least), s)
  match s.rest with
  | '\x7d' :: _ => some (counts, s.advanceSkipping)
  | _ => none

/-- A part of a sequence: a node, or flags, which leave none. -/
abbrev Part := Option (Nested Node)

/-- The repetition of a part, lazy if a question mark follows. -/
def repeated (counts : Nat × Option Nat) (n : Nested Node) (s : Source) : Nested Node × Source :=
  let lazily := s.rest.head? == some '?'
  let s := if lazily then s.advance 1 else s
  let greedy := lazily == s.flags.swapGreed
  (⟨.repeated counts.1 counts.2 greedy n.value, n.depth + 1⟩, s)

/-- The flags of a group up to a colon or a closing parenthesis, and whether there is any;
`seen` holds the letters so far, among them the minus sign behind which flags are cleared. -/
def readFlags : List Char → List Char → Flags → Option (Flags × Bool × List Char)
  | [], _, _ => none
  | c :: rest, seen, f =>
    if c = ':' ∨ c = ')' then
      if seen.head? == some '-' then none else some (f, !seen.isEmpty, c :: rest)
    else if seen.contains c then none
    else if c = '-' then readFlags rest (c :: seen) f
    else (f.set? c (!seen.contains '-')).bind fun f => readFlags rest (c :: seen) f

/-- Whether a character can start the name of a capture. -/
def startsName (c : Char) : Bool := c == '_' || Unicode.Recent.alphabetic.contains c

/-- Whether a character can go on in the name of a capture. -/
def continuesName (c : Char) : Bool :=
  startsName c || Unicode.Recent.numeric.contains c || c == '.' || c == '[' || c == ']'

/-- The name of a capture and what follows its closing angle. -/
def readName (cs : List Char) : Option (String × List Char) :=
  let name := cs.takeWhile (· != '>')
  match name, cs.dropWhile (· != '>') with
  | c :: more, _ :: rest =>
    if startsName c && more.all continuesName then some (String.ofList name, rest) else none
  | _, _ => none

/-- What stands behind an opening parenthesis: the number of a capture, a group that is not
captured, or flags for the rest of the group around it. -/
inductive Opening where
  | capture (index : Nat)
  | group
  | flags

/-- Read what stands behind an opening parenthesis. -/
def readOpening : Reader Opening := fun s =>
  let s := s.skipBlanks
  let named (rest : List Char) : Option (Opening × Source) :=
    (readName rest).bind fun (name, rest) =>
      if (s.names.lookup name).isSome then none
      else some (.capture s.next, s.withCapture rest (some name))
  match s.rest with
  | '?' :: '=' :: _ | '?' :: '!' :: _ | '?' :: '<' :: '=' :: _ | '?' :: '<' :: '!' :: _ => none
  | '?' :: 'P' :: '<' :: rest => named rest
  | '?' :: '<' :: rest => named rest
  | '?' :: rest =>
    match readFlags rest [] s.flags with
    | some (f, _, ':' :: rest) => some (.group, { s with rest := rest, flags := f })
    | some (f, true, _ :: rest) => some (.flags, { s with rest := rest, flags := f })
    | _ => none
  | rest => some (.capture s.next, s.withCapture rest none)

/-- The rest of a group: what is inside, the closing parenthesis, and the flags `outer` again. -/
def readGroup (inside : Reader (Nested Node)) (outer : Flags) : Reader (Nested Node) := fun s => do
  let (n, s) ← inside s
  match s.rest with
  | ')' :: rest => return (⟨n.value, n.depth + 1⟩, { s with rest := rest, flags := outer })
  | _ => none

/-- A node that is no group, no class in brackets and no operator. A byte beyond ASCII is no
character. -/
def readPrimitive : Reader Node := fun s =>
  match s.rest with
  | [] => none
  | '\\' :: _ =>
    match readEscape (s.advance 1) with
    | some (.literal c, s) => some (.char (s.flags.literal c), s)
    | some (.byte c, s) =>
      if s.flags.unicode || c.toNat < 128 then some (.char (s.flags.literal c), s) else none
    | some (.charClass set, s) => some (.char set, s)
    | some (.look l, s) => some (.look l, s)
    | none => none
  | '.' :: _ => s.flags.dot?.map fun set => (.char set, s.advance 1)
  | '^' :: _ => some (.look s.flags.lineStart, s.advance 1)
  | '$' :: _ => some (.look s.flags.lineEnd, s.advance 1)
  | c :: _ => some (.char (s.flags.literal c), s.advance 1)

/-- The operator of a repetition at the head, if there is one. -/
def readRepetition : Source → Option (Option ((Nat × Option Nat) × Source)) := fun s =>
  match s.rest with
  | '?' :: _ => some (some ((0, some 1), s.advance 1))
  | '*' :: _ => some (some ((0, none), s.advance 1))
  | '+' :: _ => some (some ((1, none), s.advance 1))
  | '\x7b' :: _ => (readCounts (s.advance 1)).map some
  | _ => some none

/-- The parts of a sequence, the last first, up to a bar, a closing parenthesis or the end. Flags
cannot be repeated. `fuel` bounds the number of parts. -/
def readParts (inside : Reader (Nested Node)) : Nat → List Part → Reader (List Part)
  | 0, acc, s => some (acc, s)
  | fuel + 1, acc, s =>
    let s := s.skipBlanks
    match s.rest with
    | [] | ')' :: _ | '|' :: _ => some (acc, s)
    | '(' :: _ => do
      let (opening, inner) ← readOpening (s.advance 1)
      match opening with
      | .flags => readParts inside fuel (none :: acc) inner
      | .group => do
        let (n, s) ← readGroup inside s.flags inner
        readParts inside fuel (some n :: acc) s
      | .capture index => do
        let (n, s) ← readGroup inside s.flags inner
        readParts inside fuel (some ⟨.capture index n.value, n.depth⟩ :: acc) s
    | '[' :: _ => do
      let (n, s) ← readBracket (maxDepth + 1) s
      readParts inside fuel (some ⟨.char n.value, n.depth⟩ :: acc) s
    | _ => do
      match ← readRepetition s with
      | some (counts, s) =>
        match acc with
        | some n :: acc =>
          let (n, s) := repeated counts n s
          readParts inside fuel (some n :: acc) s
        | _ => none
      | none => do
        let (n, s) ← readPrimitive s
        readParts inside fuel (some ⟨n, 0⟩ :: acc) s

/-- How deep parts nest that are put together: one deeper than the deepest if there are several. -/
def depthOfAll (depths : List Nat) : Nat :=
  match depths with
  | [] => 0
  | [d] => d
  | d :: more => more.foldl max d + 1

/-- A sequence of parts. -/
def readSequence (inside : Reader (Nested Node)) : Reader (Nested Node) := fun s => do
  let (acc, s) ← readParts inside (s.rest.length + 1) [] s
  let nodes := acc.reverse.filterMap fun p => p.map Nested.value
  let depths := acc.map fun p => (p.map Nested.depth).getD 0
  return (⟨.sequenceAll nodes, depthOfAll depths⟩, s)

/-- The sequences behind bars; `fuel` bounds their number. -/
def readAlternatives (inside : Reader (Nested Node)) : Nat → Reader (List (Nested Node))
  | fuel + 1, s =>
    match s.rest with
    | '|' :: _ => do
      let (n, s) ← readSequence inside (s.advance 1)
      let (more, s) ← readAlternatives inside fuel s
      return (n :: more, s)
    | _ => some ([], s)
  | 0, s => some ([], s)

/-- A choice between sequences whose groups nest at most `n` deep. -/
def readChoice : Nat → Reader (Nested Node)
  | 0, _ => none
  | n + 1, s => do
    let inside := readChoice n
    let (first, s) ← readSequence inside s
    let (more, s) ← readAlternatives inside (s.rest.length + 1) s
    let parts := first :: more
    return (⟨.choiceAll (parts.map Nested.value), depthOfAll (parts.map Nested.depth)⟩, s)

/-- The regular expression of a text. -/
def ofText? (text : String) : Option Regex := do
  let (root, s) ← readChoice (maxDepth + 1) ⟨text.toList, .start, 1, []⟩
  if s.rest.isEmpty && root.depth ≤ maxDepth && root.value.fits then
    some ⟨root.value, s.names, s.next⟩
  else none

end Regex
end Hindsight
