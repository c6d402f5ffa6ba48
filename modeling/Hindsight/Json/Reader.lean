import Hindsight.Json.Number
import Hindsight.Text.Basic

/-!
# Reading JSON text

A text is read into a tree with its members in the order of the text. Reading never fails: where
the text stops being JSON the tree has a fault as its last part, and a text that goes on after its
value is marked as not complete. What is JSON and can be no value is a fault too, behind which
reading goes on. Arrays and objects nest to a depth of 127; deeper ones are read to their end, to
whatever depth, and left out.
-/

namespace Hindsight
namespace Json

/-- A tree and whether its text is JSON and nothing more. -/
structure Document where
  root : Json
  complete : Bool

/-- The blanks of JSON: space, line feed, carriage return and tab. -/
def skipBlanks (cs : List Char) : List Char :=
  cs.dropWhile fun c => c == ' ' || c == '\n' || c == '\r' || c == '\t'

/-- Four hexadecimal digits and what follows them. -/
def readHex : List Char → Option (Nat × List Char)
  | a :: b :: c :: d :: rest => do
    let a ← Text.hexValue? a
    let b ← Text.hexValue? b
    let c ← Text.hexValue? c
    let d ← Text.hexValue? d
    return (((a * 16 + b) * 16 + c) * 16 + d, rest)
  | _ => none

/-- Half a pair of surrogates, the first one. -/
def isHighHalf (n : Nat) : Bool := 0xD800 ≤ n && n < 0xDC00

/-- Half a pair of surrogates, the second one. -/
def isLowHalf (n : Nat) : Bool := 0xDC00 ≤ n && n < 0xE000

/-- The character of two halves of a pair of surrogates. -/
def ofHalves (high low : Nat) : Char :=
  Char.ofNat (0x10000 + (high - 0xD800) * 0x400 + (low - 0xDC00))

/-- The character of an escape from behind its backslash on, and what follows. Two escapes for the
halves of a pair of surrogates make one character; half a pair alone makes none. -/
def readEscape : List Char → Option (Option Char × List Char)
  | '"' :: rest => some (some '"', rest)
  | '\\' :: rest => some (some '\\', rest)
  | '/' :: rest => some (some '/', rest)
  | 'b' :: rest => some (some (Char.ofNat 8), rest)
  | 'f' :: rest => some (some (Char.ofNat 12), rest)
  | 'n' :: rest => some (some '\n', rest)
  | 'r' :: rest => some (some '\r', rest)
  | 't' :: rest => some (some '\t', rest)
  | 'u' :: rest => do
    let (n, rest) ← readHex rest
    if isHighHalf n then
      match rest with
      | '\\' :: 'u' :: more =>
        let (m, more) ← readHex more
        if isLowHalf m then return (some (ofHalves n m), more) else return (none, rest)
      | _ => return (none, rest)
    else if isLowHalf n then return (none, rest)
    else return (some (Char.ofNat n), rest)
  | _ => none

/-- A string up to its closing quote, with the characters in `done` in front in reverse, and what
follows the quote. A string with half a pair of surrogates in it has no value. `fuel` bounds the
number of characters. -/
def readString : Nat → Option (List Char) → List Char → Option (Option String × List Char)
  | 0, _, _ => none
  | _, _, [] => none
  | fuel + 1, done, c :: rest =>
    if c = '"' then some (done.map fun cs => String.ofList cs.reverse, rest)
    else if c = '\\' then
      match readEscape rest with
      | some (c, rest) => readString fuel (done.bind fun cs => c.map (· :: cs)) rest
      | none => none
    else if c.toNat < 32 then none
    else readString fuel (done.map (c :: ·)) rest

/-- A word of letters if it comes next. -/
def afterWord (word : List Char) (cs : List Char) : Option (List Char) :=
  if cs.take word.length = word then some (cs.drop word.length) else none

/-- A tree and what follows its text, which is nothing if the text stops being JSON. -/
abbrev Reading := Json × Option (List Char)

/-- A value without parts, or none if the text stops being JSON. -/
def readScalar (cs : List Char) : Reading :=
  let word (w : String) (j : Json) : Reading :=
    match afterWord w.toList cs with
    | some rest => (j, some rest)
    | none => (fault .malformed, none)
  match cs with
  | 'n' :: _ => word "null" null
  | 't' :: _ => word "true" (bool true)
  | 'f' :: _ => word "false" (bool false)
  | '"' :: rest =>
    match readString cs.length (some []) rest with
    | some (some s, rest) => (string s, some rest)
    | some (none, rest) => (fault .unreadable, some rest)
    | none => (fault .malformed, none)
  | _ =>
    match readNumber cs with
    | some (j, rest) => (j, some rest)
    | none => (fault .malformed, none)

/-- The name of a member up to the value behind its colon. -/
def readName (cs : List Char) : Option (Option String × List Char) :=
  match skipBlanks cs with
  | '"' :: rest =>
    match readString cs.length (some []) rest with
    | some (name, rest) =>
      match skipBlanks rest with
      | ':' :: rest => some (name, rest)
      | _ => none
    | none => none
  | _ => none

/-- What comes next where a value is skipped. -/
inductive Expected where
  | value
  /-- An item of an array that has none yet, or its end. -/
  | firstItem
  /-- A member of an object that has none yet, or its end. -/
  | firstMember
  | member
  /-- What follows a value. -/
  | next

/-- What follows a value that is skipped, however deep its parts nest. `around` says for each array
or object around the place, the innermost first, whether it is an object; `fuel` bounds the number
of steps. -/
def skipValue : Nat → Expected → List Bool → List Char → Option (List Char)
  | 0, _, _, _ => none
  | fuel + 1, expected, around, cs =>
    match expected, skipBlanks cs, around with
    | .value, '[' :: rest, _ => skipValue fuel .firstItem (false :: around) rest
    | .value, '\x7b' :: rest, _ => skipValue fuel .firstMember (true :: around) rest
    | .value, cs, _ =>
      match (readScalar cs).2 with
      | some rest => skipValue fuel .next around rest
      | none => none
    | .firstItem, ']' :: rest, _ :: outer => skipValue fuel .next outer rest
    | .firstItem, cs, _ => skipValue fuel .value around cs
    | .firstMember, '\x7d' :: rest, _ :: outer => skipValue fuel .next outer rest
    | .firstMember, cs, _ => skipValue fuel .member around cs
    | .member, cs, _ =>
      match readName cs with
      | some (_, rest) => skipValue fuel .value around rest
      | none => none
    | .next, _, [] => some cs
    | .next, ',' :: rest, false :: _ => skipValue fuel .value around rest
    | .next, ',' :: rest, true :: _ => skipValue fuel .member around rest
    | .next, ']' :: rest, false :: outer => skipValue fuel .next outer rest
    | .next, '\x7d' :: rest, true :: outer => skipValue fuel .next outer rest
    | .next, _, _ => none

/-- An array or an object that is nested too deep. -/
def readTooDeep (cs : List Char) : Reading :=
  match skipValue (4 * cs.length + 4) .value [] cs with
  | some rest => (fault .unreadable, some rest)
  | none => (fault .malformed, none)

mutual

/-- A value; `fuel` bounds the number of steps and `depth` the arrays and objects in it. -/
def readValue : Nat → Nat → List Char → Reading
  | 0, _, _ => (fault .malformed, none)
  | fuel + 1, depth, cs =>
    match skipBlanks cs with
    | '[' :: rest =>
      if depth = 0 then readTooDeep ('[' :: rest)
      else
        let (items, rest) := readItems fuel (depth - 1) true rest
        (array items, rest)
    | '\x7b' :: rest =>
      if depth = 0 then readTooDeep ('\x7b' :: rest)
      else
        let (members, rest) := readMembers fuel (depth - 1) true rest
        (object members, rest)
    | cs => readScalar cs

/-- The items of an array up to its end. -/
def readItems : Nat → Nat → Bool → List Char → List Json × Option (List Char)
  | 0, _, _, _ => ([fault .malformed], none)
  | fuel + 1, depth, first, cs =>
    let cs := skipBlanks cs
    let item (cs : List Char) : List Json × Option (List Char) :=
      match readValue fuel depth cs with
      | (j, some rest) =>
        let (items, rest) := readItems fuel depth false rest
        (j :: items, rest)
      | (j, none) => ([j], none)
    match cs with
    | ']' :: rest => ([], some rest)
    | ',' :: rest => if first then ([fault .malformed], none) else item rest
    | cs => if first then item cs else ([fault .malformed], none)

/-- The members of an object up to its end. -/
def readMembers : Nat → Nat → Bool → List Char → List (String × Json) × Option (List Char)
  | 0, _, _, _ => ([("", fault .malformed)], none)
  | fuel + 1, depth, first, cs =>
    let member (cs : List Char) : List (String × Json) × Option (List Char) :=
      match readName cs with
      | some (name, rest) =>
        match readValue fuel depth rest with
        | (j, some rest) =>
          let (members, rest) := readMembers fuel depth false rest
          ((name.map (·, j)).getD ("", fault .unreadableName) :: members, rest)
        | (j, none) => ([(name.getD "", j)], none)
      | none => ([("", fault .malformed)], none)
    match skipBlanks cs with
    | '\x7d' :: rest => ([], some rest)
    | ',' :: rest => if first then ([("", fault .malformed)], none) else member rest
    | cs => if first then member cs else ([("", fault .malformed)], none)

end

/-- The tree of a text. -/
def Document.ofText (s : String) : Document :=
  let cs := s.toList
  match readValue (2 * cs.length + 2) 127 cs with
  | (j, some rest) => ⟨j, (skipBlanks rest).isEmpty⟩
  | (j, none) => ⟨j, false⟩

/-- The canonical tree of a text that is JSON throughout. -/
def ofText? (s : String) : Option Json :=
  let d := Document.ofText s
  if d.complete && d.root.isReadable then some d.root.canonical else none

end Json
end Hindsight
