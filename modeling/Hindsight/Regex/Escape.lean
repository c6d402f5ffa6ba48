import Hindsight.Regex.Source

/-!
# Escapes

What a backslash and the characters behind it stand for: a character by itself, by a letter or by
its number, a class by a letter or by the name of a property, or a condition on a place.
-/

namespace Hindsight
namespace Regex

/-- What an escape stands for. -/
inductive Escape where
  | literal (c : Char)
  /-- A character given by two hexadecimal digits, which stand for a byte without Unicode. -/
  | byte (c : Char)
  | charClass (s : CharSet)
  | look (l : Look)

/-- The characters that have a meaning of their own somewhere. -/
def isMeta (c : Char) : Bool := "\\.+*?()|[]\x7b\x7d^$#&-~".toList.contains c

/-- Whether a backslash may stand before a character that means itself. -/
def isEscapable (c : Char) : Bool :=
  c.toNat < 128 && !c.isAlphanum && c != '<' && c != '>'

/-- A character that a letter behind a backslash stands for. -/
def escapedControl? : Char → Option Char
  | 'a' => some '\x07'
  | 'f' => some '\x0c'
  | 't' => some '\t'
  | 'n' => some '\n'
  | 'r' => some '\r'
  | 'v' => some '\x0b'
  | _ => none

/-- The character with a code point, if there is one. -/
def charOfCode? (n : Nat) : Option Char :=
  if n.isValidChar then some (Char.ofNat n) else none

/-- The character that hexadecimal digits denote. -/
def charOfHex? (ds : List Char) : Option Char :=
  if ds.isEmpty then none
  else
    (ds.mapM Text.hexValue?).bind fun vs => charOfCode? (vs.foldl (fun n v => 16 * n + v) 0)

/-- Exactly `n` characters, blanks skipped behind each where they do not count. -/
def readExactly : Nat → List Char → Reader (List Char)
  | 0, cs, s => some (cs.reverse, s)
  | n + 1, cs, s =>
    match s.rest with
    | [] => none
    | c :: _ => readExactly n (c :: cs) s.advanceSkipping

/-- The character of an escape with `digits` hexadecimal digits or with braces, from the letter
before them on, and whether there are braces. -/
def readHex (digits : Nat) : Reader (Char × Bool) := fun s =>
  let s := s.advanceSkipping
  match s.rest with
  | '\x7b' :: _ =>
    (readBraced s.advanceSkipping).bind fun (ds, s) =>
      (charOfHex? ds).map fun c => ((c, true), s.skipBlanks)
  | _ => (readExactly digits [] s).bind fun (ds, s) => (charOfHex? ds).map fun c => ((c, false), s)

/-- Whether a character can stand in the name of a boundary. -/
def isBoundaryChar (c : Char) : Bool := c.isAlpha || c == '-'

/-- A word boundary, of which braces may name one side. Braces that do not start with a letter
are left for a repetition. -/
def readBoundary : Reader Look := fun s =>
  let w := s.flags.word
  match s.rest with
  | '\x7b' :: _ =>
    let inner := s.advanceSkipping
    match inner.rest with
    | [] => none
    | c :: _ =>
      if isBoundaryChar c then
        let (name, s) := readWhile isBoundaryChar inner.rest.length [] inner
        match s.rest with
        | '\x7d' :: _ =>
          let s := s.advance 1
          match String.ofList name with
          | "start" => some (.wordStart w, s)
          | "end" => some (.wordEnd w, s)
          | "start-half" => some (.wordStartHalf w, s)
          | "end-half" => some (.wordEndHalf w, s)
          | _ => none
        | _ => none
      else some (.boundary w, s)
  | _ => some (.boundary w, s)

/-- A text cut at the first place where `mark` stands in it. -/
def cutAt (mark : List Char) : List Char → Option (List Char × List Char)
  | [] => none
  | c :: rest =>
    if mark.isPrefixOf (c :: rest) then some ([], (c :: rest).drop mark.length)
    else (cutAt mark rest).map fun (a, b) => (c :: a, b)

/-- The characters of what braces name: a class by itself, or the value of a property behind a
colon or an equals sign; behind an exclamation mark the sign complements the class. -/
def classOfBraces? (name : List Char) : Option (CharSet × Bool) :=
  match cutAt ['!', '='] name with
  | some (property, value) => (Unicode.withValue? property value).map (·, true)
  | none =>
    let set := match cutAt [':'] name with
      | some (property, value) => Unicode.withValue? property value
      | none =>
        match cutAt ['='] name with
        | some (property, value) => Unicode.withValue? property value
        | none => Unicode.named? name
    set.map (·, false)

/-- The class of a property, named by one letter or in braces, from the letter p on, which is a
capital for the complement. Without Unicode there is none. -/
def readProperty (negated : Bool) : Reader CharSet := fun s => do
  let flags := s.flags
  let s := s.advanceSkipping
  let ((set, swapped), s) ← match s.rest with
    | [] => none
    | '\x7b' :: _ => (readBraced s.advanceSkipping).bind fun (name, s) =>
      (classOfBraces? name).map (·, s)
    | c :: _ => (Unicode.named? [c]).map fun set => ((set, false), s.advance 1)
  if flags.unicode then
    let set ← flags.negate? (negated != swapped) (flags.fold set)
    return (set, s)
  else none

/-- An escape from behind its backslash on. -/
def readEscape : Reader Escape := fun s =>
  match s.rest with
  | [] => none
  | c :: _ =>
    let after := s.advance 1
    match s.flags.classOfLetter? c with
    | some set => set.map fun set => (.charClass set, after)
    | none =>
      if isMeta c || isEscapable c then some (.literal c, after)
      else
        match escapedControl? c with
        | some d => some (.literal d, after)
        | none =>
          match c with
          | 'x' => (readHex 2 s).map fun ((d, braced), s) =>
            (if braced then .literal d else .byte d, s)
          | 'u' => (readHex 4 s).map fun ((d, _), s) => (.literal d, s)
          | 'U' => (readHex 8 s).map fun ((d, _), s) => (.literal d, s)
          | 'p' => (readProperty false s).map fun (set, s) => (.charClass set, s)
          | 'P' => (readProperty true s).map fun (set, s) => (.charClass set, s)
          | 'A' => some (.look .textStart, after)
          | 'z' => some (.look .textEnd, after)
          | 'b' => (readBoundary after).map fun (l, s) => (.look l, s)
          | 'B' => some (.look (.noBoundary s.flags.word), after)
          | '<' => some (.look (.wordStart s.flags.word), after)
          | '>' => some (.look (.wordEnd s.flags.word), after)
          | _ => none

end Regex
end Hindsight
