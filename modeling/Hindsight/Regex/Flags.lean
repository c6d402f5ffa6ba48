import Hindsight.Regex.Basic
import Hindsight.Text.CharSet
import Hindsight.Unicode.Fold
import Hindsight.Unicode.Named

/-!
# Flags

What flags say about the characters of a regular expression: whether case counts, whether classes
hold all characters or those of ASCII alone, and what ends a line. Without Unicode a class has to
be one of ASCII characters, so that no class can be complemented, while a single character may be
any.

The classes of ASCII characters are the named ones that brackets may hold between colons, and those
that stand for words, digits and blanks where only ASCII counts.
-/

namespace Hindsight
namespace Regex

/-- The word characters of ASCII. -/
def asciiWord : CharSet := .ofPairs [('0', '9'), ('A', 'Z'), ('_', '_'), ('a', 'z')]

/-- The digits of ASCII. -/
def asciiDigit : CharSet := .range '0' '9'

/-- The blanks of ASCII. -/
def asciiBlank : CharSet := .ofPairs [('\t', '\r'), (' ', ' ')]

/-- The class of a name. -/
def asciiClass? : String → Option CharSet
  | "alnum" => some (.ofPairs [('0', '9'), ('A', 'Z'), ('a', 'z')])
  | "alpha" => some (.ofPairs [('A', 'Z'), ('a', 'z')])
  | "ascii" => some (.range '\x00' '\x7f')
  | "blank" => some (.ofChars ['\t', ' '])
  | "cntrl" => some (.ofPairs [('\x00', '\x1f'), ('\x7f', '\x7f')])
  | "digit" => some asciiDigit
  | "graph" => some (.range '!' '~')
  | "lower" => some (.range 'a' 'z')
  | "print" => some (.range ' ' '~')
  | "punct" => some (.ofPairs [('!', '/'), (':', '@'), ('[', '\x60'), ('\x7b', '~')])
  | "space" => some asciiBlank
  | "upper" => some (.range 'A' 'Z')
  | "word" => some asciiWord
  | "xdigit" => some (.ofPairs [('0', '9'), ('A', 'F'), ('a', 'f')])
  | _ => none

/-- What flags say. -/
structure Flags where
  ignoreCase : Bool
  multiLine : Bool
  dotAll : Bool
  swapGreed : Bool
  unicode : Bool
  extended : Bool
  crlf : Bool
deriving DecidableEq, Repr

namespace Flags

/-- The flags that hold at the start. -/
def start : Flags := ⟨false, false, false, false, true, false, false⟩

/-- The flags after one of them is set or cleared. -/
def set? (f : Flags) (letter : Char) (value : Bool) : Option Flags :=
  match letter with
  | 'i' => some { f with ignoreCase := value }
  | 'm' => some { f with multiLine := value }
  | 's' => some { f with dotAll := value }
  | 'U' => some { f with swapGreed := value }
  | 'u' => some { f with unicode := value }
  | 'x' => some { f with extended := value }
  | 'R' => some { f with crlf := value }
  | _ => none

/-- The word characters. -/
def word (f : Flags) : CharSet := if f.unicode then Unicode.word else asciiWord

/-- A class, without regard to case if it does not count. -/
def fold (f : Flags) (s : CharSet) : CharSet :=
  if f.ignoreCase then (if f.unicode then Unicode.folded s else Unicode.asciiFolded s) else s

/-- A class or its complement. -/
def negate? (f : Flags) (negated : Bool) (s : CharSet) : Option CharSet :=
  if negated then (if f.unicode then some s.complement else none) else some s

/-- The class of a literal character. -/
def literal (f : Flags) (c : Char) : CharSet := f.fold (.single c)

/-- The class of a range in brackets. -/
def range? (f : Flags) (first last : Char) : Option CharSet :=
  if last < first || (!f.unicode && 128 ≤ last.toNat) then none else some (.range first last)

/-- The class that a letter behind a backslash names, complemented for a capital. -/
def classOfLetter? (f : Flags) (c : Char) : Option (Option CharSet) :=
  let base : Option CharSet := match c.toLower with
    | 'd' => some (if f.unicode then Unicode.digit else asciiDigit)
    | 's' => some (if f.unicode then Unicode.blank else asciiBlank)
    | 'w' => some f.word
    | _ => none
  base.map fun s => f.negate? c.isUpper s

/-- A dot. Without Unicode there is none. -/
def dot? (f : Flags) : Option CharSet :=
  if !f.unicode then none
  else if f.dotAll then some .all
  else if f.crlf then some (CharSet.ofChars ['\n', '\r']).complement
  else some (CharSet.single '\n').complement

/-- The start of a line, or of the text. -/
def lineStart (f : Flags) : Look :=
  if !f.multiLine then .textStart else if f.crlf then .lineStartCrlf else .lineStart

/-- The end of a line, or of the text. -/
def lineEnd (f : Flags) : Look :=
  if !f.multiLine then .textEnd else if f.crlf then .lineEndCrlf else .lineEnd

end Flags
end Regex
end Hindsight
