/-!
# Words, blanks, digits and texts in texts

Keywords and function names are recognised whatever the case of their ASCII letters. All other
characters, other letters included, have to agree exactly.

The characters with the Unicode property `White_Space` separate tokens of an expression and may
surround a written instant; a text is trimmed of them at both ends.

There is a hexadecimal digit for each number below sixteen, the letters small; both cases are read.

A text occurs in another at some places, and every occurrence may be replaced. The empty text occurs
everywhere: before every character and at the end.
-/

namespace Hindsight
namespace Text

/-- A text with its ASCII capitals made small; no other character changes. -/
def asciiLower (s : String) : String := String.ofList (s.toList.map Char.toLower)

/-- Two words that differ in the case of ASCII letters at most. -/
def sameWord (a b : String) : Bool := asciiLower a == asciiLower b

/-- A character is blank when it has the Unicode property `White_Space`. -/
def isBlank (c : Char) : Bool :=
  let n := c.toNat
  (0x09 ≤ n && n ≤ 0x0D) || n == 0x20 || n == 0x85 || n == 0xA0 || n == 0x1680 ||
    (0x2000 ≤ n && n ≤ 0x200A) || n == 0x2028 || n == 0x2029 || n == 0x202F || n == 0x205F ||
    n == 0x3000

/-- The characters without the blanks in front. -/
def dropBlanks (cs : List Char) : List Char := cs.dropWhile isBlank

/-- The characters without the blanks at either end. -/
def trimChars (cs : List Char) : List Char := (dropBlanks (dropBlanks cs).reverse).reverse

/-- A text without the blanks at either end. -/
def trim (s : String) : String := String.ofList (trimChars s.toList)

/-- The number of bytes that the characters take in UTF-8. -/
def byteLength (cs : List Char) : Nat := cs.foldl (fun n c => n + c.utf8Size) 0

/-- The digit of a number below sixteen. -/
def hexDigit (n : Nat) : Char := if n < 10 then Char.ofNat (48 + n) else Char.ofNat (87 + n)

/-- The value of a digit. -/
def hexValue? (c : Char) : Option Nat :=
  if '0' ≤ c ∧ c ≤ '9' then some (c.toNat - 48)
  else if 'a' ≤ c ∧ c ≤ 'f' then some (c.toNat - 87)
  else if 'A' ≤ c ∧ c ≤ 'F' then some (c.toNat - 55)
  else none

/-- A digit has the value that it was written for. -/
theorem hexValue?_hexDigit : ∀ n < 16, hexValue? (hexDigit n) = some n := by decide

/-- Whether the characters `p` occur in `cs`. -/
def occurs (p : List Char) : List Char → Bool
  | [] => p.isEmpty
  | c :: cs => p.isPrefixOf (c :: cs) || occurs p cs

/-- Whether a text contains another. -/
def contains (s p : String) : Bool := occurs p.toList s.toList

/-- Whether a text starts with another. -/
def startsWith (s p : String) : Bool := p.toList.isPrefixOf s.toList

/-- Whether a text ends with another. -/
def endsWith (s p : String) : Bool := p.toList.isSuffixOf s.toList

/-- The characters with `by_` for every occurrence of the characters `p`, which are not empty, from
left to right; `skip` characters of an occurrence are still to be passed over. -/
def replacedFrom (p by_ : List Char) : Nat → List Char → List Char
  | _, [] => []
  | skip + 1, _ :: cs => replacedFrom p by_ skip cs
  | 0, c :: cs =>
    if p.isPrefixOf (c :: cs) then by_ ++ replacedFrom p by_ (p.length - 1) cs
    else c :: replacedFrom p by_ 0 cs

/-- A text with every occurrence of another replaced by a third. -/
def replace (s p by_ : String) : String :=
  let r := by_.toList
  String.ofList (
    if p.isEmpty then r ++ s.toList.flatMap fun c => c :: r
    else replacedFrom p.toList r 0 s.toList)

end Text
end Hindsight
