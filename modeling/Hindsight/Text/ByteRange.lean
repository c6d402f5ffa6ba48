import Hindsight.Text.CharSet

/-!
# Sets of characters as ranges of bytes

A set of characters in UTF-8: the least number of sequences of byte ranges such that a character is
in the set when its bytes lie in the ranges of one of them. A range of code points is cut where the
number of bytes changes, and where the bytes behind one that differs do not take all their values.
-/

namespace Hindsight

/-- Bytes from the first to the second. -/
abbrev ByteRange := Nat × Nat

namespace CodeRange

/-- The bytes of a code point in UTF-8. -/
def bytes (n : Nat) : List Nat :=
  if n < 0x80 then [n]
  else if n < 0x800 then [0xc0 + n / 64, 0x80 + n % 64]
  else if n < 0x10000 then [0xe0 + n / 4096, 0x80 + n / 64 % 64, 0x80 + n % 64]
  else [0xf0 + n / 262144, 0x80 + n / 4096 % 64, 0x80 + n / 64 % 64, 0x80 + n % 64]

/-- Where blocks of `width` code points have to be left whole: a range that goes over the end of
one is cut there, unless it starts with a block and ends with one. -/
def blockCut? (width a b : Nat) : Option Nat :=
  if a / width = b / width then none
  else if a % width ≠ 0 then some ((a / width + 1) * width)
  else if b % width ≠ width - 1 then some (b / width * width)
  else none

/-- The first code point of the second part of a range that has to be cut. -/
def cut? (a b : Nat) : Option Nat :=
  match [0x80, 0x800, 0x10000].find? fun c => a < c && c ≤ b with
  | some c => some c
  | none =>
    if b < 0x80 then none
    else ((blockCut? 64 a b).or (blockCut? 4096 a b)).or (blockCut? 262144 a b)

/-- The sequences of byte ranges of the code points from `a` to `b`. -/
def byteRanges (a b : Nat) : List (List ByteRange) :=
  match cut? a b with
  | some c =>
    if a < c ∧ c ≤ b then byteRanges a (c - 1) ++ byteRanges c b else []
  | none => [(bytes a).zip (bytes b)]
termination_by b - a

end CodeRange

namespace CharSet

/-- The code points that no character has. -/
def surrogates : CharSet := ofRanges [.upTo 0xd800 0xdfff]

/-- The sequences of byte ranges of a set, in increasing order. -/
def byteRanges (s : CharSet) : List (List ByteRange) :=
  (s.diff surrogates).ranges.flatMap fun r => CodeRange.byteRanges r.first r.last

/-- Whether all characters of a set are ASCII. -/
def isAscii (s : CharSet) : Bool := s.ranges.all fun r => r.last < 128

end CharSet
end Hindsight
