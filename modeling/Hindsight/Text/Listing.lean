import Hindsight.Text.Basic
import Hindsight.Text.CharSet

/-!
# Listings of characters

Tables of characters are written as texts. Words with blanks between them name a code point in
hexadecimal digits, as `aa`; the code points from one to another, as `41-5a`; or every second one
of them, as `100-12e/2`.
-/

namespace Hindsight
namespace CharSet

/-- The number that hexadecimal digits in front give, behind those of `n`, and what follows. -/
def readCode (n : Nat) : List Char → Nat × List Char
  | [] => (n, [])
  | c :: rest =>
    match Text.hexValue? c with
    | some v => readCode (16 * n + v) rest
    | none => (n, c :: rest)

/-- Every second code point from `a` to `b`, each as a range. -/
def everySecond (a b : Nat) : List CodeRange :=
  (List.range ((b - a) / 2 + 1)).map fun i => .single (a + 2 * i)

/-- The ranges that a word of a listing names. -/
def rangesOfWord (w : List Char) : List CodeRange :=
  if w.isEmpty then []
  else
    match readCode 0 w with
    | (a, '-' :: rest) =>
      match readCode 0 rest with
      | (b, []) => [.upTo a b]
      | (b, _ :: _) => everySecond a b
    | (a, _) => [.single a]

/-- The words between blanks, some of them empty. -/
def wordsOf : List Char → List (List Char)
  | [] => [[]]
  | c :: rest =>
    if c.isWhitespace then [] :: wordsOf rest
    else
      match wordsOf rest with
      | w :: more => (c :: w) :: more
      | [] => [[c]]

/-- The characters of a listing. -/
def ofListing (t : String) : CharSet := ofRanges ((wordsOf t.toList).flatMap rangesOfWord)

end CharSet
end Hindsight
