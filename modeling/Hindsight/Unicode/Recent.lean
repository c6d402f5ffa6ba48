import Hindsight.Unicode.Property

/-!
# Characters of Unicode 17.0

Patterns know the characters of Unicode 16.0. The case of letters, the names of captures and the
descriptions of texts follow Unicode 17.0, which differs from it by what is listed here.

A description of a text writes some characters as escapes: controls, separators other than the
space, unassigned code points, what may be ignored, and marks that extend the character before
them. The others show as themselves.
-/

namespace Hindsight
namespace Unicode

namespace Recent

/-- The letters, the numbers made of letters, and the marks that are vowels. -/
def alphabetic : CharSet :=
  Unicode.alphabetic.union (.ofListing
    "88f c5c cdc a7ce-a7cf a7d2 a7d4 a7f1 10940-10959 10ec5-10ec7 10efa-10efb 11b60-11b67
     11db0-11ddb 16ea0-16eb8 16ebb-16ed3 16ff2-16ff6 187f8-187ff 18d09-18d1e 18d80-18df2
     1e6c0-1e6de 1e6e0-1e6f5 1e6fe-1e6ff 2b73a-2b73f 2cea2-2cead 323b0-33479")

/-- The numbers of all kinds. -/
def numeric : CharSet :=
  (Category.charsOf Category.numbers).union (.ofListing "11de0-11de9 16ff4-16ff6")

/-- The characters that have a case. -/
def cased : CharSet :=
  (Unicode.cased.union (.ofListing "a7ce-a7cf a7d2 a7d4 a7f1 16ea0-16eb8 16ebb-16ed3")).diff
    (.ofListing "295")

/-- The characters that are passed over where the case of the letter before matters. -/
def caseIgnorable : CharSet :=
  Unicode.caseIgnorable.union (.ofListing
    "1acf-1add 1ae0-1aeb a7f1 10ec5 10efa-10efb 11b60 11b62-11b64 11b66 11dd9 16ff2-16ff3 1e6e3
     1e6e6 1e6ee-1e6ef 1e6f5 1e6ff")

/-- The assigned characters that are new and have a shape of their own. -/
def newShapes : CharSet :=
  .ofListing
    "88f c5c cdc 20c1 2b96 a7ce-a7cf a7d2 a7d4 a7f1 fbc3-fbd2 fd90-fd91 fdc8-fdce 10940-10959
     10ec5-10ec7 10ed0-10ed8 11b61 11b65 11b67 11db0-11ddb 11de0-11de9 16ea0-16eb8 16ebb-16ed3
     16ff2-16ff6 187f8-187ff 18d09-18d1e 18d80-18df2 1ccfa-1ccfc 1ceba-1ced0 1cee0-1cef0
     1e6c0-1e6de 1e6e0-1e6e2 1e6e4-1e6e5 1e6e7-1e6ed 1e6f0-1e6f4 1e6fe-1e6ff 1f6d8 1f777-1f77a
     1f8d0-1f8d8 1fa54-1fa57 1fa8a 1fa8e 1fac8 1facd 1faea 1faef 1fbfa 2b73a-2b73f 2cea2-2cead
     323b0-33479"

/-- The characters without a shape of their own: controls, separators other than the space,
unassigned code points, what may be ignored, and marks that extend the character before them. The
sound marks of Katakana at half width extend others and have a shape. -/
def shapeless : CharSet :=
  (CharSet.unionAll [Unicode.Category.unassigned,
    Category.charsOf (.control :: .format :: .privateUse :: Category.separators),
    graphemeExtend.diff (.ofListing "ff9e-ff9f"), defaultIgnorable]).diff
      (newShapes.union (.single ' '))

end Recent
end Unicode

namespace Text

/-- Whether a character shows as itself. -/
def isVisible (c : Char) : Bool := !Unicode.Recent.shapeless.contains c

end Text
end Hindsight
