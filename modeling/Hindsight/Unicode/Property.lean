import Hindsight.Unicode.Category
import Hindsight.Unicode.PropertyTable

/-!
# Derived properties of characters

The properties that general categories and listed properties decide: letters of either case, what
may stand in an identifier, what changes when a text is written in another case. Every property can
be had by its name.
-/

namespace Hindsight
namespace Unicode

/-- The small letters and what looks like them. -/
def lowercase : CharSet :=
  Category.lowercaseLetter.chars.union ListedProperty.otherLowercase.chars

/-- The capital letters and what looks like them. -/
def uppercase : CharSet :=
  Category.uppercaseLetter.chars.union ListedProperty.otherUppercase.chars

/-- The characters that are small, capital or a capital with a small letter behind it. -/
def cased : CharSet := .unionAll [lowercase, uppercase, Category.titlecaseLetter.chars]

/-- The letters, the numbers made of letters, and the marks that are vowels. -/
def alphabetic : CharSet :=
  .unionAll [cased, Category.charsOf [.modifierLetter, .otherLetter, .letterNumber],
    ListedProperty.otherAlphabetic.chars]

/-- The symbols of mathematics. -/
def math : CharSet := Category.mathSymbol.chars.union ListedProperty.otherMath.chars

/-- The marks that extend the character before them. -/
def graphemeExtend : CharSet :=
  (Category.charsOf [.nonspacingMark, .enclosingMark]).union
    ListedProperty.otherGraphemeExtend.chars

/-- The characters that stand for themselves: no controls and no marks that extend others. -/
def graphemeBase : CharSet :=
  Category.assigned.diff ((Category.charsOf
    [.control, .format, .privateUse, .lineSeparator, .paragraphSeparator]).union graphemeExtend)

/-- The characters that are passed over where the case of the letter before matters. -/
def caseIgnorable : CharSet :=
  (Category.charsOf [.nonspacingMark, .enclosingMark, .format, .modifierLetter,
    .modifierSymbol]).union
      (.ofListing "27 2e 3a b7 387 55f 5f4 2018-2019 2024 2027 fe13 fe52 fe55 ff07 ff0e ff1a")

/-- The characters that have no shape where they are not known. -/
def defaultIgnorable : CharSet :=
  (CharSet.unionAll [Category.format.chars, ListedProperty.variationSelector.chars,
    ListedProperty.otherDefaultIgnorableCodePoint.chars]).diff
      (.ofListing "600-605 6dd 70f 890-891 8e2 fff9-fffb 110bd 110cd 13430-1343f")

/-- The characters that can start an identifier. -/
def idStart : CharSet :=
  ((Category.charsOf (.letterNumber :: Category.letters)).union
    ListedProperty.otherIdStart.chars).diff (.ofListing "2e2f")

/-- The characters that can go on in an identifier. -/
def idContinue : CharSet :=
  .unionAll [idStart, ListedProperty.otherIdContinue.chars,
    Category.charsOf [.nonspacingMark, .spacingMark, .decimalNumber, .connectorPunctuation]]

/-- The characters of identifiers whose compatible forms are none. -/
def brokenByFolding : CharSet :=
  .ofListing "37a 309b-309c fc5e-fc63 fdfa-fdfb fe70-fe7e/2"

/-- The characters that can start an identifier also in their compatible forms. -/
def xidStart : CharSet := idStart.diff (brokenByFolding.union (.ofListing "e33 eb3 ff9e-ff9f"))

/-- The characters that can go on in an identifier also in their compatible forms. -/
def xidContinue : CharSet := idContinue.diff brokenByFolding

/-- The characters that change in titles: those that change in capitals, without the ones that are
their own form in titles, and the digraphs of two capitals. -/
def changesWhenTitlecased : CharSet :=
  (ListedProperty.changesWhenUppercased.chars.diff (.ofListing
    "1c5 1c8 1cb 1f2 10d0-10fa 10fd-10ff 1f88-1f8f 1f98-1f9f 1fa8-1faf 1fbc 1fcc 1ffc")).union
      (.ofListing "1c4 1c7 1ca 1f1")

/-- The characters that change in some case. -/
def changesWhenCasemapped : CharSet :=
  .unionAll [ListedProperty.changesWhenLowercased.chars,
    ListedProperty.changesWhenUppercased.chars, changesWhenTitlecased]

/-- The characters that change where case does not matter. -/
def changesWhenCasefolded : CharSet :=
  (ListedProperty.changesWhenLowercased.chars.diff (.ofListing "13a0-13f5")).union (.ofListing
    "b5 df 149 17f 345 3c2 3d0-3d1 3d5-3d6 3f0-3f1 3f5 587 13f8-13fd 1c80-1c88 1e9a-1e9b
     1f80-1f87 1f90-1f97 1fa0-1fa7 1fb2-1fb4 1fb7 1fc2-1fc4 1fc7 1ff2-1ff4 1ff7 ab70-abbf
     fb00-fb06 fb13-fb17")

/-- The symbols and digits that can go on in an identifier of mathematics. -/
def idCompatMathContinue : CharSet :=
  ListedProperty.idCompatMathStart.chars.union (.ofListing "b2-b3 b9 2070 2074-207e 2080-208e")

/-- The characters of words: letters, marks, decimal digits, connecting punctuation and joiners. -/
def word : CharSet :=
  .unionAll [alphabetic, ListedProperty.joinControl.chars,
    Category.charsOf (.decimalNumber :: .connectorPunctuation :: Category.marks)]

/-- The decimal digits of all scripts. -/
def digit : CharSet := Category.decimalNumber.chars

/-- The blank characters. -/
def blank : CharSet := ListedProperty.whiteSpace.chars

/-- The characters of a property by its name, in small letters and without low lines. -/
def property? (name : String) : Option CharSet :=
  match name with
  | "alphabetic" | "alpha" => some alphabetic
  | "caseignorable" | "ci" => some caseIgnorable
  | "cased" => some cased
  | "changeswhencasefolded" | "cwcf" => some changesWhenCasefolded
  | "changeswhencasemapped" | "cwcm" => some changesWhenCasemapped
  | "changeswhentitlecased" | "cwt" => some changesWhenTitlecased
  | "defaultignorablecodepoint" | "di" => some defaultIgnorable
  | "graphemebase" | "grbase" => some graphemeBase
  | "graphemeextend" | "grext" => some graphemeExtend
  | "idcompatmathcontinue" => some idCompatMathContinue
  | "idcontinue" | "idc" => some idContinue
  | "idstart" | "ids" => some idStart
  | "lowercase" | "lower" => some lowercase
  | "math" => some math
  | "uppercase" | "upper" => some uppercase
  | "xidcontinue" | "xidc" => some xidContinue
  | "xidstart" | "xids" => some xidStart
  | _ => (ListedProperty.ofName? name).map ListedProperty.chars

end Unicode
end Hindsight
