import Hindsight.Unicode.Property

/-!
# Classes of characters at breaks

What a character is where a text is broken into characters as a reader sees them, into words or
into sentences. The classes follow from general categories and properties, with exceptions listed
here. A name is given in small letters, without spaces, hyphens or low lines.
-/

namespace Hindsight
namespace Unicode

open ListedProperty (prependedConcatenationMark emojiModifier)

namespace GraphemeBreak

/-- Marks that go with the character before them and are drawn within it. -/
def extend : CharSet := graphemeExtend.union emojiModifier.chars

/-- Characters that a break follows and precedes. -/
def control : CharSet :=
  (CharSet.unionAll [Category.charsOf [.lineSeparator, .paragraphSeparator, .control, .format],
    Category.unassigned.inter defaultIgnorable]).diff
      (.unionAll [.ofListing "a d 200c-200d", prependedConcatenationMark.chars, extend])

/-- Marks that take room of their own. -/
def spacingMark : CharSet :=
  ((Category.charsOf [.spacingMark]).union (.ofListing "e33 eb3")).diff (extend.union (.ofListing
    "102b-102c 1038 1062-1064 1067-106d 1083 1087-108c 108f 109a-109c 1a61 1a63-1a64 aa7b aa7d
     11720-11721"))

/-- Characters that go with the one behind them. -/
def prepended : CharSet :=
  prependedConcatenationMark.chars.union (.ofListing
    "d4e 111c2-111c3 113d1 1193f 11941 11a3a 11a84-11a89 11d46 11f02")

/-- The syllables of Hangul. -/
def syllables : CharSet := .ofListing "ac00-d7a3"

/-- The syllables of Hangul without a consonant at their end. -/
def openSyllables : CharSet :=
  .ofRanges ((List.range 399).map fun i => .single (0xac00 + 28 * i))

/-- The characters of a class by its name. -/
def named? : String → Option CharSet
  | "cr" => some (.ofListing "d")
  | "lf" => some (.ofListing "a")
  | "cn" | "control" => some control
  | "ex" | "extend" => some extend
  | "l" => some (.ofListing "1100-115f a960-a97c")
  | "v" => some (.ofListing "1160-11a7 d7b0-d7c6 16d63 16d67-16d6a")
  | "t" => some (.ofListing "11a8-11ff d7cb-d7fb")
  | "lv" => some openSyllables
  | "lvt" => some (syllables.diff openSyllables)
  | "pp" | "prepend" => some prepended
  | "ri" | "regionalindicator" => some ListedProperty.regionalIndicator.chars
  | "sm" | "spacingmark" => some spacingMark
  | "zwj" => some (.ofListing "200d")
  | _ => none

end GraphemeBreak

namespace WordBreak

/-- Marks that go with the character before them. -/
def extend : CharSet :=
  (CharSet.unionAll [graphemeExtend, Category.charsOf [.spacingMark],
    emojiModifier.chars]).diff (.ofListing "200d")

/-- The letters of Hebrew. -/
def hebrewLetter : CharSet :=
  .ofListing "5d0-5ea 5ef-5f2 fb1d fb1f-fb28 fb2a-fb36 fb38-fb3c fb3e fb40-fb41 fb43-fb44 fb46-fb4f"

/-- The letters of Katakana. -/
def katakana : CharSet :=
  .ofListing "3031-3035 309b-309c 30a0-30fa 30fc-30ff 31f0-31ff 32d0-32fe 3300-3357 ff66-ff9d
    1aff0-1aff3 1aff5-1affb 1affd-1affe 1b000 1b120-1b122 1b155 1b164-1b167"

/-- The letters of scripts that are written without spaces between words, and those of Hiragana. -/
def unspacedLetter : CharSet :=
  .ofListing "e01-e30 e32-e33 e40-e46 e81-e82 e84 e86-e8a e8c-ea3 ea5 ea7-eb0 eb2-eb3 ebd ec0-ec4
    ec6 edc-edf 1000-102a 103f 1050-1055 105a-105d 1061 1065-1066 106e-1070 1075-1081 108e
    1780-17b3 17d7 17dc 1950-196d 1970-1974 1980-19ab 19b0-19c9 1a20-1a54 1aa7 3041-3096
    309d-309f a9e0-a9e4 a9e6-a9ef a9fa-a9fe aa60-aa76 aa7a aa7e-aaaf aab1 aab5-aab6 aab9-aabd
    aac0 aac2 aadb-aadd 11700-1171a 11740-11746 1b001-1b11f 1b132 1b150-1b152"

/-- The other letters, and modifiers of letters that are symbols. -/
def letter : CharSet :=
  (alphabetic.diff (.unionAll [extend, ListedProperty.ideographic.chars, hebrewLetter, katakana,
    unspacedLetter])).union (.ofListing
      "2c2-2c5 2d2-2d7 2de-2df 2e5-2eb 2ed 2ef-2ff 55a-55c 55e 58a 5f3 a708-a716 a720-a721
       a789-a78a ab5b")

/-- The characters of a class by its name. -/
def named? : String → Option CharSet
  | "cr" => some (.ofListing "d")
  | "lf" => some (.ofListing "a")
  | "nl" | "newline" => some (.ofListing "b-c 85 2028-2029")
  | "dq" | "doublequote" => some (.ofListing "22")
  | "sq" | "singlequote" => some (.ofListing "27")
  | "extend" => some extend
  | "ex" | "extendnumlet" => some (.ofListing "5f 202f 203f-2040 2054 fe33-fe34 fe4d-fe4f ff3f")
  | "fo" | "format" => some (Category.format.chars.diff (extend.union (.ofListing "200b 200d")))
  | "hl" | "hebrewletter" => some hebrewLetter
  | "ka" | "katakana" => some katakana
  | "le" | "aletter" => some letter
  | "mb" | "midnumlet" => some (.ofListing "2e 2018-2019 2024 fe52 ff07 ff0e")
  | "ml" | "midletter" => some (.ofListing "3a b7 387 55f 5f4 2027 fe13 fe55 ff1a")
  | "mn" | "midnum" =>
    some (.ofListing "2c 3b 37e 589 60c-60d 66c 7f8 2044 fe10 fe14 fe50 fe54 ff0c ff1b")
  | "nu" | "numeric" => some (digit.union (.ofListing "66b"))
  | "ri" | "regionalindicator" => some ListedProperty.regionalIndicator.chars
  | "wsegspace" => some (Category.spaceSeparator.chars.diff (.ofListing "a0 2007 202f"))
  | "zwj" => some (.ofListing "200d")
  | _ => none

end WordBreak

namespace SentenceBreak

/-- Marks that go with the character before them. -/
def extend : CharSet :=
  .unionAll [graphemeExtend, Category.charsOf [.spacingMark], .ofListing "200d"]

/-- Full stops. -/
def fullStop : CharSet := .ofListing "2e 2024 fe52 ff0e"

/-- Small letters. -/
def lower : CharSet := lowercase.diff (extend.union (.ofListing "10d0-10fa 10fd-10ff"))

/-- Capital letters. -/
def upper : CharSet :=
  (uppercase.union Category.titlecaseLetter.chars).diff (.ofListing "1c90-1cba 1cbd-1cbf")

/-- The characters of a class by its name. -/
def named? : String → Option CharSet
  | "cr" => some (.ofListing "d")
  | "lf" => some (.ofListing "a")
  | "se" | "sep" => some (.ofListing "85 2028-2029")
  | "ex" | "extend" => some extend
  | "fo" | "format" => some (Category.format.chars.diff extend)
  | "sp" => some (ListedProperty.whiteSpace.chars.diff (.ofListing "a d 85 2028-2029"))
  | "lo" | "lower" => some lower
  | "up" | "upper" => some upper
  | "le" | "oletter" =>
    some ((alphabetic.diff (.unionAll [lower, upper, extend])).union (.ofListing "5f3"))
  | "nu" | "numeric" => some (digit.union (.ofListing "66b-66c"))
  | "at" | "aterm" => some fullStop
  | "st" | "sterm" => some (ListedProperty.sentenceTerminal.chars.diff fullStop)
  | "sc" | "scontinue" =>
    some (.ofListing "2c-2d 3a-3b 37e 55d 60c-60d 7f8 1802 1808 2013-2014 3001 fe10-fe11
      fe13-fe14 fe31-fe32 fe50-fe51 fe54-fe55 fe58 fe63 ff0c-ff0d ff1a-ff1b ff64")
  | "cl" | "close" =>
    some ((Category.charsOf [.openPunctuation, .closePunctuation, .initialPunctuation,
      .finalPunctuation]).union
        (.ofListing "22 27 275b-2760 2e00-2e01 2e06-2e08 2e0b 1f676-1f678"))
  | _ => none

end SentenceBreak
end Unicode
end Hindsight
