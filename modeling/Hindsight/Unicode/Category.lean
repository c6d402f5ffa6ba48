import Hindsight.Unicode.CategoryTable

/-!
# Sets of general categories

Categories and groups of them by name. A name is given in small letters, without spaces, hyphens
or low lines.
-/

namespace Hindsight
namespace Unicode

namespace Category

/-- The characters of a category. -/
def chars (c : Category) : CharSet := .ofListing c.listing

/-- The names of a category, short and long. -/
def names : Category → List String
  | uppercaseLetter => ["lu", "uppercaseletter"]
  | lowercaseLetter => ["ll", "lowercaseletter"]
  | titlecaseLetter => ["lt", "titlecaseletter"]
  | modifierLetter => ["lm", "modifierletter"]
  | otherLetter => ["lo", "otherletter"]
  | nonspacingMark => ["mn", "nonspacingmark"]
  | spacingMark => ["mc", "spacingmark"]
  | enclosingMark => ["me", "enclosingmark"]
  | decimalNumber => ["nd", "decimalnumber", "digit"]
  | letterNumber => ["nl", "letternumber"]
  | otherNumber => ["no", "othernumber"]
  | connectorPunctuation => ["pc", "connectorpunctuation"]
  | dashPunctuation => ["pd", "dashpunctuation"]
  | openPunctuation => ["ps", "openpunctuation"]
  | closePunctuation => ["pe", "closepunctuation"]
  | initialPunctuation => ["pi", "initialpunctuation"]
  | finalPunctuation => ["pf", "finalpunctuation"]
  | otherPunctuation => ["po", "otherpunctuation"]
  | mathSymbol => ["sm", "mathsymbol"]
  | currencySymbol => ["sc", "currencysymbol"]
  | modifierSymbol => ["sk", "modifiersymbol"]
  | otherSymbol => ["so", "othersymbol"]
  | spaceSeparator => ["zs", "spaceseparator"]
  | lineSeparator => ["zl", "lineseparator"]
  | paragraphSeparator => ["zp", "paragraphseparator"]
  | control => ["cc", "control", "cntrl"]
  | format => ["cf", "format"]
  | privateUse => ["co", "privateuse"]

/-- The category of a name. -/
def ofName? (name : String) : Option Category := all.find? fun c => c.names.contains name

/-- The characters of any of some categories. -/
def charsOf (cs : List Category) : CharSet := .unionAll (cs.map chars)

/-- The letters. -/
def letters : List Category :=
  [uppercaseLetter, lowercaseLetter, titlecaseLetter, modifierLetter, otherLetter]

/-- The letters that have a case. -/
def casedLetters : List Category := [uppercaseLetter, lowercaseLetter, titlecaseLetter]

/-- The marks. -/
def marks : List Category := [nonspacingMark, spacingMark, enclosingMark]

/-- The numbers. -/
def numbers : List Category := [decimalNumber, letterNumber, otherNumber]

/-- The punctuation. -/
def punctuation : List Category :=
  [connectorPunctuation, dashPunctuation, openPunctuation, closePunctuation, initialPunctuation,
    finalPunctuation, otherPunctuation]

/-- The symbols. -/
def symbols : List Category := [mathSymbol, currencySymbol, modifierSymbol, otherSymbol]

/-- The separators. -/
def separators : List Category := [spaceSeparator, lineSeparator, paragraphSeparator]

/-- The categories of a group by its name. -/
def group? : String → Option (List Category)
  | "l" | "letter" => some letters
  | "lc" | "casedletter" => some casedLetters
  | "m" | "mark" | "combiningmark" => some marks
  | "n" | "number" => some numbers
  | "p" | "punctuation" | "punct" => some punctuation
  | "s" | "symbol" => some symbols
  | "z" | "separator" => some separators
  | _ => none

/-- The assigned characters. -/
def assigned : CharSet := charsOf all

/-- The characters that are not assigned. Code points that no character can have are not among
them. -/
def unassigned : CharSet := assigned.complement.diff (.ofListing "d800-dfff")

/-- The characters of a category, of a group of categories or of one of the classes that are named
beside them. -/
def named? (name : String) : Option CharSet :=
  match name with
  | "any" => some .all
  | "ascii" => some (.ofListing "0-7f")
  | "assigned" => some unassigned.complement
  | "cn" | "unassigned" => some unassigned
  | "c" | "other" => some ((charsOf [control, format, privateUse]).union unassigned)
  | _ =>
    match ofName? name with
    | some c => some c.chars
    | none => (group? name).map charsOf

end Category
end Unicode
end Hindsight
