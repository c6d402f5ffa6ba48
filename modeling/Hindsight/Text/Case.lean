import Hindsight.Text.CaseTable
import Hindsight.Unicode.Recent

/-!
# Letter case

The small and the capital form of a text. A character may become several, and the Greek capital
sigma becomes the final form at the end of a word: behind a letter and not before one, where
characters like apostrophes do not count.
-/

namespace Hindsight
namespace Text

/-- The characters of code points. -/
def ofCodes (ns : List Nat) : List Char := ns.map Char.ofNat

/-- A character under the runs and expansions of a case mapping. -/
def caseMapped (runs : List CodeRun) (expansions : List (Nat × List Nat)) (c : Char) :
    List Char :=
  match expansions.lookup c.toNat with
  | some ns => ofCodes ns
  | none => [Char.ofNat (mapped runs c.toNat)]

/-- Whether the first character that is not passed over has a case. -/
def startsCased (cs : List Char) : Bool :=
  match cs.find? fun c => !Unicode.Recent.caseIgnorable.contains c with
  | some c => Unicode.Recent.cased.contains c
  | none => false

/-- The small form of the characters, of which those in `before` come first, the nearest first. -/
def smallFrom (before : List Char) : List Char → List Char
  | [] => []
  | c :: rest =>
    (if c = 'Σ' then [if startsCased before && !startsCased rest then 'ς' else 'σ']
     else caseMapped smallRuns smallExpansions c) ++ smallFrom (c :: before) rest

/-- A text in small letters. -/
def small (s : String) : String := String.ofList (smallFrom [] s.toList)

/-- A text in capital letters. -/
def capital (s : String) : String :=
  String.ofList (s.toList.flatMap (caseMapped capitalRuns capitalExpansions))

end Text
end Hindsight
