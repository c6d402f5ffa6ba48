import Hindsight.Json.Basic
import Hindsight.Number.Shortest
import Hindsight.Text.Basic

/-!
# JSON text

The compact text of a JSON tree: no blanks between tokens, members in the order of the tree, and in
strings an escape for quotes, backslashes and control characters only.
-/

namespace Hindsight
namespace Json

/-- One character inside a string. -/
def escaped (c : Char) : List Char :=
  if c = '"' then ['\\', '"']
  else if c = '\\' then ['\\', '\\']
  else if c.toNat = 8 then ['\\', 'b']
  else if c.toNat = 12 then ['\\', 'f']
  else if c = '\n' then ['\\', 'n']
  else if c = '\r' then ['\\', 'r']
  else if c = '\t' then ['\\', 't']
  else if c.toNat < 32 then
    ['\\', 'u', '0', '0', Text.hexDigit (c.toNat / 16), Text.hexDigit (c.toNat % 16)]
  else [c]

/-- A string between quotes. -/
def quoted (s : String) : String := String.ofList ('"' :: s.toList.flatMap escaped ++ ['"'])

mutual

/-- The pieces of the text of a tree. A float that is no number is written as null. -/
def pieces : Json → List String
  | null => ["null"]
  | bool b => [if b then "true" else "false"]
  | int n => [toString n]
  | float x => [if Number.isFinite x then Number.Layout.json.text x else "null"]
  | string s => [quoted s]
  | array items => "[" :: itemPieces true items ++ ["]"]
  | object members => "\x7b" :: memberPieces true members ++ ["\x7d"]
  | fault _ => []

/-- The pieces of items, a comma before all but the first. -/
def itemPieces (first : Bool) : List Json → List String
  | [] => []
  | j :: rest => (if first then [] else [","]) ++ pieces j ++ itemPieces false rest

/-- The pieces of members, a comma before all but the first. -/
def memberPieces (first : Bool) : List (String × Json) → List String
  | [] => []
  | (k, j) :: rest =>
    (if first then [] else [","]) ++ quoted k :: ":" :: pieces j ++ memberPieces false rest

end

/-- The compact text of a tree. -/
def text (j : Json) : String := String.join (pieces j)

end Json
end Hindsight
