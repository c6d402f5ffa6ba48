import Hindsight.Json.Basic
import Hindsight.Value.Basic

/-!
# Values as JSON

JSON has no instants, so an instant is written as its text, and it has no floats that are not
finite, so those are written as null. An integer that needs the unsigned range is read as a float.
-/

namespace Hindsight
namespace Value

mutual

/-- The JSON tree of a value. -/
def toJson : Value → Json
  | null => .null
  | bool b => .bool b
  | int n => .int n
  | float x => if Number.isFinite x then .float x else .null
  | negativeNaN => .null
  | text s => .string s
  | instant t => .string t.text
  | list items => .array (itemsToJson items)
  | map entries => .object (entriesToJson entries)

/-- The JSON trees of items. -/
def itemsToJson : List Value → List Json
  | [] => []
  | v :: rest => toJson v :: itemsToJson rest

/-- The JSON members of entries. -/
def entriesToJson : List (String × Value) → List (String × Json)
  | [] => []
  | (k, v) :: rest => (k, toJson v) :: entriesToJson rest

end

mutual

/-- The value of a JSON tree. -/
def ofJson : Json → Value
  | .null => null
  | .bool b => bool b
  | .int n => if Number.fitsWord n then int n else float (Number.toFloat n)
  | .float x => float x
  | .string s => text s
  | .array items => list (itemsOfJson items)
  | .object members => map (Dict.ofList (entriesOfJson members)).entries
  | .fault _ => null

/-- The values of JSON items. -/
def itemsOfJson : List Json → List Value
  | [] => []
  | j :: rest => ofJson j :: itemsOfJson rest

/-- The entries of JSON members, in the order of the members. -/
def entriesOfJson : List (String × Json) → List (String × Value)
  | [] => []
  | (k, j) :: rest => (k, ofJson j) :: entriesOfJson rest

end

end Value
end Hindsight
