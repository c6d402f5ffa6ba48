import Hindsight.Value.Kind

/-!
# Types of formulas

What is known of the values of a formula before it is evaluated. `any` and `unknown` fit
everywhere; a text fits where an instant is expected and the other way round, since texts are read
as instants when the two are compared.
-/

namespace Hindsight

/-- The type of a formula. -/
inductive ValueType where
  | number
  | text
  | boolean
  | instant
  | list
  | map
  | any
  | unknown
deriving DecidableEq, Repr

namespace ValueType

/-- The name of a type. -/
def name : ValueType → String
  | number => "number"
  | text => "string"
  | boolean => "boolean"
  | instant => "datetime"
  | list => "list"
  | map => "map"
  | any => "any"
  | unknown => "unknown"

/-- The types. -/
def all : List ValueType := [number, text, boolean, instant, list, map, any, unknown]

/-- The type of that name. -/
def ofName? (s : String) : Option ValueType := all.find? fun t => t.name == s

/-- A type is read back from its name. -/
theorem ofName?_name (t : ValueType) : ofName? t.name = some t := by cases t <;> rfl

/-- The type of the values of a kind. -/
def ofKind : ValueKind → ValueType
  | .bool => boolean
  | .int | .float => number
  | .text => text
  | .instant => instant
  | .list => list
  | .map => map

/-- The type of a literal value. -/
def ofLiteral (v : Value) : ValueType :=
  match ValueKind.of? v with
  | some k => ofKind k
  | none => any

/-- Whether nothing is known. -/
def isOpen : ValueType → Bool
  | any | unknown => true
  | _ => false

/-- Whether values of the two types can meet. -/
def fits (s t : ValueType) : Bool :=
  s.isOpen || t.isOpen || s == t || (s == instant && t == text) || (s == text && t == instant)

/-- Whether a number can be had. -/
def isNumeric (t : ValueType) : Bool := t == number || t.isOpen

/-- Whether a truth value can be had. -/
def isBoolean (t : ValueType) : Bool := t == boolean || t.isOpen

/-- To fit goes both ways, so the order of operands does not matter. -/
theorem fits_comm (s t : ValueType) : fits s t = fits t s := by cases s <;> cases t <;> rfl

end ValueType

end Hindsight
