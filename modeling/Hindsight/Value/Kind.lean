import Hindsight.Value.Basic

/-!
# Kinds of values

The kind that an attribute of an event type is recorded with. Values of one attribute agree in
kind, except that integers and floats meet as floats.
-/

namespace Hindsight

/-- The kind of a value that is not null. -/
inductive ValueKind where
  | bool
  | int
  | float
  | text
  | instant
  | list
  | map
deriving DecidableEq, Repr

namespace ValueKind

/-- All kinds. -/
def all : List ValueKind := [bool, int, float, text, instant, list, map]

/-- The name of a kind. -/
def name : ValueKind → String
  | bool => "bool"
  | int => "int"
  | float => "float"
  | text => "string"
  | instant => "datetime"
  | list => "list"
  | map => "map"

/-- The kind of that name. -/
def ofName? (s : String) : Option ValueKind := all.find? fun k => k.name == s

/-- A kind is read back from its name. -/
theorem ofName?_name (k : ValueKind) : ofName? k.name = some k := by cases k <;> rfl

/-- The kind of a value; null has none. -/
def of? : Value → Option ValueKind
  | .null => none
  | .bool _ => some bool
  | .int _ => some int
  | .float _ | .negativeNaN => some float
  | .text _ => some text
  | .instant _ => some instant
  | .list _ => some list
  | .map _ => some map

/-- Whether values of the kind are numbers. -/
def isNumeric : ValueKind → Bool
  | int | float => true
  | _ => false

/-- The kind that covers a recorded and an incoming one, if there is any. -/
def unify : ValueKind → ValueKind → Option ValueKind
  | int, float | float, int => some float
  | a, b => if a = b then some a else none

/-- A kind meets itself. -/
theorem unify_self (k : ValueKind) : unify k k = some k := by cases k <;> rfl

/-- Kinds meet in either order. -/
theorem unify_comm (k l : ValueKind) : unify k l = unify l k := by cases k <;> cases l <;> rfl

end ValueKind

end Hindsight
