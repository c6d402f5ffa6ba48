import Hindsight.Expr.Basic
import Hindsight.Time.Json
import Hindsight.Value.Json

/-!
# Expressions as JSON

Every node of a syntax tree is an object with the name of the node, or the bare name if the node
holds nothing. Parts that an aggregate does not have are null.
-/

namespace Hindsight

/-- The name of a scope in a syntax tree. -/
def EntityScope.tag : EntityScope → String
  | observation => "Observation"
  | event => "Event"

/-- The scope of that name. -/
def EntityScope.ofTag? : String → Option EntityScope
  | "Observation" => some observation
  | "Event" => some event
  | _ => none

/-- A scope is read back from its name. -/
theorem EntityScope.ofTag?_tag (s : EntityScope) : ofTag? s.tag = some s := by cases s <;> rfl

/-- The name of a field in a syntax tree. -/
def EventField.tag : EventField → String
  | type => "Type"
  | time => "Time"
  | id => "Id"

/-- The field of that name. -/
def EventField.ofTag? : String → Option EventField
  | "Type" => some type
  | "Time" => some time
  | "Id" => some id
  | _ => none

/-- A field is read back from its name. -/
theorem EventField.ofTag?_tag (f : EventField) : ofTag? f.tag = some f := by cases f <;> rfl

/-- The name of an extreme. -/
def Extreme.name : Extreme → String
  | min => "min"
  | max => "max"

/-- The extreme of that name. -/
def Extreme.ofName? : String → Option Extreme
  | "min" => some min
  | "max" => some max
  | _ => none

/-- An extreme is read back from its name. -/
theorem Extreme.ofName?_name (x : Extreme) : ofName? x.name = some x := by cases x <;> rfl

namespace Expr

mutual

/-- The JSON tree of an expression. -/
def toJson : Expr → Json
  | literal v => Json.tagged "Literal" v.toJson
  | attr path => Json.tagged "Attribute" (.string path)
  | sourceAttr path => Json.tagged "SourceAttribute" (.string path)
  | field f => Json.tagged "EventField" (.string f.tag)
  | entity scope entityType =>
    Json.tagged "EntityRef"
      (.object [("scope", .string scope.tag), ("entity_type", .string entityType)])
  | observationTime => .string "ObservationDate"
  | wildcard => .string "Wildcard"
  | list items => Json.tagged "List" (.array (itemsToJson items))
  | unary op operand =>
    Json.tagged "Unary" (.object [("op", .string op.tag), ("operand", toJson operand)])
  | binary left op right =>
    Json.tagged "Binary"
      (.object [("left", toJson left), ("op", .string op.tag), ("right", toJson right)])
  | call name args =>
    Json.tagged "FunctionCall"
      (.object [("name", .string name), ("args", .array (itemsToJson args))])
  | aggregate function argument parameter window filter selection =>
    Json.tagged "Aggregate"
      (.object ([("function", .string function), ("argument", toJson argument),
        ("parameter", optionToJson parameter), ("window", window.toJson),
        ("filter", optionToJson filter)] ++ selectionToJson selection))

/-- The JSON trees of expressions. -/
def itemsToJson : List Expr → List Json
  | [] => []
  | e :: rest => toJson e :: itemsToJson rest

/-- The JSON tree of an optional expression. -/
def optionToJson : Option Expr → Json
  | none => .null
  | some e => toJson e

/-- The two members of an aggregate for its selection. -/
def selectionToJson : Selection → List (String × Json)
  | .all => [("group_by", .null), ("having", .null)]
  | .groupBy key => [("group_by", toJson key), ("having", .null)]
  | .having extreme rank =>
    [("group_by", .null),
     ("having", .object [("kind", .string extreme.name), ("expr", toJson rank)])]

end

end Expr

end Hindsight
