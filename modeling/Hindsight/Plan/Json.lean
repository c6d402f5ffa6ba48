import Hindsight.Expr.Json
import Hindsight.Plan.Formula

/-!
# Plans as JSON

Every node of a formula is an object with the name of the node, or the bare name if the node holds
nothing. Literals are plain JSON, so an instant among them is read back as a text. Optional parts
of an aggregate may be null or absent, but not in an array that stands for an aggregate.
-/

namespace Hindsight

open Time (Window)

namespace AggregateFunction

/-- The JSON tree of a function. -/
def toJson : AggregateFunction → Json
  | nth n => Json.tagged "nth" (.int n)
  | f => .string f.tag

/-- Decode a function. -/
def decode (j : Json) : Json.Decoded AggregateFunction := do
  let v ← Json.decodeSoleVariant j
  if v.name = "nth" then v.holding fun j => do return .nth (← Json.decodeInt j)
  else
    match ofTag? v.name with
    | some f => v.unit f
    | none => throw .mismatch

end AggregateFunction

/-- Decode a variant that holds nothing, by its name. -/
def decodeNamed {α : Type} (ofName? : String → Option α) (j : Json) : Json.Decoded α := do
  let v ← Json.decodeSoleVariant j
  match ofName? v.name with
  | some a => v.unit a
  | none => throw .mismatch

namespace Formula

mutual

/-- The JSON tree of a formula. -/
def toJson : Formula → Json
  | literal v => Json.tagged "Literal" v.toJson
  | attr path => Json.tagged "Attribute" (.string path)
  | sourceAttr path => Json.tagged "SourceAttribute" (.string path)
  | field f => Json.tagged "EventField" (.string f.tag)
  | entity scope entityType =>
    Json.tagged "EntityRef"
      (.object [("scope", .string scope.tag), ("entity_type", .string entityType)])
  | observationTime => .string "ObservationDate"
  | wildcard => .string "Wildcard"
  | list items => Json.tagged "List" (.array (itemsToJson items))
  | unary op operand =>
    Json.tagged "Unary" (.object [("op", .string op.tag), ("operand", toJson operand)])
  | binary left op right =>
    Json.tagged "Binary"
      (.object [("left", toJson left), ("op", .string op.tag), ("right", toJson right)])
  | call f args =>
    Json.tagged "Function"
      (.object [("function", .string f.name), ("args", .array (itemsToJson args))])
  | slot n => Json.tagged "Aggregate" (.int n)

/-- The JSON trees of formulas. -/
def itemsToJson : List Formula → List Json
  | [] => []
  | f :: rest => toJson f :: itemsToJson rest

end

/-- How a reference to an entity is decoded. -/
def entityShape : Json.RecordShape (Option EntityScope × Option String) where
  names := ["scope", "entity_type"]
  step s name j :=
    match name with
    | "scope" => return (← Json.once s.1 (decodeNamed EntityScope.ofTag?) j, s.2)
    | "entity_type" => return (s.1, ← Json.once s.2 Json.decodeString j)
    | _ => return s

/-- Decode a reference to an entity. -/
def decodeEntity (j : Json) : Json.Decoded Formula := do
  let (s, absent) ← Json.decodeMembers entityShape (none, none) j
  return .entity (← Json.required absent "scope" s.1) (← Json.required absent "entity_type" s.2)

/-- How an operation on one operand is decoded. -/
def unaryShape (self : Json → Json.Decoded Formula) :
    Json.RecordShape (Option UnaryOperator × Option Formula) where
  names := ["op", "operand"]
  step s name j :=
    match name with
    | "op" => return (← Json.once s.1 (decodeNamed UnaryOperator.ofTag?) j, s.2)
    | "operand" => return (s.1, ← Json.once s.2 self j)
    | _ => return s

/-- Decode an operation on one operand. -/
def decodeUnary (self : Json → Json.Decoded Formula) (j : Json) : Json.Decoded Formula := do
  let (s, absent) ← Json.decodeMembers (unaryShape self) (none, none) j
  return .unary (← Json.required absent "op" s.1) (← Json.required absent "operand" s.2)

/-- The parts of an operation on two operands. -/
structure BinaryParts where
  left : Option Formula
  op : Option Operator
  right : Option Formula

/-- How an operation on two operands is decoded. -/
def binaryShape (self : Json → Json.Decoded Formula) : Json.RecordShape BinaryParts where
  names := ["left", "op", "right"]
  step s name j :=
    match name with
    | "left" => return { s with left := ← Json.once s.left self j }
    | "op" => return { s with op := ← Json.once s.op (decodeNamed Operator.ofTag?) j }
    | "right" => return { s with right := ← Json.once s.right self j }
    | _ => return s

/-- Decode an operation on two operands. -/
def decodeBinary (self : Json → Json.Decoded Formula) (j : Json) : Json.Decoded Formula := do
  let (s, absent) ← Json.decodeMembers (binaryShape self) ⟨none, none, none⟩ j
  let left ← Json.required absent "left" s.left
  let op ← Json.required absent "op" s.op
  return .binary left op (← Json.required absent "right" s.right)

/-- How a call is decoded. -/
def callShape (self : Json → Json.Decoded Formula) :
    Json.RecordShape (Option ScalarFunction × Option (List Formula)) where
  names := ["function", "args"]
  step s name j :=
    match name with
    | "function" => return (← Json.once s.1 (decodeNamed ScalarFunction.ofTag?) j, s.2)
    | "args" => return (s.1, ← Json.once s.2 (Json.decodeList self) j)
    | _ => return s

/-- Decode a call. -/
def decodeCall (self : Json → Json.Decoded Formula) (j : Json) : Json.Decoded Formula := do
  let (s, absent) ← Json.decodeMembers (callShape self) (none, none) j
  return .call (← Json.required absent "function" s.1) (← Json.required absent "args" s.2)

/-- Decode a node whose parts are decoded by `self`. -/
def decodeNode (self : Json → Json.Decoded Formula) (j : Json) : Json.Decoded Formula := do
  let v ← Json.decodeSoleVariant j
  match v.name with
  | "Literal" => v.holding fun j => do return .literal (Value.ofJson (← Json.decodeAny j))
  | "Attribute" => v.holding fun j => do return .attr (← Json.decodeString j)
  | "SourceAttribute" => v.holding fun j => do return .sourceAttr (← Json.decodeString j)
  | "EventField" => v.holding fun j => do return .field (← decodeNamed EventField.ofTag? j)
  | "EntityRef" => v.holdingMembers decodeEntity
  | "ObservationDate" => v.unit .observationTime
  | "Wildcard" => v.unit .wildcard
  | "List" => v.holding fun j => do return .list (← Json.decodeList self j)
  | "Unary" => v.holdingMembers (decodeUnary self)
  | "Binary" => v.holdingMembers (decodeBinary self)
  | "Function" => v.holdingMembers (decodeCall self)
  | "Aggregate" => v.holding fun j => do return .slot (← Json.decodeNat j)
  | _ => throw .mismatch

/-- Decode a formula whose tree is nested at most `n` deep. -/
def decodeWithin : Nat → Json → Json.Decoded Formula
  | 0 => fun _ => throw .mismatch
  | n + 1 => decodeNode (decodeWithin n)

/-- Decode a formula. -/
def decode (j : Json) : Json.Decoded Formula := decodeWithin j.depth j

end Formula

namespace Ranking

/-- The JSON tree of a ranking. -/
def toJson (r : Ranking) : Json :=
  .object [("kind", .string r.extreme.name), ("expr", r.rank.toJson)]

/-- How a ranking is decoded. -/
def shape : Json.RecordShape (Option Extreme × Option Formula) where
  names := ["kind", "expr"]
  step s name j :=
    match name with
    | "kind" => return (← Json.once s.1 (decodeNamed Extreme.ofName?) j, s.2)
    | "expr" => return (s.1, ← Json.once s.2 Formula.decode j)
    | _ => return s

/-- Decode a ranking. -/
def decode (j : Json) : Json.Decoded Ranking := do
  let (s, absent) ← Json.decodeMembers shape (none, none) j
  return ⟨← Json.required absent "kind" s.1, ← Json.required absent "expr" s.2⟩

end Ranking

/-- The JSON tree of a set of names. -/
def NameSet.toJson (s : NameSet) : Json := .array (s.toList.map .string)

/-- Decode a set of names. -/
def NameSet.decode (j : Json) : Json.Decoded NameSet := do
  return .ofList (← Json.decodeList Json.decodeString j)

namespace Aggregate

/-- The JSON members of an aggregate. -/
def members (a : Aggregate) : List (String × Json) :=
  [("function", a.function.toJson), ("argument", a.argument.toJson),
   ("window", a.window.toJson), ("filter", Json.ofOption (a.filter.map Formula.toJson)),
   ("group_by", Json.ofOption (a.groupBy.map Formula.toJson)),
   ("having", Json.ofOption (a.having.map Ranking.toJson)),
   ("event_types", Json.ofOption (a.eventTypes.map NameSet.toJson))]

/-- The JSON tree of an aggregate. -/
def toJson (a : Aggregate) : Json := .object a.members

/-- The parts of an aggregate while they are decoded. -/
structure Parts where
  function : Option AggregateFunction
  argument : Option Formula
  window : Option Window
  filter : Option (Option Formula)
  groupBy : Option (Option Formula)
  having : Option (Option Ranking)
  eventTypes : Option (Option NameSet)

/-- How an aggregate is decoded. -/
def shape : Json.RecordShape Parts where
  names := ["function", "argument", "window", "filter", "group_by", "having", "event_types"]
  least := 7
  step s name j :=
    match name with
    | "function" => return { s with function := ← Json.once s.function AggregateFunction.decode j }
    | "argument" => return { s with argument := ← Json.once s.argument Formula.decode j }
    | "window" => return { s with window := ← Json.once s.window Window.decode j }
    | "filter" =>
      return { s with filter := ← Json.once s.filter (Json.decodeOption Formula.decode) j }
    | "group_by" =>
      return { s with groupBy := ← Json.once s.groupBy (Json.decodeOption Formula.decode) j }
    | "having" =>
      return { s with having := ← Json.once s.having (Json.decodeOption Ranking.decode) j }
    | "event_types" =>
      return { s with
        eventTypes := ← Json.once s.eventTypes (Json.decodeOption NameSet.decode) j }
    | _ => return s

/-- Decode an aggregate. -/
def decode (j : Json) : Json.Decoded Aggregate := do
  let (s, absent) ← Json.decodeMembers shape ⟨none, none, none, none, none, none, none⟩ j
  let function ← Json.required absent "function" s.function
  let argument ← Json.required absent "argument" s.argument
  let window ← Json.required absent "window" s.window
  return ⟨function, argument, window, s.filter.join, s.groupBy.join, s.having.join,
    s.eventTypes.join⟩

end Aggregate

namespace Feature

/-- The parts of a feature while they are decoded. -/
structure Parts where
  name : Option String
  raw : Option String
  formula : Option Formula
  aggregates : Option (List Aggregate)

/-- How a feature is decoded. -/
def shape : Json.RecordShape Parts where
  names := ["name", "raw", "expr", "aggregates"]
  step s name j :=
    match name with
    | "name" => return { s with name := ← Json.once s.name Json.decodeString j }
    | "raw" => return { s with raw := ← Json.once s.raw Json.decodeString j }
    | "expr" => return { s with formula := ← Json.once s.formula Formula.decode j }
    | "aggregates" =>
      return { s with
        aggregates := ← Json.once s.aggregates (Json.decodeList Aggregate.decode) j }
    | _ => return s

/-- Decode a feature. -/
def decode (j : Json) : Json.Decoded Feature := do
  let (s, absent) ← Json.decodeMembers shape ⟨none, none, none, none⟩ j
  let name ← Json.required absent "name" s.name
  let raw ← Json.required absent "raw" s.raw
  let formula ← Json.required absent "expr" s.formula
  return ⟨name, raw, formula, ← Json.required absent "aggregates" s.aggregates⟩

end Feature

namespace FeatureSet

/-- How the features of a query are decoded. -/
def shape : Json.RecordShape (Option (List Feature)) where
  names := ["features"]
  step s name j :=
    match name with
    | "features" => Json.once s (Json.decodeList Feature.decode) j
    | _ => return s

/-- Decode the features of a query. -/
def decode (j : Json) : Json.Decoded FeatureSet := do
  let (s, absent) ← Json.decodeMembers shape none j
  return ⟨← Json.required absent "features" s⟩

end FeatureSet

end Hindsight
