import Hindsight.Event.Schema
import Hindsight.Json.Decode

/-!
# Schemas as JSON

A schema is an object of event types, each an object of attributes with the names of their kinds.
-/

namespace Hindsight

/-- The kind of a JSON name. -/
def ValueKind.decode (j : Json) : Json.Decoded ValueKind := do
  let v ← Json.decodeVariant j
  match ValueKind.ofName? v.name with
  | some k => v.unit k
  | none => throw .mismatch

/-- The JSON tree of the attributes of one event type. -/
def EventSchema.toJson (s : EventSchema) : Json :=
  .object (s.map fun k => Json.string k.name).entries

namespace Schema

/-- The JSON tree of a schema. -/
def toJson (s : Schema) : Json := .object (s.map EventSchema.toJson).entries

/-- Decode a schema. -/
def decode : Json → Json.Decoded Schema := Json.decodeDict (Json.decodeDict ValueKind.decode)

end Schema
end Hindsight
