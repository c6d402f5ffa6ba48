import Hindsight.Json.Decode
import Hindsight.Observation.Point

/-!
# Points of observation as JSON

A point is an object with its entity, its instant, its context and perhaps its event.
-/

namespace Hindsight
namespace ObservationPoint

/-- The JSON tree of a point; an event that is not set is left out. -/
def toJson (p : ObservationPoint) : Json :=
  .object (
    [("entity_type", .string p.entityType), ("entity_id", .string p.entityId),
     ("instant", .string p.instant.text)] ++
    (p.eventId.map fun id => ("event_id", Json.string id)).toList ++
    [("context", .object (p.context.map Json.string).entries)])

/-- A point while it is decoded. -/
structure Partial where
  entityType : Option String := none
  entityId : Option String := none
  instant : Option Time.Instant := none
  eventId : Option (Option String) := none
  context : Option Entities := none

/-- How a point is decoded. -/
def shape : Json.RecordShape Partial where
  names := ["entity_type", "entity_id", "instant", "event_id", "context"]
  step p name j :=
    match name with
    | "entity_type" => return { p with entityType := ← Json.once p.entityType Json.decodeString j }
    | "entity_id" => return { p with entityId := ← Json.once p.entityId Json.decodeString j }
    | "instant" => return { p with instant := ← Json.once p.instant Json.decodeInstant j }
    | "event_id" =>
      return { p with eventId := ← Json.once p.eventId (Json.decodeOption Json.decodeString) j }
    | "context" =>
      return { p with context := ← Json.once p.context (Json.decodeDict Json.decodeString) j }
    | _ => return p

/-- Decode a point. -/
def decode (j : Json) : Json.Decoded ObservationPoint := do
  let (p, absent) ← Json.decodeMembers shape {} j
  let entityType ← Json.required absent "entity_type" p.entityType
  let entityId ← Json.required absent "entity_id" p.entityId
  let instant ← Json.required absent "instant" p.instant
  let context ← Json.required absent "context" p.context
  return ⟨entityType, entityId, instant, p.eventId.getD none, context⟩

end ObservationPoint
end Hindsight
