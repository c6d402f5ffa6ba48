import Hindsight.Event.Basic

/-!
# Points of observation

A point of observation asks for the features of one entity as they are known at an instant. It may
come from an event, and its context says which entities of other types belong to it. The context
always holds the entity itself.
-/

namespace Hindsight

open Time (Instant)

/-- An entity at an instant. -/
structure ObservationPoint where
  entityType : String
  entityId : String
  instant : Instant
  /-- The id of the event that the point was taken from. -/
  eventId : Option String
  context : Entities
deriving DecidableEq

namespace ObservationPoint

/-- The point of an entity at an instant, with no event and no context but the entity. -/
def create (entityType entityId : String) (t : Instant) : ObservationPoint :=
  ⟨entityType, entityId, t, none, (Dict.empty : Entities).insert entityType entityId⟩

/-- The point with an event. -/
def withEventId (p : ObservationPoint) (id : String) : ObservationPoint :=
  { p with eventId := some id }

/-- The point with one more entity in its context, which never replaces its own. -/
def withEntity (p : ObservationPoint) (entityType entityId : String) : ObservationPoint :=
  if entityType = p.entityType then p
  else { p with context := p.context.insert entityType entityId }

/-- The point with the entities of an event in its context. -/
def withEntities (p : ObservationPoint) (es : Entities) : ObservationPoint :=
  es.entries.foldl (fun p e => p.withEntity e.1 e.2) p

end ObservationPoint

end Hindsight
