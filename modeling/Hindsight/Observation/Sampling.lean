import Hindsight.Event.Basic
import Hindsight.Time.Unit

/-!
# Samplings

A sampling is a rule for the points of observation of a query: evenly spaced points over the
history of each entity, the same dates for all entities of some types, dates listed entity by
entity, or points taken from events.
-/

namespace Hindsight

open Time (Instant TimeUnit)

/-- Points at even steps from the first to the last event of each entity. -/
structure EvenSteps where
  entityTypes : List String
  /-- The unit of a step; without one there is a single point behind the last event. -/
  unit : Option TimeUnit
  /-- The number of units in a step. -/
  count : Int
deriving DecidableEq

/-- The same dates for every known entity of some types, or for those of them that are listed. -/
structure FixedDates where
  entityTypes : List String
  dates : List Instant
  entityIds : Option (List String)
deriving DecidableEq

/-- A date, perhaps with the event that it was taken from. -/
structure EventDate where
  instant : Instant
  eventId : Option String
deriving DecidableEq

/-- Dates for one entity. -/
structure EntityDates where
  entityType : String
  entityId : String
  dates : List EventDate
deriving DecidableEq

/-- The entities of some types in the events that satisfy a condition. -/
structure MatchingEvents where
  condition : String
  entityTypes : List String
deriving DecidableEq

/-- A date with entities that join the context, as pairs of type and id. -/
structure ScopedDate where
  date : EventDate
  scope : List (String × String)
deriving DecidableEq

/-- Scoped dates for each id of one entity type. -/
structure ScopedDates where
  entityType : String
  dates : Dict String (List ScopedDate)
deriving DecidableEq

/-- A rule for points of observation. -/
inductive Sampling where
  | even (steps : EvenSteps)
  | fixed (dates : FixedDates)
  | listed (entities : List EntityDates)
  /-- One point for each event, of the first entity of the event. -/
  | allEvents
  /-- One point for each event and each of these types of which the event has an entity. -/
  | allEventsOf (entityTypes : List String)
  | matching (events : MatchingEvents)
  | withScopes (dates : ScopedDates)
deriving DecidableEq

namespace Sampling

/-- Whether the points come out in order instead of as they are listed. -/
def isOrdered : Sampling → Bool
  | listed _ | withScopes _ => false
  | _ => true

/-- The entity types that a rule names. -/
def namedTypes : Sampling → List String
  | even s => s.entityTypes
  | fixed f => f.entityTypes
  | listed es => es.map EntityDates.entityType
  | allEvents => []
  | allEventsOf ts => ts
  | matching m => m.entityTypes
  | withScopes s => [s.entityType]

end Sampling
end Hindsight
