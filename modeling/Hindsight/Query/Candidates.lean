import Hindsight.Observation.Point
import Hindsight.Query.Options
import Hindsight.Store.Index

/-!
# Candidates

The points of a query that share their entity and their context form a group. The candidates of a
group are the events that count at its points: those of the scope that the query sees, in the order
of the timeline and each once.
-/

namespace Hindsight

/-- What the points of a group share. -/
structure PointGroup where
  entityType : String
  entityId : String
  context : Entities
deriving DecidableEq

namespace PointGroup

/-- The group of a point. -/
def of (p : ObservationPoint) : PointGroup := ⟨p.entityType, p.entityId, p.context⟩

/-- The order of groups: by entity and context. -/
def order (g h : PointGroup) : Ordering :=
  (compare g.entityType h.entityType).then <|
  (compare g.entityId h.entityId).then <|
  Entities.order g.context h.context

/-- The entities of some types in the context, apart from the own one. -/
def related (g : PointGroup) (types : List String) : List (String × String) :=
  g.context.entries.filter fun e => e.1 ≠ g.entityType && types.contains e.1

end PointGroup

namespace EventScope

/-- The events of a scope for a group. -/
def events (s : EventScope) (x : EventIndex) (g : PointGroup) : Timeline :=
  match s with
  | allEvents => x.timeline
  | related types =>
    (g.related types).foldl (fun t e => t.union (x.entityEvents e.1 e.2))
      (x.entityEvents g.entityType g.entityId)

/-- The candidates of a group: the events of the scope that a query under an experiment sees. -/
def candidates (s : EventScope) (x : EventIndex) (g : PointGroup) (experiment : Option String) :
    Timeline :=
  (s.events x g).filter fun e => e.event.visibleIn experiment

/-- An entity type of a scope of which the index knows no entity. -/
def unknownType? (s : EventScope) (x : EventIndex) : Option String :=
  match s with
  | allEvents => none
  | related types => types.find? fun t => !x.knowsEntityType t

end EventScope
end Hindsight
