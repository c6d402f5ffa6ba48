import Hindsight.Eval.Formula
import Hindsight.Observation.Sampling
import Hindsight.Plan.Binding
import Hindsight.Plan.Compile
import Hindsight.Plan.Error
import Hindsight.Store.Index

/-!
# Sampling an index

A sampling is followed over the events of an index that a query sees. Points taken from events
carry the id of the event and its entities as context, and so do listed dates that name an event
of the index. Rules that leave the order open give the points in order; of equal points the first
is kept. A rule that cannot be followed is at fault.
-/

namespace Hindsight

open Time (Instant TimeUnit)

/-- What is wrong with a sampling. -/
inductive SamplingFault where
  | shortStep (count : Int)
  | longStep (count : Int) (unit : TimeUnit)
  | unknownType (entityType : String)
  | condition (error : CompileError)
deriving DecidableEq, Repr

/-- What is wrong, in words. -/
def SamplingFault.text : SamplingFault → String
  | shortStep n => "Interval step must be at least 1, got " ++ toString n
  | longStep n unit => "Interval of " ++ toString n ++ " " ++ unit.name ++ "s overflows"
  | unknownType t => "Unknown entity type '" ++ t ++ "'"
  | condition e => "Invalid condition: " ++ e.message

namespace ObservationPoint

/-- The order of points: by entity, instant, event and context. -/
def order (p q : ObservationPoint) : Ordering :=
  (compare p.entityType q.entityType).then <|
  (compare p.entityId q.entityId).then <|
  (compare p.instant q.instant).then <|
  (compare p.eventId q.eventId).then <|
  Entities.order p.context q.context

/-- The point of an event for one of its entities. -/
def ofEvent (e : Event) (entityType entityId : String) : ObservationPoint :=
  ({ create entityType entityId e.time with eventId := e.id }).withEntities e.entities

end ObservationPoint

/-- What a query sees of an index: its events, unless they belong to another experiment. -/
structure IndexView where
  index : EventIndex
  experiment : Option String

namespace IndexView

/-- Those of some stored events that are seen. -/
def visible (v : IndexView) (t : Timeline) : Timeline :=
  t.filter fun x => x.event.visibleIn v.experiment

/-- All events that are seen. -/
def timeline (v : IndexView) : List Event := (v.visible v.index.timeline).map (·.event)

/-- The events of an entity that are seen. -/
def entityEvents (v : IndexView) (type id : String) : List Event :=
  (v.visible (v.index.entityEvents type id)).map (·.event)

/-- The event of an id, if it is seen. -/
def find? (v : IndexView) (id : String) : Option Event :=
  (v.index.find? id).filter fun e => e.visibleIn v.experiment

/-- The point at a date for an entity. The entities of the event of the date join the context. -/
def dated (v : IndexView) (entityType entityId : String) (d : EventDate) : ObservationPoint :=
  let p := { ObservationPoint.create entityType entityId d.instant with eventId := d.eventId }
  match d.eventId.bind v.find? with
  | some e => p.withEntities e.entities
  | none => p

end IndexView

namespace EvenSteps

/-- The instants from `t` on in steps of some milliseconds that lie before `stop`. -/
def instants (ms : Int) (positive : 0 < ms) (stop t : Instant) : List Instant :=
  if _ : t < stop then
    match _ : t.addMillis ms with
    | some u => t :: instants ms positive stop u
    | none => [t]
  else []
termination_by (stop.key - t.key).toNat
decreasing_by
  have later : t.key < u.key := Instant.lt_of_addMillis positive ‹_›
  have before : t.key < stop.key := ‹t < stop›
  omega

/-- The instants for a history: steps from a millisecond before its first event, then a
millisecond after its last. A millisecond that leads out of range is left out. -/
def history (step : Option { ms : Int // 0 < ms }) (first last : Instant) : List Instant :=
  let start := (first.addMillis (-1)).getD first
  let stop := (last.addMillis 1).getD last
  let stepped := match step with
    | some ms => instants ms.1 ms.2 stop start
    | none => []
  stepped ++ [stop]

/-- The length of a step, if there is one. -/
def step (s : EvenSteps) : Except SamplingFault (Option { ms : Int // 0 < ms }) :=
  match s.unit with
  | none => .ok none
  | some unit =>
    match unit.length? s.count with
    | none => .error (.longStep s.count unit)
    | some ms =>
      if positive : 0 < ms then .ok (some ⟨ms, positive⟩) else .error (.shortStep s.count)

/-- The points of one entity. -/
def ofEntity (v : IndexView) (step : Option { ms : Int // 0 < ms }) (type id : String) :
    List ObservationPoint :=
  match v.entityEvents type id with
  | [] => []
  | first :: rest =>
    (history step first.time ((rest.getLast?).getD first).time).map
      (ObservationPoint.create type id)

/-- The points of a rule. -/
def sample (s : EvenSteps) (v : IndexView) : Except SamplingFault (List ObservationPoint) := do
  let step ← s.step
  return s.entityTypes.flatMap fun type =>
    (v.index.entityIds type).flatMap fun id => ofEntity v step type id

end EvenSteps

/-- The points of a rule. -/
def FixedDates.sample (f : FixedDates) (v : IndexView) : List ObservationPoint :=
  f.entityTypes.flatMap fun type =>
    let ids := (v.index.entityIds type).filter fun id =>
      match f.entityIds with
      | some wanted => wanted.contains id
      | none => true
    ids.flatMap fun id => f.dates.map (ObservationPoint.create type id)

/-- The points of an entity. -/
def EntityDates.sample (d : EntityDates) (v : IndexView) : List ObservationPoint :=
  d.dates.map (v.dated d.entityType d.entityId)

/-- The points of a rule. -/
def ScopedDates.sample (s : ScopedDates) (v : IndexView) : List ObservationPoint :=
  s.dates.entries.flatMap fun d => d.2.map fun date =>
    date.scope.foldl (fun p e => p.withEntity e.1 e.2) (v.dated s.entityType d.1 date.date)

/-- The points of an event for those of its entities that have one of some types. -/
def Event.pointsOf (e : Event) (types : List String) : List ObservationPoint :=
  types.filterMap fun type =>
    (e.entities.get? type).map fun id => ObservationPoint.ofEvent e type id

/-- The point of an event for its first entity. -/
def Event.firstPoint? (e : Event) : Option ObservationPoint :=
  e.entities.entries.head?.map fun entity => ObservationPoint.ofEvent e entity.1 entity.2

namespace MatchingEvents

/-- The points of the events that satisfy a condition. An event of a type that the condition does
not pin, and one on which the condition cannot be evaluated, gives none. -/
def select (types : List String) (c : Condition) (b : Binder) :
    List Event → Except SamplingFault (List ObservationPoint)
  | [] => .ok []
  | e :: rest =>
    let points := e.pointsOf types
    if points.isEmpty then select types c b rest
    else
      match b.bindCondition c e.type with
      | (.error fault, _) => .error (.condition fault)
      | (.ok false, b) => select types c b rest
      | (.ok true, b) =>
        match c.formula.holds (.ofEvent e) with
        | .ok true => (select types c b rest).map (points ++ ·)
        | _ => select types c b rest

/-- The points of a rule. -/
def sample (m : MatchingEvents) (v : IndexView) : Except SamplingFault (List ObservationPoint) := do
  let c ← (Condition.compile true m.condition).mapError .condition
  select m.entityTypes c (.ofSchema v.index.schema) v.timeline

end MatchingEvents

namespace Sampling

/-- The step of a rule is positive and the entity types it names are known. -/
def check (s : Sampling) (x : EventIndex) : Except SamplingFault Unit := do
  match s with
  | even steps => if steps.count < 1 then throw (.shortStep steps.count)
  | _ => pure ()
  match s.namedTypes.find? fun t => !x.knowsEntityType t with
  | some t => throw (.unknownType t)
  | none => return ()

/-- The points of a rule as they come. -/
def candidates (s : Sampling) (v : IndexView) : Except SamplingFault (List ObservationPoint) :=
  match s with
  | even steps => steps.sample v
  | fixed dates => .ok (dates.sample v)
  | listed entities => .ok (entities.flatMap fun d => d.sample v)
  | allEvents => .ok (v.timeline.filterMap Event.firstPoint?)
  | allEventsOf types => .ok (v.timeline.flatMap fun e => e.pointsOf types)
  | matching events => events.sample v
  | withScopes dates => .ok (dates.sample v)

/-- The points of a rule, each once. -/
def points (s : Sampling) (v : IndexView) : Except SamplingFault (List ObservationPoint) := do
  s.check v.index
  let points ← s.candidates v
  let ordered := if s.isOrdered then points.mergeSort fun p q => (p.order q).isLE else points
  return ordered.eraseDups

end Sampling

end Hindsight
