import Hindsight.Event.Schema
import Hindsight.Store.Timeline

/-!
# The event index

The index stores events and keeps, beside the store itself, a timeline of all events, timelines
for each entity, overall and by event type, the events by id, the known entities and the schema.
An event comes in as a whole or not at all: it is refused if its id is taken, and, where the index
validates, if it conflicts with the schema.

`insert_arena` says what an accepted event adds to the store.
-/

namespace Hindsight

open Time (Bounds)

/-- The events of one entity, all of them and those of each type. -/
structure EntityTimelines where
  all : Timeline
  byType : Dict String Timeline

namespace EntityTimelines

/-- The timelines without events. -/
def empty : EntityTimelines := ⟨[], .empty⟩

/-- The timelines with one more event. -/
def insert (x : StoredEvent) (t : EntityTimelines) : EntityTimelines :=
  { all := Timeline.insert x t.all
    byType := t.byType.update x.event.type [] (Timeline.insert x) }

/-- The timeline of one event type, or of all. -/
def timeline (t : EntityTimelines) : Option String → Timeline
  | none => t.all
  | some type => (t.byType.get? type).getD []

end EntityTimelines

/-- Stored events with what is needed to find them. -/
structure EventIndex where
  /-- The events in the order in which they were stored. -/
  arena : Array Event
  /-- The timelines of each entity by entity type and id. -/
  series : Dict String (Dict String EntityTimelines)
  /-- All events. -/
  timeline : Timeline
  /-- The events that have an id. -/
  byId : Dict String StoredEvent
  /-- The ids of the known entities of each type. -/
  catalogue : Dict String NameSet
  schema : Schema
  /-- Whether an event that conflicts with the schema is refused. -/
  validates : Bool

namespace EventIndex

/-- The index without events. -/
def empty (validates : Bool) : EventIndex :=
  ⟨#[], .empty, [], .empty, .empty, .empty, validates⟩

/-- Record the kind of an attribute before any event has it. -/
def declare (x : EventIndex) (eventType attr : String) (k : ValueKind) : EventIndex :=
  { x with schema := x.schema.declare eventType attr k }

/-- List an event with the timelines of one of its entities. -/
def insertSeries (x : StoredEvent) (series : Dict String (Dict String EntityTimelines))
    (entity : String × String) : Dict String (Dict String EntityTimelines) :=
  series.update entity.1 .empty fun ids => ids.update entity.2 .empty (EntityTimelines.insert x)

/-- List an entity. -/
def insertEntity (catalogue : Dict String NameSet) (entity : String × String) :
    Dict String NameSet :=
  catalogue.update entity.1 .empty fun ids => ids.insert entity.2

/-- The schema after an event, or the reason to refuse it. -/
def schemaAfter (x : EventIndex) (e : Event) : Except EventError Schema :=
  match x.schema.observe e with
  | .ok s => .ok s
  | .error fault => if x.validates then .error fault else .ok x.schema

/-- The index with an event that nothing speaks against. -/
def place (x : EventIndex) (e : Event) (schema : Schema) : EventIndex :=
  let stored : StoredEvent := ⟨x.arena.size, e⟩
  { x with
    arena := x.arena.push e
    series := e.entities.entries.foldl (insertSeries stored) x.series
    timeline := x.timeline.insert stored
    byId := match e.id with
      | some id => x.byId.insert id stored
      | none => x.byId
    catalogue := e.entities.entries.foldl insertEntity x.catalogue
    schema }

/-- Whether the id of an event belongs to a stored event. -/
def takenId? (x : EventIndex) (e : Event) : Option String :=
  e.id.filter x.byId.contains

/-- Store an event, whose number is the size of the arena before. -/
def insert (x : EventIndex) (e : Event) : Except EventError EventIndex :=
  match x.takenId? e with
  | some id => .error (.invalidEvent (.duplicateId id))
  | none => (x.schemaAfter e).map (x.place e)

/-- Store events up to the first that is refused. The index holds those before it in either case;
the result counts the events or says why one was refused. -/
def insertMany (x : EventIndex) : List Event → Except EventError Nat × EventIndex
  | [] => (.ok 0, x)
  | e :: rest =>
    match x.insert e with
    | .error fault => (.error fault, x)
    | .ok x =>
      let (counted, x) := x.insertMany rest
      (counted.map (· + 1), x)

/-- The timelines of an entity. -/
def entity (x : EventIndex) (type id : String) : EntityTimelines :=
  (((x.series.get? type).bind fun ids => ids.get? id)).getD .empty

/-- The events of an entity between bounds, of one event type or of all. -/
def range (x : EventIndex) (type id : String) (eventType : Option String) (b : Bounds) : Timeline :=
  ((x.entity type id).timeline eventType).slice b

/-- The events of an entity. -/
def entityEvents (x : EventIndex) (type id : String) : Timeline := x.range type id none .all

/-- The event of an id. -/
def find? (x : EventIndex) (id : String) : Option Event := (x.byId.get? id).map (·.event)

/-- The known ids of an entity type. -/
def entityIds (x : EventIndex) (type : String) : List String :=
  ((x.catalogue.get? type).getD .empty).toList

/-- Whether an entity of this type is known. -/
def knowsEntityType (x : EventIndex) (type : String) : Bool := x.catalogue.contains type

/-- The number of stored events. -/
def size (x : EventIndex) : Nat := x.arena.size

/-- **An event that is accepted is placed**, with the schema that has observed it. -/
theorem insert_eq_ok {x y : EventIndex} {e : Event} (h : x.insert e = .ok y) :
    ∃ s, x.schemaAfter e = .ok s ∧ y = x.place e s := by
  unfold insert at h
  split at h
  · cases h
  · cases hs : x.schemaAfter e with
    | error fault => rw [hs] at h; cases h
    | ok s => rw [hs] at h; cases h; exact ⟨s, rfl, rfl⟩

/-- **An accepted event goes behind the stored ones.** -/
theorem insert_arena {x y : EventIndex} {e : Event} (h : x.insert e = .ok y) :
    y.arena = x.arena.push e := by
  obtain ⟨s, _, rfl⟩ := insert_eq_ok h
  rfl

end EventIndex

end Hindsight
