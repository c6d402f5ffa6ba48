import Hindsight.Dict
import Hindsight.Text.Basic
import Hindsight.Value.Basic

/-!
# Events

An event is a record with a type, an instant, the entities it is about and attributes. It may have
an id and may belong to an experiment, to whose queries alone it is then visible. A record may be
no event, and an event, or the text of an instant, may be refused.
-/

namespace Hindsight

open Time (Instant)

/-- Why a record is no event. -/
inductive EventFault where
  | blankType
  | noEntity (eventType : String)
  | entityId (entityType given : String)
  | eventId (given : String)
  | duplicateId (id : String)
deriving DecidableEq, Repr

/-- What is wrong with an event as a sentence. -/
def EventFault.message : EventFault → String
  | blankType => "event_type must not be empty"
  | noEntity t => "event of type '" ++ t ++ "' must reference at least one entity"
  | entityId t given =>
    "entity '" ++ t ++ "' must have a string or integer id, got " ++ given
  | eventId given => "event_id must be a string or integer, got " ++ given
  | duplicateId id => "duplicate event_id '" ++ id ++ "'"

/-- Why an event is refused. -/
inductive EventError where
  | schemaMismatch (eventType attr expected actual : String)
  | invalidEvent (fault : EventFault)
  | invalidInstant (text : String)
  /-- A list attribute holds something that is no scalar. -/
  | nestedList (attr found : String)
deriving DecidableEq, Repr

/-- The message of an error. -/
def EventError.message : EventError → String
  | schemaMismatch t a expected actual =>
    "Schema mismatch for '" ++ t ++ "." ++ a ++ "': expected " ++ expected ++ ", got " ++ actual
  | invalidEvent fault => "Invalid event: " ++ fault.message
  | invalidInstant s => "Invalid datetime: " ++ s
  | nestedList a found =>
    "Type error: list attribute '" ++ a ++ "' may only hold scalars, found " ++ found

/-- The id of an entity for each entity type. -/
abbrev Entities := Dict String String

/-- The order of entities: by the first type or id in which they differ. -/
def Entities.order (a b : Entities) : Ordering :=
  List.compareLex (fun x y => (compare x.1 y.1).then (compare x.2 y.2)) a.entries b.entries

/-- A record of something that happened. -/
structure Event where
  type : String
  time : Instant
  entities : Entities
  id : Option String
  experiment : Option String
  attributes : Dict String Value

namespace Event

/-- An event without attributes. Its type must not be blank, and it must have an entity. -/
def create (type : String) (time : Instant) (entities : Entities) : Except EventError Event :=
  if (Text.trimChars type.toList).isEmpty then .error (.invalidEvent .blankType)
  else if entities.isEmpty then .error (.invalidEvent (.noEntity type))
  else .ok ⟨type, time, entities, none, none, .empty⟩

/-- The value of an attribute, null if the event does not have it. -/
def attr (e : Event) (name : String) : Value := (e.attributes.get? name).getD .null

/-- The event with one more attribute. -/
def withAttribute (e : Event) (name : String) (v : Value) : Event :=
  { e with attributes := e.attributes.insert name v }

/-- Whether a query under an experiment, or under none, sees the event. -/
def visibleIn (e : Event) (experiment : Option String) : Bool :=
  match e.experiment with
  | none => true
  | some own => experiment == some own

end Event

/-- The instant of a text, or the error that names the text without its outer blanks. -/
def readInstant (s : String) : Except EventError Instant :=
  match Instant.ofText? s with
  | some t => .ok t
  | none => .error (.invalidInstant (Text.trim s))

end Hindsight
