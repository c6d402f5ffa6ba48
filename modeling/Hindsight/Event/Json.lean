import Hindsight.Json.Decode
import Hindsight.Json.Writer
import Hindsight.Value.Json

/-!
# Events as JSON

An event is an object with a type, an instant, entities and perhaps an id, an experiment and
attributes. Ids are strings or integers. Attributes may nest; nested objects are flattened to
attributes whose names are the dotted paths, and arrays are kept whole. Two paths that spell the
same name leave the value that comes last in the order of paths.
-/

namespace Hindsight
namespace Event

/-- The record of an event while it is decoded. -/
structure Record where
  type : Option String
  time : Option Time.Instant
  entities : Option (Dict String Json)
  id : Option (Option Json)
  experiment : Option (Option String)
  attributes : Option (Option (Dict String Json))

/-- Nothing decoded yet. -/
def Record.start : Record := ⟨none, none, none, none, none, none⟩

/-- How the record of an event is decoded. -/
def recordShape : Json.RecordShape Record where
  names := ["event_type", "event_time", "entities", "event_id", "experiment_id", "attrs"]
  step r name j :=
    match name with
    | "event_type" => return { r with type := ← Json.once r.type Json.decodeString j }
    | "event_time" => return { r with time := ← Json.once r.time Json.decodeInstant j }
    | "entities" =>
      return { r with entities := ← Json.once r.entities (Json.decodeDict Json.decodeAny) j }
    | "event_id" =>
      return { r with id := ← Json.once r.id (Json.decodeOption Json.decodeAny) j }
    | "experiment_id" =>
      return { r with
        experiment := ← Json.once r.experiment (Json.decodeOption Json.decodeString) j }
    | "attrs" =>
      return { r with
        attributes :=
          ← Json.once r.attributes (Json.decodeOption (Json.decodeDict Json.decodeAny)) j }
    | _ => return r

/-- The id that a string or an integer denotes. -/
def idOfJson? : Json → Option String
  | .string s => some s
  | .int n => some (toString n)
  | _ => none

mutual

/-- The attributes that a member contributes: one for each path to something that is no object. -/
def leaves (path : String) : Json → List (String × Value)
  | .object members => leavesOfMembers (path ++ ".") members
  | j => [(path, Value.ofJson j)]

/-- The attributes of nested members, whose paths start with `stem`. -/
def leavesOfMembers (stem : String) : List (String × Json) → List (String × Value)
  | [] => []
  | (k, j) :: rest => leaves (stem ++ k) j ++ leavesOfMembers stem rest

end

/-- The attributes of an event from its members. -/
def flatten (members : Dict String Json) : Dict String Value :=
  Dict.ofList (leavesOfMembers "" members.entries)

/-- The entities of an event from the ids given for them. -/
def entitiesOfJson (given : Dict String Json) : Except EventError Entities := do
  let entries ← given.entries.mapM fun e =>
    match idOfJson? e.2 with
    | some id => .ok (e.1, id)
    | none => .error (.invalidEvent (.entityId e.1 e.2.text))
  return Dict.ofList entries

/-- The id of an event, if one is given. -/
def idOfJson : Option Json → Except EventError (Option String)
  | none => .ok none
  | some .null => .ok none
  | some j =>
    match idOfJson? j with
    | some id => .ok (some id)
    | none => .error (.invalidEvent (.eventId j.text))

/-- The event of a record with its required parts. -/
def ofRecord (r : Record) (type : String) (time : Time.Instant) (entities : Dict String Json) :
    Except EventError Event := do
  let entities ← entitiesOfJson entities
  let id ← idOfJson (r.id.getD none)
  let attributes := ((r.attributes.getD none).map flatten).getD .empty
  let e ← create type time entities
  return { e with id := id, experiment := r.experiment.getD none, attributes := attributes }

/-- Decode an event. -/
def decode (j : Json) : Json.Decoded Event := do
  let (r, absent) ← Json.decodeMembers recordShape Record.start j
  let type ← Json.required absent "event_type" r.type
  let time ← Json.required absent "event_time" r.time
  let entities ← Json.required absent "entities" r.entities
  match ofRecord r type time entities with
  | .ok e => return e
  | .error e => throw (.refused e)

/-- The event of a JSON text. -/
def ofText (s : String) : Except DecodeError Event := (Json.Document.ofText s).decode decode

/-- The JSON tree of an event; an id or an experiment that is not set is left out. -/
def toJson (e : Event) : Json :=
  .object (
    [("event_type", .string e.type), ("event_time", .string e.time.text),
     ("entities", .object (e.entities.map Json.string).entries)] ++
    (e.id.map fun id => ("event_id", Json.string id)).toList ++
    (e.experiment.map fun x => ("experiment_id", Json.string x)).toList ++
    [("attrs", .object (e.attributes.map Value.toJson).entries)])

end Event
end Hindsight
