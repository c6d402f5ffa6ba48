import Hindsight.Json.Decode
import Hindsight.Observation.Sampling

/-!
# Samplings as JSON

A sampling is written as its name with the record that belongs to it. Names are in Pascal case;
their snake case is read as well.
-/

namespace Hindsight

open Time (Instant TimeUnit)

/-- A list of names. -/
def decodeNames : Json → Json.Decoded (List String) := Json.decodeList Json.decodeString

/-- The JSON tree of a list of names. -/
def namesToJson (ns : List String) : Json := .array (ns.map .string)

/-- A member for something that may be absent. -/
def optionalMember (name : String) (j : Option Json) : List (String × Json) :=
  (j.map fun j => (name, j)).toList

namespace EvenSteps

/-- The names of the units of a step, and the one for no unit. -/
def unitNames : List (String × Option TimeUnit) :=
  [("All", none), ("Millisecond", some .millisecond), ("Second", some .second),
   ("Minute", some .minute), ("Hour", some .hour), ("Day", some .day), ("Week", some .week)]

/-- The name of a unit. -/
def unitName : Option TimeUnit → String
  | none => "All"
  | some .millisecond => "Millisecond"
  | some .second => "Second"
  | some .minute => "Minute"
  | some .hour => "Hour"
  | some .day => "Day"
  | some .week => "Week"

/-- The unit of a name, which may be written in lower case. -/
def decodeUnit (j : Json) : Json.Decoded (Option TimeUnit) := do
  let v ← Json.decodeVariant j
  match unitNames.find? fun u => v.name == u.1 || v.name == Text.asciiLower u.1 with
  | some u => v.unit u.2
  | none => throw .mismatch

/-- A rule while it is decoded. -/
structure Partial where
  entityTypes : Option (List String) := none
  unit : Option (Option TimeUnit) := none
  count : Option Int := none

/-- How a rule is decoded. -/
def shape : Json.RecordShape Partial where
  names := ["entity_types", "date_part", "nth"]
  step p name j :=
    match name with
    | "entity_types" => return { p with entityTypes := ← Json.once p.entityTypes decodeNames j }
    | "date_part" => return { p with unit := ← Json.once p.unit decodeUnit j }
    | "nth" => return { p with count := ← Json.once p.count Json.decodeInt j }
    | _ => return p

/-- Decode a rule; a step is one unit long if nothing else is said. -/
def decode (j : Json) : Json.Decoded EvenSteps := do
  let (p, absent) ← Json.decodeMembers shape {} j
  return ⟨← Json.required absent "entity_types" p.entityTypes,
    ← Json.required absent "date_part" p.unit, p.count.getD 1⟩

/-- The JSON tree of a rule. -/
def toJson (s : EvenSteps) : Json :=
  .object [("entity_types", namesToJson s.entityTypes), ("date_part", .string (unitName s.unit)),
    ("nth", .int s.count)]

end EvenSteps

namespace FixedDates

/-- A list of instants; the shape of all counts before the text of any. -/
def decodeDates (j : Json) : Json.Decoded (List Instant) := do
  (← decodeNames j).mapM fun s => Json.decodeInstant (.string s)

/-- A rule while it is decoded. -/
structure Partial where
  entityTypes : Option (List String) := none
  dates : Option (List Instant) := none
  entityIds : Option (Option (List String)) := none

/-- How a rule is decoded. -/
def shape : Json.RecordShape Partial where
  names := ["entity_types", "dates", "entity_ids"]
  step p name j :=
    match name with
    | "entity_types" => return { p with entityTypes := ← Json.once p.entityTypes decodeNames j }
    | "dates" => return { p with dates := ← Json.once p.dates decodeDates j }
    | "entity_ids" =>
      return { p with entityIds := ← Json.once p.entityIds (Json.decodeOption decodeNames) j }
    | _ => return p

/-- Decode a rule. -/
def decode (j : Json) : Json.Decoded FixedDates := do
  let (p, absent) ← Json.decodeMembers shape {} j
  return ⟨← Json.required absent "entity_types" p.entityTypes,
    ← Json.required absent "dates" p.dates, p.entityIds.getD none⟩

/-- The JSON tree of a rule. -/
def toJson (f : FixedDates) : Json :=
  .object (
    [("entity_types", namesToJson f.entityTypes),
     ("dates", .array (f.dates.map fun t => .string t.text))] ++
    optionalMember "entity_ids" (f.entityIds.map namesToJson))

end FixedDates

namespace EventDate

/-- The members of a date. -/
def members (d : EventDate) : List (String × Json) :=
  ("datetime", .string d.instant.text) :: optionalMember "event_id" (d.eventId.map .string)

/-- The JSON tree of a date. -/
def toJson (d : EventDate) : Json := .object d.members

end EventDate

namespace ScopedDate

/-- A date while it is decoded. -/
structure Partial where
  instant : Option Instant := none
  eventId : Option (Option String) := none
  scope : Option (List (String × String)) := none

/-- Decode a member of a date. -/
def step (p : Partial) (name : String) (j : Json) : Json.Decoded Partial := do
  match name with
  | "datetime" => return { p with instant := ← Json.once p.instant Json.decodeInstant j }
  | "event_id" =>
    return { p with eventId := ← Json.once p.eventId (Json.decodeOption Json.decodeString) j }
  | "scope" =>
    let decode := Json.decodeList (Json.decodePair Json.decodeString Json.decodeString)
    return { p with scope := ← Json.once p.scope decode j }
  | _ => return p

/-- How a date without a scope is decoded. -/
def plainShape : Json.RecordShape Partial := { names := ["datetime", "event_id"], step := step }

/-- How a date with a scope is decoded. -/
def shape : Json.RecordShape Partial :=
  { names := ["datetime", "event_id", "scope"], step := step }

/-- Decode a date of a shape. -/
def decodeAs (shape : Json.RecordShape Partial) (j : Json) : Json.Decoded ScopedDate := do
  let (p, absent) ← Json.decodeMembers shape {} j
  return ⟨⟨← Json.required absent "datetime" p.instant, p.eventId.getD none⟩, p.scope.getD []⟩

/-- Decode a date. -/
def decode : Json → Json.Decoded ScopedDate := decodeAs shape

/-- The JSON tree of a date. -/
def toJson (d : ScopedDate) : Json :=
  .object (d.date.members ++
    [("scope", .array (d.scope.map fun e => .array [.string e.1, .string e.2]))])

end ScopedDate

/-- Decode a date without a scope. -/
def EventDate.decode (j : Json) : Json.Decoded EventDate := do
  return (← ScopedDate.decodeAs ScopedDate.plainShape j).date

namespace EntityDates

/-- The dates of an entity while they are decoded. -/
structure Partial where
  entityType : Option String := none
  entityId : Option String := none
  dates : Option (List EventDate) := none

/-- How the dates of an entity are decoded. -/
def shape : Json.RecordShape Partial where
  names := ["entity_type", "entity_id", "dates"]
  step p name j :=
    match name with
    | "entity_type" => return { p with entityType := ← Json.once p.entityType Json.decodeString j }
    | "entity_id" => return { p with entityId := ← Json.once p.entityId Json.decodeString j }
    | "dates" => return { p with dates := ← Json.once p.dates (Json.decodeList EventDate.decode) j }
    | _ => return p

/-- Decode the dates of an entity. -/
def decode (j : Json) : Json.Decoded EntityDates := do
  let (p, absent) ← Json.decodeMembers shape {} j
  return ⟨← Json.required absent "entity_type" p.entityType,
    ← Json.required absent "entity_id" p.entityId, ← Json.required absent "dates" p.dates⟩

/-- The JSON tree of the dates of an entity. -/
def toJson (d : EntityDates) : Json :=
  .object [("entity_type", .string d.entityType), ("entity_id", .string d.entityId),
    ("dates", .array (d.dates.map EventDate.toJson))]

end EntityDates

namespace MatchingEvents

/-- A rule while it is decoded. -/
structure Partial where
  condition : Option String := none
  entityTypes : Option (List String) := none

/-- How a rule is decoded. -/
def shape : Json.RecordShape Partial where
  names := ["condition", "entity_types"]
  step p name j :=
    match name with
    | "condition" => return { p with condition := ← Json.once p.condition Json.decodeString j }
    | "entity_types" => return { p with entityTypes := ← Json.once p.entityTypes decodeNames j }
    | _ => return p

/-- Decode a rule. -/
def decode (j : Json) : Json.Decoded MatchingEvents := do
  let (p, absent) ← Json.decodeMembers shape {} j
  return ⟨← Json.required absent "condition" p.condition,
    ← Json.required absent "entity_types" p.entityTypes⟩

/-- The JSON tree of a rule. -/
def toJson (m : MatchingEvents) : Json :=
  .object [("condition", .string m.condition), ("entity_types", namesToJson m.entityTypes)]

end MatchingEvents

namespace ScopedDates

/-- A rule while it is decoded. -/
structure Partial where
  entityType : Option String := none
  dates : Option (Dict String (List ScopedDate)) := none

/-- How a rule is decoded. -/
def shape : Json.RecordShape Partial where
  names := ["entity_type", "observations"]
  step p name j :=
    match name with
    | "entity_type" => return { p with entityType := ← Json.once p.entityType Json.decodeString j }
    | "observations" =>
      let decode := Json.decodeDict (Json.decodeList ScopedDate.decode)
      return { p with dates := ← Json.once p.dates decode j }
    | _ => return p

/-- Decode a rule. -/
def decode (j : Json) : Json.Decoded ScopedDates := do
  let (p, absent) ← Json.decodeMembers shape {} j
  return ⟨← Json.required absent "entity_type" p.entityType,
    ← Json.required absent "observations" p.dates⟩

/-- The JSON tree of a rule. -/
def toJson (s : ScopedDates) : Json :=
  .object [("entity_type", .string s.entityType),
    ("observations",
      .object (s.dates.map fun ds => Json.array (ds.map ScopedDate.toJson)).entries)]

end ScopedDates

namespace Sampling

/-- The sampling of a variant. -/
def ofVariant (v : Json.Variant) : Json.Decoded Sampling := do
  match v.name with
  | "Interval" | "interval" => return .even (← v.holding EvenSteps.decode)
  | "Fixed" | "fixed" => return .fixed (← v.holding FixedDates.decode)
  | "EntitySpecific" | "entity_specific" =>
    return .listed (← v.holding (Json.decodeList EntityDates.decode))
  | "AllEvents" | "all_events" => v.unit .allEvents
  | "AllEventsByEntity" | "all_events_by_entity" => return .allEventsOf (← v.holding decodeNames)
  | "ConditionalEvents" | "conditional_events" =>
    return .matching (← v.holding MatchingEvents.decode)
  | "EntitiesEventSpecific" | "entities_event_specific" =>
    return .withScopes (← v.holding ScopedDates.decode)
  | _ => throw .mismatch

/-- Decode a sampling in the order of a text. -/
def decode (j : Json) : Json.Decoded Sampling := do ofVariant (← Json.decodeVariant j)

/-- Decode a sampling from a tree at hand. -/
def decodeTree (j : Json) : Json.Decoded Sampling := do ofVariant (← Json.decodeSoleVariant j)

/-- The JSON tree of a sampling. -/
def toJson : Sampling → Json
  | even s => Json.tagged "Interval" s.toJson
  | fixed f => Json.tagged "Fixed" f.toJson
  | listed es => Json.tagged "EntitySpecific" (.array (es.map EntityDates.toJson))
  | allEvents => .string "AllEvents"
  | allEventsOf ts => Json.tagged "AllEventsByEntity" (namesToJson ts)
  | matching m => Json.tagged "ConditionalEvents" m.toJson
  | withScopes s => Json.tagged "EntitiesEventSpecific" s.toJson

end Sampling
end Hindsight
