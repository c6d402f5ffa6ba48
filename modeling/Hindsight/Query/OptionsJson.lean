import Hindsight.Json.Decode
import Hindsight.Query.Options

/-!
# Options and scopes as JSON

Options are an object in which everything may be left out. A scope is a name, or a name with the
list of related entity types; names are in snake case, and their Pascal case is read as well.
-/

namespace Hindsight
namespace QueryOptions

/-- Options while they are decoded. -/
structure Partial where
  inclusive : Option Bool := none
  parallel : Option Bool := none
  experiment : Option (Option String) := none

/-- How options are decoded. -/
def shape : Json.RecordShape Partial where
  names := ["include_events_on_obs_date", "parallel", "experiment_id"]
  step p name j :=
    match name with
    | "include_events_on_obs_date" =>
      return { p with inclusive := ← Json.once p.inclusive Json.decodeBool j }
    | "parallel" => return { p with parallel := ← Json.once p.parallel Json.decodeBool j }
    | "experiment_id" =>
      return { p with
        experiment := ← Json.once p.experiment (Json.decodeOption Json.decodeString) j }
    | _ => return p

/-- Decode options. -/
def decode (j : Json) : Json.Decoded QueryOptions := do
  let (p, _) ← Json.decodeMembers shape {} j
  return ⟨p.inclusive.getD false, p.parallel.getD false, p.experiment.getD none⟩

/-- The JSON tree of options; an experiment that is not set is left out. -/
def toJson (o : QueryOptions) : Json :=
  .object (
    [("include_events_on_obs_date", .bool o.inclusive), ("parallel", .bool o.parallel)] ++
    (o.experiment.map fun x => ("experiment_id", Json.string x)).toList)

end QueryOptions

namespace EventScope

/-- Decode a scope. -/
def decode (j : Json) : Json.Decoded EventScope := do
  let v ← Json.decodeVariant j
  match v.name with
  | "related_entities_events" | "RelatedEntitiesEvents" =>
    return .related (← v.holding (Json.decodeList Json.decodeString))
  | "all_events" | "AllEvents" => v.unit .allEvents
  | _ => throw .mismatch

/-- The JSON tree of a scope. -/
def toJson : EventScope → Json
  | related types => Json.tagged "related_entities_events" (.array (types.map .string))
  | allEvents => .string "all_events"

end EventScope
end Hindsight
