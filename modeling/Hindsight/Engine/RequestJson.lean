import Hindsight.Engine.Basic
import Hindsight.Observation.SamplingJson
import Hindsight.Query.OptionsJson

/-!
# Feature requests as JSON

A request is an object with the sampling, the features and perhaps a scope and options.
-/

namespace Hindsight
namespace FeatureRequest

/-- A request while it is decoded. -/
structure Partial where
  sampling : Option Sampling := none
  scope : Option (Option EventScope) := none
  options : Option (Option QueryOptions) := none
  features : Option (List String) := none

/-- How a request is decoded. -/
def shape : Json.RecordShape Partial where
  names := ["observation_dates", "event_scope", "query_config", "features"]
  step p name j :=
    match name with
    | "observation_dates" => return { p with sampling := ← Json.once p.sampling Sampling.decode j }
    | "event_scope" =>
      return { p with scope := ← Json.once p.scope (Json.decodeOption EventScope.decode) j }
    | "query_config" =>
      return { p with options := ← Json.once p.options (Json.decodeOption QueryOptions.decode) j }
    | "features" => return { p with features := ← Json.once p.features decodeNames j }
    | _ => return p

/-- Decode a request. -/
def decode (j : Json) : Json.Decoded FeatureRequest := do
  let (p, absent) ← Json.decodeMembers shape {} j
  let sampling ← Json.required absent "observation_dates" p.sampling
  let features ← Json.required absent "features" p.features
  return ⟨sampling, p.scope.getD none, p.options.getD none, features⟩

/-- The JSON tree of a request; what is not set is left out. -/
def toJson (r : FeatureRequest) : Json :=
  .object (
    [("observation_dates", r.sampling.toJson)] ++
    optionalMember "event_scope" (r.scope.map EventScope.toJson) ++
    optionalMember "query_config" (r.options.map QueryOptions.toJson) ++
    [("features", namesToJson r.features)])

end FeatureRequest
end Hindsight
