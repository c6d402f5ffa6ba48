import Hindsight.Engine.Basic
import Hindsight.Event.SchemaJson
import Hindsight.Query.OptionsJson

/-!
# Settings as JSON

Settings are an object in which everything may be left out.
-/

namespace Hindsight
namespace EngineSettings

/-- Settings while they are decoded. -/
structure Partial where
  options : Option QueryOptions := none
  scope : Option EventScope := none
  validates : Option Bool := none
  schema : Option Schema := none
  checksTypes : Option Bool := none

/-- How settings are decoded. -/
def shape : Json.RecordShape Partial where
  names := ["query", "event_scope", "validate_schema", "schema", "enable_type_checking"]
  step p name j :=
    match name with
    | "query" => return { p with options := ← Json.once p.options QueryOptions.decode j }
    | "event_scope" => return { p with scope := ← Json.once p.scope EventScope.decode j }
    | "validate_schema" => return { p with validates := ← Json.once p.validates Json.decodeBool j }
    | "schema" => return { p with schema := ← Json.once p.schema Schema.decode j }
    | "enable_type_checking" =>
      return { p with checksTypes := ← Json.once p.checksTypes Json.decodeBool j }
    | _ => return p

/-- Decode settings. -/
def decode (j : Json) : Json.Decoded EngineSettings := do
  let (p, _) ← Json.decodeMembers shape {} j
  return ⟨p.options.getD {}, p.scope.getD default, p.validates.getD true,
    p.schema.getD .empty, p.checksTypes.getD true⟩

/-- The JSON tree of settings. -/
def toJson (s : EngineSettings) : Json :=
  .object [("query", s.options.toJson), ("event_scope", s.scope.toJson),
    ("validate_schema", .bool s.validates), ("schema", s.schema.toJson),
    ("enable_type_checking", .bool s.checksTypes)]

/-- The settings of a JSON text. -/
def ofText (text : String) : Except DecodeError EngineSettings :=
  (Json.Document.ofText text).decode decode

/-- The settings of a file from the extension of its name and its text. -/
def ofFile (extension text : String) : Except EngineError EngineSettings :=
  if extension = "json" then (ofText text).mapError .decode else .error (.settingsFormat extension)

end EngineSettings
end Hindsight
