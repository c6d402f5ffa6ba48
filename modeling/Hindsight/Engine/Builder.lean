import Hindsight.Engine.Basic

/-!
# Building an engine

A builder collects settings and events. Building takes in the events and fails at the first that
is refused.
-/

namespace Hindsight

/-- Settings and events for an engine to come. -/
structure EngineBuilder where
  settings : EngineSettings := {}
  events : List Event := []

namespace EngineBuilder

/-- The builder with other settings in place of all that were made before. -/
def withSettings (b : EngineBuilder) (s : EngineSettings) : EngineBuilder :=
  { b with settings := s }

/-- The builder with options. -/
def withOptions (b : EngineBuilder) (o : QueryOptions) : EngineBuilder :=
  { b with settings := { b.settings with options := o } }

/-- The builder with a scope. -/
def withScope (b : EngineBuilder) (s : EventScope) : EngineBuilder :=
  { b with settings := { b.settings with scope := s } }

/-- The builder of an engine that refuses events that conflict with the schema, or does not. -/
def withValidation (b : EngineBuilder) (validates : Bool) : EngineBuilder :=
  { b with settings := { b.settings with validates } }

/-- The builder of an engine that checks the types of features, or does not. -/
def withTypeChecking (b : EngineBuilder) (checksTypes : Bool) : EngineBuilder :=
  { b with settings := { b.settings with checksTypes } }

/-- The builder with one more declared attribute. -/
def declare (b : EngineBuilder) (eventType attr : String) (k : ValueKind) : EngineBuilder :=
  { b with settings := b.settings.declare eventType attr k }

/-- The builder with more events. -/
def addEvents (b : EngineBuilder) (es : List Event) : EngineBuilder :=
  { b with events := b.events ++ es }

/-- The builder with the events of a JSON array. -/
def addText (b : EngineBuilder) (text : String) : Except EngineError EngineBuilder :=
  match (Json.Document.ofText text).decode (Json.decodeList Event.decode) with
  | .ok es => .ok (b.addEvents es)
  | .error fault => .error (.decode fault)

/-- The engine. -/
def build (b : EngineBuilder) : Except EngineError FeatureEngine :=
  match (FeatureEngine.create b.settings).ingestMany b.events with
  | (.ok _, x) => .ok x
  | (.error fault, _) => .error fault

end EngineBuilder
end Hindsight
