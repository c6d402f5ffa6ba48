import Hindsight.Event.Json
import Hindsight.Event.Schema
import Hindsight.Json.Decode
import Hindsight.Observation.Sampling
import Hindsight.Query.Options
import Hindsight.Query.Run
import Hindsight.Store.Intake

/-!
# Feature engines

An engine is an index of events together with settings. It takes events in one by one, in lists or
as JSON, and answers queries. Events before one that is refused stay in the index.

The settings are what an engine starts with: the options and the scope of queries that bring none,
whether events that conflict with the schema are refused, the kinds that are declared in advance,
and whether features are checked for types that cannot fit under any schema. A request names the
points and the features of a query, and may bring its own scope and options.

An engine does not do what it is asked if what it is given does not decode, the features do not
compile, the index or the query reports a fault, or settings come in an unknown format.
-/

namespace Hindsight

/-- Why an engine does not do what it is asked. -/
inductive EngineError where
  | decode (error : DecodeError)
  | compile (error : CompileError)
  | query (error : QueryError)
  | settingsFormat (extension : String)
deriving DecidableEq, Repr

/-- The message of an error, if its text is fixed by what is wrong. -/
def EngineError.message? : EngineError → Option String
  | decode e => e.message?.map fun m => "Serialization error: " ++ m
  | compile e => some ("Compiler error: " ++ e.message)
  | query e => some ("Runtime error: " ++ e.message)
  | settingsFormat _ => none

/-- A query as it is sent to an engine. -/
structure FeatureRequest where
  sampling : Sampling
  scope : Option EventScope
  options : Option QueryOptions
  features : List String

/-- The settings of an engine. -/
structure EngineSettings where
  options : QueryOptions := {}
  scope : EventScope := default
  validates : Bool := true
  schema : Schema := .empty
  checksTypes : Bool := true

/-- The settings with one more declared attribute. -/
def EngineSettings.declare (s : EngineSettings) (eventType attr : String) (k : ValueKind) :
    EngineSettings :=
  { s with schema := s.schema.declare eventType attr k }

/-- Settings and an index of events. -/
structure FeatureEngine where
  settings : EngineSettings
  index : EventIndex

namespace FeatureEngine

/-- The index with the declared attributes of an event type. -/
def declareAll (i : EventIndex) (eventType : String) (attributes : EventSchema) : EventIndex :=
  attributes.entries.foldl (fun i a => i.declare eventType a.1 a.2) i

/-- The engine of some settings, without events. An event type of the settings without attributes
declares nothing, so it stays unknown. -/
def create (s : EngineSettings) : FeatureEngine :=
  ⟨s, s.schema.entries.foldl (fun i t => declareAll i t.1 t.2) (.empty s.validates)⟩

/-- The number of events. -/
def size (x : FeatureEngine) : Nat := x.index.size

/-- Take in an event. -/
def ingest (x : FeatureEngine) (e : Event) : Except EngineError FeatureEngine :=
  match (Intake.store e).on x.index with
  | (.ok _, i) => .ok { x with index := i }
  | (.error fault, _) => .error (.query (.event fault))

/-- Take in events up to the first that is refused; the result counts them or says why. -/
def ingestMany (x : FeatureEngine) (es : List Event) : Except EngineError Nat × FeatureEngine :=
  let (counted, i) := (Intake.storeAll es).on x.index
  (counted.mapError fun fault => .query (.event fault), { x with index := i })

/-- The events of a JSON text: an array of them or a single one. -/
def eventsOfText (text : String) : Json.Decoded (List Event) :=
  match Json.ofText? text with
  | none => .error .mismatch
  | some j =>
    match j.canonical with
    | .array items => items.mapM Event.decode
    | j => (Event.decode j).map fun e => [e]

/-- Take in the events of a JSON text. -/
def ingestText (x : FeatureEngine) (text : String) : Except EngineError Nat × FeatureEngine :=
  match eventsOfText text with
  | .error fault => (.error (.decode fault), x)
  | .ok es => x.ingestMany es

/-- Compile features. -/
def compile (x : FeatureEngine) (texts : List String) : Except EngineError FeatureSet :=
  (FeatureSet.compile x.settings.checksTypes texts).mapError .compile

/-- Answer a query with a scope and options of its own. -/
def queryWith (x : FeatureEngine) (s : Sampling) (scope : EventScope) (options : QueryOptions)
    (texts : List String) : Except EngineError FeatureTable := do
  let q ← x.compile texts
  ((QueryRun.mk x.index scope options).runSampling q s).mapError .query

/-- Answer a request. -/
def query (x : FeatureEngine) (r : FeatureRequest) : Except EngineError FeatureTable :=
  x.queryWith r.sampling (r.scope.getD x.settings.scope) (r.options.getD x.settings.options)
    r.features

/-- The points of a sampling. -/
def points (x : FeatureEngine) (s : Sampling) (experiment : Option String) :
    Except EngineError (List ObservationPoint) :=
  (s.points ⟨x.index, experiment⟩).mapError fun fault => .query (.sampling fault)

end FeatureEngine

end Hindsight
