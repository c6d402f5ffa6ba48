import Hindsight.Aggregate.Accumulator
import Hindsight.Observation.Sample
import Hindsight.Query.Candidates
import Hindsight.Query.Slide
import Hindsight.Query.Table

/-!
# Running a query

A query evaluates features at points. Its scope and its features are checked against the index
before anything is computed. The points are grouped by entity and context; a group has one list of
candidates, and its aggregates visit the points in the order of their instants. The outcomes are
put back in the order in which the points were given.

A query has no answer if its sampling or its scope does not fit the index, its features do not
compile or do not fit the schema, or a formula cannot be evaluated.
-/

namespace Hindsight

/-- Why a query has no answer. -/
inductive QueryError where
  | sampling (fault : SamplingFault)
  | unknownRelated (entityType : String)
  | compile (error : CompileError)
  | evaluation (error : AccumulatorError)
  /-- An event is refused by the index. -/
  | event (error : EventError)
deriving DecidableEq, Repr

/-- The message of an error. -/
def QueryError.message : QueryError → String
  | sampling fault => "Configuration error: " ++ fault.text
  | unknownRelated t =>
    "Configuration error: Unknown related entity type '" ++ t ++ "' in event scope"
  | compile e => e.message
  | evaluation e => e.message
  | event e => e.message

/-- A point at its place in the list of points. -/
structure PlacedPoint where
  place : Nat
  point : ObservationPoint

/-- What a query comes to at a point. -/
inductive PointOutcome where
  | row (values : List Value)
  | dropped (feature : String) (reason : EvalError)

/-- The outcome of a placed point. -/
structure PlacedOutcome where
  place : Nat
  point : ObservationPoint
  outcome : PointOutcome

/-- What a query reads and how. -/
structure QueryRun where
  index : EventIndex
  scope : EventScope
  options : QueryOptions

/-- The points of a list with their places. -/
def placed (ps : List ObservationPoint) : List PlacedPoint :=
  ps.zipIdx.map fun p => ⟨p.2, p.1⟩

/-- The groups of some points in order, each with its points. -/
def pointGroups (ps : List PlacedPoint) : List (PointGroup × List PlacedPoint) :=
  let groups := (ps.map fun p => PointGroup.of p.point).eraseDups.mergeSort fun g h =>
    (g.order h).isLE
  groups.map fun g => (g, ps.filter fun p => PointGroup.of p.point = g)

namespace Outcome

/-- The values of the slots of a feature, or why the first filter that failed did. -/
def values : List Outcome → Except EvalError (List Value)
  | [] => .ok []
  | value v :: rest => (values rest).map (v :: ·)
  | filterFailed reason :: _ => .error reason

end Outcome

/-- The outcome at a point from the outcomes of the slots of each feature. -/
def PointOutcome.ofSlots (ctx : EvalContext) :
    List (Feature × List Outcome) → Except EvalError PointOutcome
  | [] => .ok (.row [])
  | (f, slots) :: rest =>
    match Outcome.values slots with
    | .error reason => .ok (.dropped f.name reason)
    | .ok vs => do
      let v ← f.formula.evaluate (ctx.withSlots vs)
      match ← ofSlots ctx rest with
      | .row values => return .row (v :: values)
      | .dropped feature reason => return .dropped feature reason

/-- The outcomes at some points from the outcomes of the slots of each feature, each of which has
one outcome for every point. -/
def PointOutcome.ofColumns :
    List SourcedPoint → List (Feature × List (List Outcome)) →
      Except EvalError (List PointOutcome)
  | [], _ => .ok []
  | p :: rest, columns => do
    let here := columns.map fun c => (c.1, c.2.filterMap List.head?)
    let outcome ← ofSlots p.context here
    return outcome :: (← ofColumns rest (columns.map fun c => (c.1, c.2.map List.tail)))

namespace QueryRun

/-- A point with the event that it was taken from, if the index has that event. -/
def sourced (r : QueryRun) (p : ObservationPoint) : SourcedPoint :=
  ⟨p, p.eventId.bind r.index.find?⟩

/-- The aggregates of a feature at the points of a group. -/
def slots (r : QueryRun) (candidates : Timeline) (ps : List SourcedPoint) (f : Feature) :
    Except AccumulatorError (Feature × List (List Outcome)) := do
  let slots ← f.aggregates.mapM fun a =>
    (WindowedAggregate.mk a candidates r.options.inclusive).evaluate a.strategy ps
  return (f, slots)

/-- The outcomes of the points of a group. -/
def runGroup (r : QueryRun) (q : FeatureSet) (g : PointGroup × List PlacedPoint) :
    Except AccumulatorError (List PlacedOutcome) := do
  let candidates := r.scope.candidates r.index g.1 r.options.experiment
  let ordered := g.2.mergeSort fun p q => decide (p.point.instant ≤ q.point.instant)
  let points := ordered.map fun p => r.sourced p.point
  let columns ← q.features.mapM (r.slots candidates points)
  let outcomes ← (PointOutcome.ofColumns points columns).mapError .eval
  return List.zipWith (fun p o => ⟨p.place, p.point, o⟩) ordered outcomes

/-- The outcomes of all points, in the order of the points. -/
def outcomes (r : QueryRun) (q : FeatureSet) (ps : List ObservationPoint) :
    Except AccumulatorError (List PlacedOutcome) := do
  let groups ← (pointGroups (placed ps)).mapM (r.runGroup q)
  return groups.flatten.mergeSort fun o p => decide (o.place ≤ p.place)

/-- The scope and the features fit the index. -/
def check (r : QueryRun) (q : FeatureSet) : Except QueryError Unit := do
  match r.scope.unknownType? r.index with
  | some t => throw (.unknownRelated t)
  | none => ((Binder.ofSchema r.index.schema).bindQuery q).1.mapError .compile

/-- The table of a list of outcomes. -/
def table (q : FeatureSet) (outcomes : List PlacedOutcome) : FeatureTable where
  columns := q.columns
  rows := outcomes.filterMap fun o =>
    match o.outcome with
    | .row values => some ⟨o.point, values⟩
    | .dropped _ _ => none
  dropped := outcomes.filterMap fun o =>
    match o.outcome with
    | .row _ => none
    | .dropped feature reason => some ⟨o.point, feature, reason⟩

/-- Evaluate compiled features at points. -/
def run (r : QueryRun) (q : FeatureSet) (ps : List ObservationPoint) :
    Except QueryError FeatureTable := do
  r.check q
  return table q (← (r.outcomes q ps).mapError .evaluation)

/-- Evaluate compiled features at the points of a sampling. -/
def runSampling (r : QueryRun) (q : FeatureSet) (s : Sampling) :
    Except QueryError FeatureTable := do
  let points ← (s.points ⟨r.index, r.options.experiment⟩).mapError .sampling
  r.run q points

/-- Compile features and evaluate them at the points of a sampling. -/
def query (r : QueryRun) (texts : List String) (s : Sampling) : Except QueryError FeatureTable := do
  let q ← (FeatureSet.compile true texts).mapError .compile
  r.runSampling q s

end QueryRun

end Hindsight
