import Hindsight.Aggregate.Grouped
import Hindsight.Eval.Formula
import Hindsight.Store.Timeline

/-!
# Rescanning a window

What a candidate gives to an aggregate at a point. A candidate of a type that the filter cannot
accept is passed over without asking the filter. A filter that cannot be evaluated spoils the
aggregate at the points whose window holds the candidate; an argument, a key or a rank that cannot
be evaluated spoils the query.

The value of an aggregate at a point comes from the candidates in its window, one after the other.
This says what an aggregate means; a window that slides from point to point has to agree with it.
Where the aggregate ranks events, only those whose rank is extreme are taken, after the window is
read.
-/

namespace Hindsight

/-- What an event gives to an aggregate. -/
structure Share where
  /-- The group that the event belongs to, if the aggregate has groups. -/
  key : Option Value
  value : Value
  /-- The rank of the event, if the aggregate ranks them. -/
  rank : Option Value

/-- What becomes of an event at an aggregate. -/
inductive Contribution where
  | passed
  | counted (share : Share)
  | filterFailed (reason : EvalError)

/-- What an aggregate comes to at a point. -/
inductive Outcome where
  | value (v : Value)
  | filterFailed (reason : EvalError)

namespace Aggregate

/-- Whether the filter can accept events of a type. -/
def permitsType (a : Aggregate) (type : String) : Bool :=
  match a.eventTypes with
  | some pinned => pinned.contains type
  | none => true

/-- Whether the filter accepts the event of a context; without a filter every event is. -/
def accepts (a : Aggregate) (ctx : EvalContext) : Except EvalError Bool :=
  match a.filter with
  | some f => f.holds ctx
  | none => .ok true

/-- The value of a clause, if there is one. -/
def clause (ctx : EvalContext) : Option Formula → Except EvalError (Option Value)
  | some f => (f.evaluate ctx).map some
  | none => .ok none

/-- What the event of a context gives. -/
def share (a : Aggregate) (ctx : EvalContext) : Except EvalError Share := do
  let value ← a.argument.evaluate ctx
  let key ← clause ctx a.groupBy
  let rank ← clause ctx (a.having.map Ranking.rank)
  return ⟨key, value, rank⟩

/-- What becomes of an event at a point, whose context is given. -/
def contribution (a : Aggregate) (point : EvalContext) (e : Event) :
    Except EvalError Contribution :=
  if a.permitsType e.type then
    let ctx := point.withEvent e
    match a.accepts ctx with
    | .error reason => .ok (.filterFailed reason)
    | .ok false => .ok .passed
    | .ok true => (a.share ctx).map .counted
  else .ok .passed

end Aggregate

/-- A point of a group and the event that it was taken from. -/
structure SourcedPoint where
  point : ObservationPoint
  source : Option Event

/-- The context of a point. -/
def SourcedPoint.context (p : SourcedPoint) : EvalContext := .ofPoint p.point p.source

/-- An aggregate over the candidates of a group. -/
structure WindowedAggregate where
  aggregate : Aggregate
  candidates : Timeline
  /-- Whether an event at the instant of observation belongs to the past. -/
  inclusive : Bool

/-- The window of a point. -/
def WindowedAggregate.frame (w : WindowedAggregate) (p : ObservationPoint) : Frame :=
  w.candidates.frame (w.aggregate.window.bounds p.instant w.inclusive)

/-- An input with its rank. -/
structure RankedInput where
  input : Input
  rank : Value

namespace Extreme

/-- The best of some ranks. Null is no rank, and a rank that does not compare with the best so far
is passed over. -/
def bestRank (x : Extreme) (ranks : List Value) : Option Value :=
  ranks.foldl (fun best r => if r.isNull then best else x.offer best r) none

/-- Whether a rank is as good as the best. -/
def ties (best : Option Value) (rank : Value) : Bool :=
  match best with
  | some b => rank.compare b == some .eq
  | none => false

/-- The inputs whose rank is the best, in their order. -/
def select (x : Extreme) (inputs : List RankedInput) : List RankedInput :=
  let best := x.bestRank (inputs.map RankedInput.rank)
  inputs.filter fun i => ties best i.rank

end Extreme

/-- What has been read of a window. -/
structure WindowReading where
  plain : Accumulator
  grouped : GroupedAccumulator
  ranked : List RankedInput

namespace WindowReading

/-- Nothing read. -/
def start (f : AggregateFunction) : WindowReading := ⟨.empty f, .empty f, []⟩

/-- The reading after a share. -/
def add (r : WindowReading) (t : Time.Instant) (s : Share) : Except EvalError WindowReading :=
  match s.key, s.rank with
  | some key, _ => (r.grouped.added key ⟨t, s.value⟩).map fun g => { r with grouped := g }
  | none, some rank => .ok { r with ranked := r.ranked ++ [⟨⟨t, s.value⟩, rank⟩] }
  | none, none => (r.plain.add ⟨t, s.value⟩).map fun a => { r with plain := a }

/-- The accumulator with the inputs whose rank is extreme. -/
def withRanked (r : WindowReading) (a : Aggregate) : Except EvalError Accumulator :=
  match a.having with
  | some h => (h.extreme.select r.ranked).foldlM (fun s i => s.add i.input) r.plain
  | none => .ok r.plain

/-- The value of an aggregate after its window is read. -/
def value (r : WindowReading) (a : Aggregate) : Except EvalError Value :=
  (r.withRanked a).map fun s => if a.groupBy.isSome then r.grouped.value else s.value

end WindowReading

namespace WindowedAggregate

/-- Read events at a point. The first filter that fails ends the reading. -/
def read (a : Aggregate) (point : EvalContext) (r : WindowReading) :
    Timeline → Except EvalError Outcome
  | [] => (r.value a).map .value
  | x :: rest => do
    match ← a.contribution point x.event with
    | .passed => read a point r rest
    | .filterFailed reason => return .filterFailed reason
    | .counted s => read a point (← r.add x.event.time s) rest

/-- The aggregate at a point. -/
def rescanAt (w : WindowedAggregate) (p : SourcedPoint) : Except EvalError Outcome :=
  read w.aggregate p.context (.start w.aggregate.function) ((w.frame p.point).of w.candidates)

/-- The aggregate at each of some points. -/
def rescan (w : WindowedAggregate) (ps : List SourcedPoint) : Except EvalError (List Outcome) :=
  ps.mapM w.rescanAt

end WindowedAggregate

end Hindsight
