import Hindsight.Aggregate.Deque
import Hindsight.Query.Rescan

/-!
# Sliding a window

The points of a group are visited in the order of their instants, so both ends of a window move
forward. What each candidate gives is found once, at the first point. From one point to the next
the candidates that enter the window are added and those that leave it are taken back, or dropped
from a monotone deque; a window that does not overlap the one before starts anew.

An aggregate slides if what a candidate gives is the same at all points of a group and its function
can give back or is decided by a monotone deque. Groups and ranks need the whole window, so such an
aggregate rescans.
-/

namespace Hindsight

/-- What a candidate gives, with its place among the candidates and its time. -/
structure Entry where
  number : Nat
  time : Time.Instant
  contribution : Contribution

namespace Entry

/-- The input of an entry that is counted. -/
def input? (e : Entry) : Option Input :=
  match e.contribution with
  | .counted s => some ⟨e.time, s.value⟩
  | _ => none

/-- Why the filter failed on an entry, if it did. -/
def failure? (e : Entry) : Option EvalError :=
  match e.contribution with
  | .filterFailed reason => some reason
  | _ => none

end Entry

/-- What slides: an accumulator that gives back, or a monotone deque. -/
inductive Sliding where
  | accumulator (a : Accumulator)
  | deque (d : MonotoneDeque)

namespace Sliding

/-- Nothing in the window. -/
def reset : Sliding → Sliding
  | accumulator a => accumulator (.empty a.function)
  | deque d => deque d.clear

/-- An entry enters the window. A deque takes no null. -/
def add (s : Sliding) (e : Entry) : Except AccumulatorError Sliding :=
  match e.input?, s with
  | none, s => .ok s
  | some i, accumulator a => ((a.add i).mapError .eval).map accumulator
  | some i, deque d => .ok (deque (if i.value.isNull then d else d.push ⟨e.number, i⟩))

/-- An entry leaves the window. A deque forgets it by its number. -/
def remove (s : Sliding) (e : Entry) : Except AccumulatorError Sliding :=
  match e.input?, s with
  | some i, accumulator a => (a.subtract i).map accumulator
  | _, s => .ok s

/-- The window starts at a number. -/
def evictBefore (s : Sliding) (number : Nat) : Sliding :=
  match s with
  | accumulator a => accumulator a
  | deque d => deque (d.evictBefore number)

/-- The value in the window. -/
def value : Sliding → Value
  | accumulator a => a.value
  | deque d => d.value

end Sliding

/-- A window with what slides in it. -/
structure SlidingWindow where
  content : Sliding
  start : Nat
  stop : Nat

namespace SlidingWindow

/-- The window, emptied at the start of a frame that it cannot slide to. -/
def meet (w : SlidingWindow) (f : Frame) : SlidingWindow :=
  if w.stop ≤ f.start ∨ f.start < w.start ∨ f.stop < w.stop then
    ⟨w.content.reset, f.start, f.start⟩
  else w

/-- Slide to a frame. -/
def slideTo (entries : List Entry) (w : SlidingWindow) (f : Frame) :
    Except AccumulatorError SlidingWindow := do
  let w := w.meet f
  let entered ← (segment w.stop f.stop entries).foldlM Sliding.add w.content
  let left ← (segment w.start f.start entries).foldlM Sliding.remove entered
  return ⟨left.evictBefore f.start, f.start, f.stop⟩

/-- The aggregate in a frame that the window has slid to. -/
def outcome (entries : List Entry) (w : SlidingWindow) (f : Frame) : Outcome :=
  match (f.of entries).findSome? Entry.failure? with
  | some reason => .filterFailed reason
  | none => .value w.content.value

/-- Slide from frame to frame. -/
def slide (entries : List Entry) (w : SlidingWindow) :
    List Frame → Except AccumulatorError (List Outcome)
  | [] => .ok []
  | f :: rest => do
    let w ← w.slideTo entries f
    return w.outcome entries f :: (← slide entries w rest)

end SlidingWindow

namespace WindowedAggregate

/-- What the candidates give at a point. -/
def entries (w : WindowedAggregate) (p : SourcedPoint) : Except EvalError (List Entry) :=
  w.candidates.zipIdx.mapM fun x =>
    (w.aggregate.contribution p.context x.1.event).map fun c => ⟨x.2, x.1.event.time, c⟩

/-- The aggregate at each of some points, found by sliding. -/
def slide (w : WindowedAggregate) (content : Sliding) (ps : List SourcedPoint) :
    Except AccumulatorError (List Outcome) :=
  match ps with
  | [] => .ok []
  | first :: _ => do
    let entries ← (w.entries first).mapError .eval
    SlidingWindow.slide entries ⟨content, 0, 0⟩ (ps.map fun p => w.frame p.point)

end WindowedAggregate

/-- How an aggregate is found at the points of a group. -/
inductive Strategy where
  | incremental
  | deque
  | rescan
deriving DecidableEq, Repr

/-- The strategy of an aggregate. -/
def Aggregate.strategy (a : Aggregate) : Strategy :=
  if a.groupBy.isSome || a.having.isSome || !a.isContextFree then .rescan
  else if a.function.isSubtractable then .incremental
  else if a.function.isSelective then .deque
  else .rescan

namespace WindowedAggregate

/-- What slides under the deque strategy: the deque of the function, or its accumulator if it has
none. -/
def dequeContent (f : AggregateFunction) : Sliding :=
  match MonotoneDeque.empty? f with
  | some d => .deque d
  | none => .accumulator (.empty f)

/-- The aggregate at each of some points in the order of their instants. -/
def evaluate (w : WindowedAggregate) (s : Strategy) (ps : List SourcedPoint) :
    Except AccumulatorError (List Outcome) :=
  match s with
  | .rescan => (w.rescan ps).mapError .eval
  | .incremental => w.slide (.accumulator (.empty w.aggregate.function)) ps
  | .deque => w.slide (dequeContent w.aggregate.function) ps

end WindowedAggregate

end Hindsight
