import Hindsight.Time.Instant
import Hindsight.Time.Unit

/-!
# Windows

A window is a span of time relative to an instant of observation: the last or next few units, all
the past or future, everything, or the calendar year or month up to the instant. Resolved at an
instant it gives a pair of bounds. An event stamped exactly at the instant belongs to the past side
if the `inclusive` flag is set and to the future side otherwise.
-/

namespace Hindsight
namespace Time

/-- A span of time relative to an instant. -/
inductive Window where
  | last (n : Int) (unit : TimeUnit)
  | next (n : Int) (unit : TimeUnit)
  | past
  | future
  | allTime
  | yearToDate
  | monthToDate
deriving DecidableEq, Repr

/-- One end of an interval of instants. -/
inductive Bound where
  | included (t : Instant)
  | excluded (t : Instant)
  | unbounded
deriving DecidableEq

/-- An interval of instants. -/
structure Bounds where
  lower : Bound
  upper : Bound
deriving DecidableEq

namespace Bounds

/-- The interval of all instants. -/
def all : Bounds := ⟨.unbounded, .unbounded⟩

/-- Whether an instant lies below the lower bound. -/
def isBefore (b : Bounds) (t : Instant) : Bool :=
  match b.lower with
  | .included l => decide (t < l)
  | .excluded l => decide (t ≤ l)
  | .unbounded => false

/-- Whether an instant does not lie above the upper bound. -/
def reaches (b : Bounds) (t : Instant) : Bool :=
  match b.upper with
  | .included u => decide (t ≤ u)
  | .excluded u => decide (t < u)
  | .unbounded => true

/-- Whether an instant lies between the bounds. -/
def contains (b : Bounds) (t : Instant) : Bool := !b.isBefore t && b.reaches t

end Bounds

namespace Window

/-- A window that ends at the instant. -/
def isPastLooking : Window → Bool
  | last .. | past | yearToDate | monthToDate => true
  | _ => false

/-- A window that starts at the instant. -/
def isFutureLooking : Window → Bool
  | next .. | future => true
  | _ => false

/-- The end of the past at an instant. -/
def pastEnd (inclusive : Bool) (at_ : Instant) : Bound :=
  if inclusive then .included at_ else .excluded at_

/-- The start of the future at an instant. -/
def futureStart (inclusive : Bool) (at_ : Instant) : Bound :=
  if inclusive then .excluded at_ else .included at_

/-- The start of a month, unbounded if it is out of range. -/
def monthStart (year : Int) (month : Nat) : Bound :=
  match Instant.midnight? ⟨year, month, 1⟩ with
  | some t => .included t
  | none => .unbounded

/-- The instant a number of units after another, if it can be represented. -/
def shifted (t : Instant) (unit : TimeUnit) (n : Int) : Option Instant :=
  (unit.length? n).bind t.addMillis

/-- The instant a number of units before another, if it can be represented. -/
def shiftedBack (t : Instant) (unit : TimeUnit) (n : Int) : Option Instant :=
  (unit.length? n).bind fun ms => t.addMillis (-ms)

/-- The bounds of a window at an instant. A window of fixed length takes in the event at its far
end exactly if it leaves out the one at the instant, or the other way round; a far end that cannot
be represented is unbounded. -/
def bounds (w : Window) (at_ : Instant) (inclusive : Bool) : Bounds :=
  match w with
  | last n unit =>
    { lower := match shiftedBack at_ unit n with
        | some start => if inclusive then .excluded start else .included start
        | none => .unbounded
      upper := pastEnd inclusive at_ }
  | next n unit =>
    { lower := futureStart inclusive at_
      upper := match shifted at_ unit n with
        | some stop => if inclusive then .included stop else .excluded stop
        | none => .unbounded }
  | past => { lower := .unbounded, upper := pastEnd inclusive at_ }
  | future => { lower := futureStart inclusive at_, upper := .unbounded }
  | allTime => .all
  | yearToDate => { lower := monthStart at_.civil.year 1, upper := pastEnd inclusive at_ }
  | monthToDate =>
    { lower := monthStart at_.civil.year at_.civil.month, upper := pastEnd inclusive at_ }

/-- The text of a window in an expression. -/
def text : Window → String
  | last n unit => "last " ++ toString n ++ " " ++ unit.name
  | next n unit => "next " ++ toString n ++ " " ++ unit.name
  | past => "past"
  | future => "future"
  | allTime => "all time"
  | yearToDate => "ytd"
  | monthToDate => "mtd"

end Window

end Time
end Hindsight
