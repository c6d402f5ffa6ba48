import Hindsight.Expr.Basic
import Hindsight.Value.Basic

/-!
# Inputs, and selections by size and by time

What an accumulator takes is the value that an event contributes and the time of the event. Kept of
such inputs are the least or greatest value, the earliest or latest input, all inputs in the order
of time, the median, and the mean distance of consecutive inputs. Of inputs at the same time the one
added first is the earliest and the one added last the latest.
-/

namespace Hindsight

open Time (Instant)

/-- A value at a time. -/
structure Input where
  time : Instant
  value : Value

/-- The order of a value to the best so far that makes it the best. -/
def Extreme.wanted : Extreme → Ordering
  | min => .lt
  | max => .gt

/-- Whether a value is better than another. Values that do not compare are not. -/
def Extreme.wins (x : Extreme) (candidate current : Value) : Bool :=
  candidate.compare current == some x.wanted

/-- The better of the best value so far and another; the first of equally good values stays. -/
def Extreme.offer (x : Extreme) (best : Option Value) (v : Value) : Option Value :=
  match best with
  | none => some v
  | some current => if x.wins v current then some v else some current

/-- The earlier of the input held and another. -/
def earlier (held : Option Input) (i : Input) : Option Input :=
  match held with
  | none => some i
  | some h => if i.time < h.time then some i else some h

/-- The later of the input held and another. -/
def later (held : Option Input) (i : Input) : Option Input :=
  match held with
  | none => some i
  | some h => if h.time ≤ i.time then some i else some h

/-- Inputs in the order in which they were added, or of time once collections became one. -/
abbrev Series := List Input

namespace Series

/-- The inputs of both in the order of time; of equal times those of the first come first. -/
def merge (s t : Series) : Series := (s ++ t).mergeSort fun a b => decide (a.time ≤ b.time)

/-- The values. -/
def values (s : Series) : List Value := s.map Input.value

/-- The place that a number means, counted from the end if negative. -/
def place? (s : Series) (n : Int) : Option Nat :=
  if 0 ≤ n then some n.toNat
  else if n.natAbs ≤ s.length then some (s.length - n.natAbs) else none

/-- The value at a place, null if there is none. -/
def nth (s : Series) (n : Int) : Value :=
  (((s.place? n).bind fun i => s[i]?).map Input.value).getD .null

end Series

/-- The place of a float in the order of all floats, in which also -0 and the NaNs have one. -/
def totalKey (x : Float) : Int :=
  let magnitude : Int := (x.toBits.toNat % 9223372036854775808 : Nat)
  if Number.signBit x then -magnitude - 1 else magnitude

/-- The place of a number in that order, in which the NaN with its sign set comes first. -/
def Value.totalKey : Value → Int
  | negativeNaN => -Hindsight.totalKey Number.nan
  | v => (v.float?.map Hindsight.totalKey).getD 0

/-- The middle of numbers in their order, or the mean of the two middle ones. -/
def median (numbers : List Value) : Value :=
  let sorted := numbers.mergeSort fun v w => decide (v.totalKey ≤ w.totalKey)
  let mid := sorted.length / 2
  let at? (i : Nat) : Option Float := (sorted[i]?).bind Value.float?
  if sorted.length % 2 = 1 then ((at? mid).map Value.float).getD .null
  else
    match at? (mid - 1), at? mid with
    | some x, some y => .float ((x + y) / 2.0)
    | _, _ => .null

/-- The earliest and the latest of some times, and their number. -/
structure Span where
  first : Option Instant
  last : Option Instant
  count : Nat

namespace Span

/-- No times. -/
def empty : Span := ⟨none, none, 0⟩

/-- The earlier of two times. -/
def least (s t : Instant) : Instant := if t < s then t else s

/-- The later of two times. -/
def greatest (s t : Instant) : Instant := if t < s then s else t

/-- One of two times, or the one there is. -/
def combine (pick : Instant → Instant → Instant) : Option Instant → Option Instant → Option Instant
  | some s, some t => some (pick s t)
  | s, t => s.or t

/-- One more time. -/
def add (s : Span) (t : Instant) : Span :=
  ⟨combine least s.first (some t), combine greatest s.last (some t), s.count + 1⟩

/-- The times of both. -/
def merge (s t : Span) : Span :=
  ⟨combine least s.first t.first, combine greatest s.last t.last, s.count + t.count⟩

/-- The milliseconds of a day. -/
def millisPerDay : Float := 86400000.0

/-- The mean distance of consecutive times in days, for two times or more. -/
def meanGap (s : Span) : Value :=
  match s.first, s.last with
  | some first, some last =>
    if 2 ≤ s.count then
      .float (Number.toFloat (last.millisSince first) / millisPerDay /
        Float.ofNat (s.count - 1))
    else .null
  | _, _ => .null

end Span

end Hindsight
