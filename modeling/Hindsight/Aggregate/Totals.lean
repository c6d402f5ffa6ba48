import Hindsight.Dict
import Hindsight.Number.Word
import Hindsight.Value.Basic

/-!
# Tallies, totals and moments

How often each value is held, where two values are the same if they have the same kind and the same
text, so the integer 1 and the text 1 differ.

Integers are summed exactly. Floats are summed with a compensation for what rounding loses, so that
taking back a large one does not wipe out the small ones. Once no float is held any more the total
of the floats starts afresh.

The number of values, their mean and the sum of their squared deviations from it are kept up to date
as values are added and taken back and as two collections become one. The formulas need no more
than a field with an order, so they are given for any arithmetic. Values come one at a time, and no
run of them is long enough for its count to leave a word. Collections that become one again and
again are soon of any size, so there the counts are calculated with as words.
-/

namespace Hindsight

/-- What tells values apart: the kind and the text. -/
def Value.distinctKey (v : Value) : String := v.typeName ++ ":" ++ v.display

/-- How often each value is held; values that are not held do not appear. -/
structure DistinctTally where
  counts : Dict String Nat

namespace DistinctTally

/-- Nothing held. -/
def empty : DistinctTally := ⟨.empty⟩

/-- One more of a value. -/
def add (d : DistinctTally) (v : Value) : DistinctTally :=
  ⟨d.counts.update v.distinctKey 0 (· + 1)⟩

/-- One less of a value. -/
def subtract (d : DistinctTally) (v : Value) : DistinctTally :=
  match d.counts.get? v.distinctKey with
  | none => d
  | some n =>
    if n ≤ 1 then ⟨d.counts.erase v.distinctKey⟩ else ⟨d.counts.insert v.distinctKey (n - 1)⟩

/-- The values of both. -/
def merge (d e : DistinctTally) : DistinctTally :=
  ⟨e.counts.entries.foldl (fun c x => c.update x.1 0 (· + x.2)) d.counts⟩

/-- The number of different values. -/
def size (d : DistinctTally) : Nat := d.counts.size

end DistinctTally

/-- A sum of floats and what rounding has lost of it. -/
structure CompensatedSum where
  sum : Float
  lost : Float

namespace CompensatedSum

/-- The sum of nothing. -/
def zero : CompensatedSum := ⟨0.0, 0.0⟩

/-- The sum with one more summand. -/
def add (s : CompensatedSum) (x : Float) : CompensatedSum :=
  let t := s.sum + x
  ⟨t, s.lost + (if s.sum.abs >= x.abs then (s.sum - t) + x else (x - t) + s.sum)⟩

/-- The summands of both. -/
def merge (s t : CompensatedSum) : CompensatedSum :=
  let u := s.add t.sum
  { u with lost := u.lost + t.lost }

/-- The sum as a float. -/
def total (s : CompensatedSum) : Float := s.sum + s.lost

end CompensatedSum

/-- A sum of numbers. -/
structure Total where
  integers : Int
  floats : CompensatedSum
  floatCount : Nat
  count : Nat

namespace Total

/-- The sum of nothing. -/
def empty : Total := ⟨0, .zero, 0, 0⟩

/-- The sum with one more number. -/
def add (t : Total) (v : Value) : Total :=
  match v, v.float? with
  | .int n, _ => { t with integers := t.integers + n, count := t.count + 1 }
  | _, some x =>
    { t with floats := t.floats.add x, floatCount := t.floatCount + 1, count := t.count + 1 }
  | _, none => t

/-- The sum with one number less. -/
def subtract (t : Total) (v : Value) : Total :=
  match v, v.float? with
  | .int n, _ => { t with integers := t.integers - n, count := t.count - 1 }
  | _, some x =>
    { t with
      floats := if t.floatCount ≤ 1 then .zero else t.floats.add (-x)
      floatCount := t.floatCount - 1
      count := t.count - 1 }
  | _, none => t

/-- The numbers of both. -/
def merge (s t : Total) : Total :=
  ⟨s.integers + t.integers, s.floats.merge t.floats, s.floatCount + t.floatCount,
    s.count + t.count⟩

/-- The sum as a float. -/
def toFloat (t : Total) : Float := (t.floats.add (Number.toFloat t.integers)).total

/-- The sum: an integer if only integers are held and it fits 64 bits, null if nothing is held. -/
def sum (t : Total) : Value :=
  if t.count = 0 then .null
  else
    match (if t.floatCount = 0 then Number.word? t.integers else none) with
    | some n => .int n
    | none => .float t.toFloat

/-- The mean, null if nothing is held. -/
def mean (t : Total) : Value :=
  if t.count = 0 then .null else .float (t.toFloat / Float.ofNat t.count)

end Total

/-- An arithmetic in which one can count. -/
class OfCount (α : Type) where
  ofCount : Nat → α

instance : OfCount Float := ⟨Float.ofNat⟩

/-- The number, the mean and the squared deviations of some values. -/
structure Moments (α : Type) where
  count : Nat
  mean : α
  deviations : α

namespace Moments

variable {α : Type} [OfCount α]

/-- No values. -/
def empty : Moments α := ⟨0, OfCount.ofCount 0, OfCount.ofCount 0⟩

variable [Add α] [Sub α] [Mul α] [Div α]

/-- One more value. -/
def add (m : Moments α) (x : α) : Moments α :=
  let n := m.count + 1
  let delta := x - m.mean
  let mean := m.mean + delta / OfCount.ofCount n
  ⟨n, mean, m.deviations + delta * (x - mean)⟩

/-- One value less. -/
def subtract (m : Moments α) (x : α) : Moments α :=
  if m.count ≤ 1 then empty
  else
    let n : α := OfCount.ofCount m.count
    let mean := (n * m.mean - x) / (n - OfCount.ofCount 1)
    ⟨m.count - 1, mean, m.deviations - (x - m.mean) * (x - mean)⟩

/-- The values of both. The sum and the product of the counts are words before they are numbers of
the arithmetic, and nothing checks that they have room there. -/
def merge (m k : Moments α) : Moments α :=
  if m.count = 0 then k
  else if k.count = 0 then m
  else
    let n := Number.wrap (m.count + k.count)
    let delta := k.mean - m.mean
    ⟨n, m.mean + delta * OfCount.ofCount k.count / OfCount.ofCount n,
      m.deviations + k.deviations +
        delta * delta * OfCount.ofCount (Number.wrap (m.count * k.count)) / OfCount.ofCount n⟩

/-- The sample variance, for two values or more. -/
def sample? [LT α] [DecidableLT α] (m : Moments α) : Option α :=
  if m.count < 2 then none
  else
    let zero : α := OfCount.ofCount 0
    some ((if zero < m.deviations then m.deviations else zero) / OfCount.ofCount (m.count - 1))

end Moments

end Hindsight
