import Hindsight.Aggregate.Ordered
import Hindsight.Aggregate.Totals
import Hindsight.Eval.Error
import Hindsight.Plan.AggregateFunction

/-!
# Accumulators

An accumulator takes one input after the other and has a value at any time. Two accumulators of
one function make one for the inputs of both. Null is passed over by all functions. A function that
is subtractable can take an input back.

Counters and totals of integers have no bounds here, since those of an accumulator that is reached
by adding, taking back and merging fit their words (`Accumulator.Live.inRange`,
`Accumulator.Gathers.inRange`).
-/

namespace Hindsight

/-- What a function has to remember of its inputs. -/
inductive Accumulator where
  | count (n : Int)
  | countDistinct (d : DistinctTally)
  | sum (t : Total)
  | mean (t : Total)
  | variance (m : Moments Float)
  | deviation (m : Moments Float)
  | min (best : Option Value)
  | max (best : Option Value)
  | first (held : Option Input)
  | last (held : Option Input)
  | timeOfFirst (held : Option Input)
  | timeOfLast (held : Option Input)
  | timeOfNext (held : Option Input)
  | nth (n : Int) (s : Series)
  | median (numbers : List Value)
  | values (s : Series)
  | meanGap (s : Span)

/-- Why an accumulator does not change. -/
inductive AccumulatorError where
  | eval (e : EvalError)
  | notSubtractable (f : AggregateFunction)
deriving DecidableEq, Repr

/-- The message of an error. -/
def AccumulatorError.message : AccumulatorError → String
  | eval e => e.message
  | notSubtractable f => "Aggregate '" ++ f.name ++ "' does not support subtraction"

namespace Accumulator

/-- The accumulator of a function without inputs. -/
def empty : AggregateFunction → Accumulator
  | .count => count 0
  | .countDistinct => countDistinct .empty
  | .sum => sum .empty
  | .mean => mean .empty
  | .variance => variance .empty
  | .deviation => deviation .empty
  | .min => min none
  | .max => max none
  | .first => first none
  | .last => last none
  | .timeOfFirst => timeOfFirst none
  | .timeOfLast => timeOfLast none
  | .timeOfNext => timeOfNext none
  | .nth n => nth n []
  | .median => median []
  | .values => values []
  | .meanGap => meanGap .empty

/-- The function of an accumulator. -/
def function : Accumulator → AggregateFunction
  | count _ => .count
  | countDistinct _ => .countDistinct
  | sum _ => .sum
  | mean _ => .mean
  | variance _ => .variance
  | deviation _ => .deviation
  | min _ => .min
  | max _ => .max
  | first _ => .first
  | last _ => .last
  | timeOfFirst _ => .timeOfFirst
  | timeOfLast _ => .timeOfLast
  | timeOfNext _ => .timeOfNext
  | nth n _ => .nth n
  | median _ => .median
  | values _ => .values
  | meanGap _ => .meanGap

/-- An empty accumulator has the function that it was made for. -/
theorem function_empty (f : AggregateFunction) : (empty f).function = f := by cases f <;> rfl

/-- Add to moments what is a number. -/
def addNumber (m : Moments Float) (v : Value) : Moments Float :=
  match v.float? with
  | some x => m.add x
  | none => m

/-- Take from moments what is a number. -/
def subtractNumber (m : Moments Float) (v : Value) : Moments Float :=
  match v.float? with
  | some x => m.subtract x
  | none => m

/-- The accumulator with one more input, which the function accepts. -/
def absorb (a : Accumulator) (i : Input) : Accumulator :=
  match a with
  | count n => count (n + 1)
  | countDistinct d => countDistinct (d.add i.value)
  | sum t => sum (t.add i.value)
  | mean t => mean (t.add i.value)
  | variance m => variance (addNumber m i.value)
  | deviation m => deviation (addNumber m i.value)
  | min best => min (Extreme.min.offer best i.value)
  | max best => max (Extreme.max.offer best i.value)
  | first held => first (earlier held i)
  | last held => last (later held i)
  | timeOfFirst held => timeOfFirst (earlier held i)
  | timeOfLast held => timeOfLast (later held i)
  | timeOfNext held => timeOfNext (earlier held i)
  | nth n s => nth n (s ++ [i])
  | median xs => median (xs ++ [i.value])
  | values s => values (s ++ [i])
  | meanGap s => meanGap (s.add i.time)

/-- The accumulator with one input less, which the function accepts, if it can take inputs
back. -/
def retract? (a : Accumulator) (i : Input) : Option Accumulator :=
  match a with
  | count n => some (count (n - 1))
  | countDistinct d => some (countDistinct (d.subtract i.value))
  | sum t => some (sum (t.subtract i.value))
  | mean t => some (mean (t.subtract i.value))
  | variance m => some (variance (subtractNumber m i.value))
  | deviation m => some (deviation (subtractNumber m i.value))
  | _ => none

/-- Whether a function takes a value into account. -/
def accepts (f : AggregateFunction) (v : Value) : Except EvalError Bool :=
  if v.isNull then .ok false
  else if f.isNumeric && !v.isNumeric then .error (.noNumber f v.typeName)
  else .ok true

/-- The accumulator with one more input. -/
def add (a : Accumulator) (i : Input) : Except EvalError Accumulator := do
  if ← accepts a.function i.value then return a.absorb i else return a

/-- The accumulator with one input less. -/
def subtract (a : Accumulator) (i : Input) : Except AccumulatorError Accumulator := do
  if ← (accepts a.function i.value).mapError .eval then
    match a.retract? i with
    | some b => return b
    | none => throw (.notSubtractable a.function)
  else return a

/-- The accumulator of the inputs of both. -/
def merge (a b : Accumulator) : Except EvalError Accumulator :=
  match a, b with
  | count m, count n => .ok (count (m + n))
  | countDistinct d, countDistinct e => .ok (countDistinct (d.merge e))
  | sum s, sum t => .ok (sum (s.merge t))
  | mean s, mean t => .ok (mean (s.merge t))
  | variance m, variance k => .ok (variance (m.merge k))
  | deviation m, deviation k => .ok (deviation (m.merge k))
  | min s, min t => .ok (min (t.elim s fun v => Extreme.min.offer s v))
  | max s, max t => .ok (max (t.elim s fun v => Extreme.max.offer s v))
  | first s, first t => .ok (first (t.elim s fun i => earlier s i))
  | last s, last t => .ok (last (t.elim s fun i => later s i))
  | timeOfFirst s, timeOfFirst t => .ok (timeOfFirst (t.elim s fun i => earlier s i))
  | timeOfLast s, timeOfLast t => .ok (timeOfLast (t.elim s fun i => later s i))
  | timeOfNext s, timeOfNext t => .ok (timeOfNext (t.elim s fun i => earlier s i))
  | nth m s, nth n t =>
    if m = n then .ok (nth m (s.merge t)) else .error (.differentFunctions (.nth m) (.nth n))
  | median xs, median ys => .ok (median (xs ++ ys))
  | values s, values t => .ok (values (s.merge t))
  | meanGap s, meanGap t => .ok (meanGap (s.merge t))
  | a, b => .error (.differentFunctions a.function b.function)

/-- The value of an input held, null if there is none. -/
def heldValue (held : Option Input) : Value := (held.map Input.value).getD .null

/-- The time of an input held, null if there is none. -/
def heldTime (held : Option Input) : Value :=
  (held.map fun i => Value.instant i.time).getD .null

/-- The value of an accumulator. -/
def value : Accumulator → Value
  | count n => .int n
  | countDistinct d => .int d.size
  | sum t => t.sum
  | mean t => t.mean
  | variance m => (m.sample?.map Value.float).getD .null
  | deviation m => (m.sample?.map fun x => Value.float x.sqrt).getD .null
  | min best | max best => best.getD .null
  | first held | last held => heldValue held
  | timeOfFirst held | timeOfLast held | timeOfNext held => heldTime held
  | nth n s => s.nth n
  | median xs => Hindsight.median xs
  | values s => .list s.values
  | meanGap s => s.meanGap

end Accumulator

end Hindsight
