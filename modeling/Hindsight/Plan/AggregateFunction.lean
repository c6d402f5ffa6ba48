import Hindsight.Text.Basic

/-!
# Aggregate functions

What an aggregate makes of the values of the events in a window. A function that can take a value
back follows a moving window by adding and taking back; a function whose result is one of the
values follows it by keeping only the values that can still win. No function does both.
-/

namespace Hindsight

/-- A function of the values in a window. -/
inductive AggregateFunction where
  | count
  | countDistinct
  | sum
  | mean
  | min
  | max
  | first
  | last
  | median
  | variance
  | deviation
  | values
  | timeOfFirst
  | timeOfLast
  | timeOfNext
  /-- The value at a position, counted from the first if not negative and else from the last. -/
  | nth (n : Int)
  /-- The mean distance of consecutive events in days. -/
  | meanGap
deriving DecidableEq, Repr

namespace AggregateFunction

/-- The functions without a parameter. -/
def all : List AggregateFunction :=
  [count, countDistinct, sum, mean, min, max, first, last, median, variance, deviation, values,
   timeOfFirst, timeOfLast, timeOfNext, meanGap]

/-- The name of a function in an expression. -/
def name : AggregateFunction → String
  | count => "count"
  | countDistinct => "count_distinct"
  | sum => "sum"
  | mean => "avg"
  | min => "min"
  | max => "max"
  | first => "first"
  | last => "last"
  | median => "median"
  | variance => "var"
  | deviation => "stdev"
  | values => "values"
  | timeOfFirst => "time_of_first"
  | timeOfLast => "time_of_last"
  | timeOfNext => "time_of_next"
  | nth _ => "nth"
  | meanGap => "avg_days_between"

/-- The function of a name without regard to case; some functions have several names. -/
def ofName? (s : String) : Option AggregateFunction :=
  match Text.asciiLower s with
  | "count" => some count
  | "count_distinct" => some countDistinct
  | "sum" => some sum
  | "avg" | "mean" => some mean
  | "min" => some min
  | "max" => some max
  | "first" => some first
  | "last" => some last
  | "median" => some median
  | "var" | "variance" => some variance
  | "stdev" | "stddev" => some deviation
  | "values" => some values
  | "time_of_first" => some timeOfFirst
  | "time_of_last" => some timeOfLast
  | "time_of_next" => some timeOfNext
  | "avg_days_between" | "avg_time_between" => some meanGap
  | _ => none

/-- The name of a function in a compiled plan. -/
def tag : AggregateFunction → String
  | mean => "avg"
  | variance => "variance"
  | deviation => "std_dev"
  | f => f.name

/-- The function without a parameter of that name in a compiled plan. -/
def ofTag? (s : String) : Option AggregateFunction := all.find? fun f => f.tag == s

/-- A function is read back from its name in a plan, if it is one of those with a fixed name. -/
theorem ofTag?_tag {f : AggregateFunction} (h : f ∈ all) : ofTag? f.tag = some f := by
  simp only [all, List.mem_cons, List.not_mem_nil, or_false] at h
  rcases h with rfl | rfl | rfl | rfl | rfl | rfl | rfl | rfl | rfl | rfl | rfl | rfl | rfl |
    rfl | rfl | rfl <;> rfl

/-- The text of a function in messages. -/
def text : AggregateFunction → String
  | nth n => "nth(" ++ toString n ++ ")"
  | f => f.name

/-- Whether a name asks for a position as the second argument. -/
def takesPosition (name : String) : Bool := Text.sameWord name "nth"

/-- Whether the result is the time of an event. -/
def isTimeValued : AggregateFunction → Bool
  | timeOfFirst | timeOfLast | timeOfNext => true
  | _ => false

/-- Whether a value can be taken back. -/
def isSubtractable : AggregateFunction → Bool
  | count | countDistinct | sum | mean | variance | deviation => true
  | _ => false

/-- Whether the result is decided by the values that can still win. -/
def isSelective : AggregateFunction → Bool
  | min | max | first | last | timeOfFirst | timeOfLast | timeOfNext => true
  | _ => false

/-- Whether only numbers are accepted. -/
def isNumeric : AggregateFunction → Bool
  | sum | mean | median | variance | deviation => true
  | _ => false

/-- Whether whole events can be given instead of values. -/
def acceptsWildcard : AggregateFunction → Bool
  | count => true
  | _ => false

end AggregateFunction

end Hindsight
