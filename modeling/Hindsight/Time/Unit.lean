import Hindsight.Number.Word
import Hindsight.Text.Basic

/-!
# Units of time

The units in which a window or a step is measured, with their names and lengths.
-/

namespace Hindsight
namespace Time

/-- A unit of fixed length. -/
inductive TimeUnit where
  | millisecond
  | second
  | minute
  | hour
  | day
  | week
deriving DecidableEq, Repr

namespace TimeUnit

/-- The units from short to long. -/
def all : List TimeUnit := [millisecond, second, minute, hour, day, week]

/-- The name of a unit. -/
def name : TimeUnit → String
  | millisecond => "millisecond"
  | second => "second"
  | minute => "minute"
  | hour => "hour"
  | day => "day"
  | week => "week"

/-- The length of a unit in milliseconds. -/
def millis : TimeUnit → Int
  | millisecond => 1
  | second => 1000
  | minute => 60000
  | hour => 3600000
  | day => 86400000
  | week => 604800000

/-- The unit of this exact name. -/
def ofName? (s : String) : Option TimeUnit := all.find? fun u => u.name == s

/-- The unit of a word, whatever its case, with or without one plural `s`. -/
def ofWord? (s : String) : Option TimeUnit :=
  let cs := (Text.asciiLower s).toList
  ofName? (String.ofList (if cs.getLast? = some 's' then cs.dropLast else cs))

/-- The length of `n` units in milliseconds; lengths of 2⁶³ milliseconds and more are not
represented. -/
def length? (u : TimeUnit) (n : Int) : Option Int :=
  let ms := n * u.millis
  if -Number.maxWord ≤ ms ∧ ms ≤ Number.maxWord then some ms else none

/-- A unit is read back from its name. -/
theorem ofName?_name (u : TimeUnit) : ofName? u.name = some u := by cases u <;> rfl

/-- A positive number of units has a positive length. -/
theorem mul_millis_pos (u : TimeUnit) {n : Int} (positive : 0 < n) : 0 < n * u.millis :=
  Int.mul_pos positive (by cases u <;> decide)

/-- A length is that of so many units, if it fits a word of milliseconds with either sign. -/
theorem length?_eq_some_iff {u : TimeUnit} {n ms : Int} : u.length? n = some ms ↔
    (-Number.maxWord ≤ n * u.millis ∧ n * u.millis ≤ Number.maxWord) ∧ n * u.millis = ms := by
  simp only [length?, Option.ite_none_right_eq_some, Option.some.injEq]

/-- Lengths forwards and backwards fit alike, so a window and its opposite are refused together. -/
theorem length?_neg (u : TimeUnit) (n : Int) : u.length? (-n) = (u.length? n).map (-·) := by
  simp only [length?, Int.neg_mul]
  split <;> split <;> first | rfl | omega

end TimeUnit

end Time
end Hindsight
