import Hindsight.Number.Reading
import Hindsight.Number.Shortest
import Hindsight.Number.Word
import Hindsight.Time.Text

/-!
# Values

What an attribute of an event holds and what a feature evaluates to. Integers and floats are kept
apart, but compare with each other as numbers. Two values of different kinds are neither smaller
nor greater than each other, and null compares with nothing.

A float that is no number has no size, but it has a sign, which decides its place where the floats
are put into a total order. `float` holds it without a sign and `negativeNaN` is the one with its
sign set; in all else the two are alike.

`same` is equality of structure, in which an integer never equals a float; `looselyEquals` differs
from it for two numbers only, which it compares by size.
-/

namespace Hindsight

open Time (Instant)

/-- A value. The entries of a map are in increasing order of their keys. -/
inductive Value where
  | null
  | bool (b : Bool)
  | int (n : Int)
  | float (x : Float)
  | negativeNaN
  | text (s : String)
  | instant (t : Instant)
  | list (items : List Value)
  | map (entries : List (String × Value))

namespace Value

instance : Inhabited Value := ⟨.null⟩

/-- Whether a value is null. -/
def isNull : Value → Bool
  | null => true
  | _ => false

/-- Whether a value is an integer or a float. -/
def isNumeric : Value → Bool
  | int _ | float _ | negativeNaN => true
  | _ => false

/-- The float that a text denotes. -/
def ofFloatText? (s : String) : Option Value :=
  (Number.float? s).map fun x =>
    if Number.isNaN x && s.toList.head? == some '-' then negativeNaN else float x

/-- A number as a float. -/
def float? : Value → Option Float
  | int n => some (Number.toFloat n)
  | float x => some x
  | negativeNaN => some Number.nan
  | _ => none

/-- Whether a value is a float that is no number. -/
def isNaN : Value → Bool
  | float x => Number.isNaN x
  | negativeNaN => true
  | _ => false

/-- The text of a text value. -/
def text? : Value → Option String
  | text s => some s
  | _ => none

/-- The truth value of a boolean. -/
def bool? : Value → Option Bool
  | bool b => some b
  | _ => none

/-- The instant of an instant value. -/
def instant? : Value → Option Instant
  | instant t => some t
  | _ => none

/-- The name of the kind of a value in messages. -/
def typeName : Value → String
  | null => "null"
  | bool _ => "bool"
  | int _ => "int"
  | float _ | negativeNaN => "float"
  | text _ => "string"
  | instant _ => "datetime"
  | list _ => "list"
  | map _ => "map"

/-- The order of two floats; a NaN has none. -/
def compareFloats (x y : Float) : Option Ordering :=
  if x < y then some .lt else if x == y then some .eq else if y < x then some .gt else none

/-- The order of two values, if they are comparable. -/
def compare (v w : Value) : Option Ordering :=
  match v, w with
  | int m, int n => some (Ord.compare m n)
  | int m, float y => compareFloats (Number.toFloat m) y
  | float x, int n => compareFloats x (Number.toFloat n)
  | float x, float y => compareFloats x y
  | text s, text t => some (Ord.compare s t)
  | bool a, bool b => some (Ord.compare a b)
  | instant s, instant t => some (Ord.compare s t)
  | _, _ => none

mutual

/-- Equality of structure. Floats are equal as numbers are, so a NaN differs from itself. -/
def same : Value → Value → Bool
  | null, null => true
  | bool a, bool b => a == b
  | int m, int n => m == n
  | float x, float y => x == y
  | text s, text t => s == t
  | instant s, instant t => s == t
  | list xs, list ys => sameItems xs ys
  | map es, map fs => sameEntries es fs
  | _, _ => false

/-- Equality of items. -/
def sameItems : List Value → List Value → Bool
  | [], [] => true
  | x :: xs, y :: ys => same x y && sameItems xs ys
  | _, _ => false

/-- Equality of entries. -/
def sameEntries : List (String × Value) → List (String × Value) → Bool
  | [], [] => true
  | (k, x) :: xs, (l, y) :: ys => k == l && same x y && sameEntries xs ys
  | _, _ => false

end

/-- Equality that compares two numbers by size. -/
def looselyEquals (v w : Value) : Bool :=
  if v.isNumeric && w.isNumeric then v.compare w == some .eq else same v w

mutual

/-- The text that stands for a value in keys and messages. -/
def display : Value → String
  | null => "null"
  | bool b => if b then "true" else "false"
  | int n => toString n
  | float x => Number.floatText x
  | negativeNaN => Number.floatText Number.nan
  | text s => s
  | instant t => t.text
  | list items => "[" ++ displayItems true items ++ "]"
  | map entries => "\x7b" ++ displayEntries true entries ++ "\x7d"

/-- The texts of items, separated by commas. -/
def displayItems (first : Bool) : List Value → String
  | [] => ""
  | v :: rest => (if first then "" else ", ") ++ display v ++ displayItems false rest

/-- The texts of entries, separated by commas. -/
def displayEntries (first : Bool) : List (String × Value) → String
  | [] => ""
  | (k, v) :: rest =>
    (if first then "" else ", ") ++ k ++ ": " ++ display v ++ displayEntries false rest

end

end Value

end Hindsight
