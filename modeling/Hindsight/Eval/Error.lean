import Hindsight.Expr.Operator
import Hindsight.Plan.AggregateFunction
import Hindsight.Plan.ScalarFunction

/-!
# Faults of evaluation

Why a formula has no value, or an aggregate does not take one. Values appear by the names of their
kinds.
-/

namespace Hindsight

/-- Why evaluation fails. -/
inductive EvalError where
  | incomparable (left right : String) (c : Comparison)
  | noList (found : String)
  | inapplicable (op : Operator) (left right : String)
  | notNegatable (found : String)
  | uncomputedSlot (n : Nat)
  | argumentCount (f : ScalarFunction) (given : Nat)
  | argumentKind (f : ScalarFunction) (found : String)
  | noInstant (f : ScalarFunction) (found : String)
  | unreadableInstant (f : ScalarFunction) (text : String)
  | datePart (part : String)
  | datePattern (pattern : String)
  | outOfBounds (start length total : Int)
  | pattern (text : String)
  | noNumber (f : AggregateFunction) (found : String)
  | differentFunctions (f g : AggregateFunction)
deriving DecidableEq, Repr

namespace EvalError

/-- What is wrong, in words. -/
def text : EvalError → String
  | incomparable l r c => "Cannot compare " ++ l ++ " and " ++ r ++ " with " ++ c.symbol
  | noList found => "Right-hand side of 'in' must be a list, got " ++ found
  | inapplicable op l r => "Cannot apply " ++ op.symbol ++ " to " ++ l ++ " and " ++ r
  | notNegatable found => "Cannot negate " ++ found
  | uncomputedSlot n => "Aggregate slot " ++ toString n ++ " is not computed"
  | argumentCount f n => f.name ++ "() cannot take " ++ toString n ++ " argument(s)"
  | argumentKind f found => f.name ++ "() does not accept " ++ found
  | noInstant f found => f.name ++ "() expects a datetime, got " ++ found
  | unreadableInstant f s => f.name ++ "(): Invalid datetime: " ++ s
  | datePart p => "Invalid date part '" ++ p ++ "'"
  | datePattern p => "Invalid date format '" ++ p ++ "'"
  | outOfBounds start length total =>
    "substr(" ++ toString start ++ ", " ++ toString length ++
      ") out of bounds for a string of " ++ toString total ++ " characters"
  | pattern p => "Invalid regex pattern '" ++ p ++ "'"
  | noNumber f found => f.text ++ " expects a numeric argument, got " ++ found
  | differentFunctions f g => "Cannot merge " ++ f.text ++ " with " ++ g.text

/-- The message of an error. -/
def message (e : EvalError) : String := "Evaluation error: " ++ e.text

end EvalError

end Hindsight
