import Hindsight.Expr.Error
import Hindsight.Expr.Json
import Hindsight.Plan.AggregateFunction
import Hindsight.Plan.ScalarFunction
import Hindsight.Plan.ValueType

/-!
# Faults of features and conditions

Why the text of a feature or of a condition does not compile, or does not fit the schema.
-/

namespace Hindsight

/-- What is wrong with the structure of an expression. -/
inductive StructureFault where
  | nestedAggregate (function : String)
  | strayWildcard
  | bareAttribute (path : String)
  | bareField (f : EventField)
  | observationInCondition
  | missingWindow (function : String)
  | wildcardArgument (function : AggregateFunction)
  | backwardWindow (w : Time.Window)
  | position (function description : String)
deriving DecidableEq, Repr

/-- What is wrong, in words. -/
def StructureFault.message : StructureFault → String
  | nestedAggregate f =>
    "aggregate '" ++ f ++ "' cannot be nested inside another aggregate or a predicate"
  | strayWildcard => "'*' is only allowed as the argument of count"
  | bareAttribute a =>
    "attribute '" ++ a ++ "' must be aggregated; use @" ++ a ++ " for the observed event"
  | bareField f => "event field " ++ f.tag ++ " is only available inside an aggregate"
  | observationInCondition => "event predicates cannot reference the observation point"
  | missingWindow f => "aggregate '" ++ f ++ "' requires an OVER clause"
  | wildcardArgument f => "'*' is not a valid argument for " ++ f.text
  | backwardWindow w =>
    "time_of_next needs a forward window (next N <unit> or future), got '" ++ w.text ++ "'"
  | position f found =>
    "the position of " ++ f ++ " must be an integer literal, got " ++ found

/-- A place whose type is checked. -/
inductive TypedPlace where
  | aggregateArgument (function : AggregateFunction)
  | filterClause (function : AggregateFunction)
  | havingClause (function : AggregateFunction)
  | leftOperand (op : Operator)
  | rightOperand (op : Operator)
  | operand (op : UnaryOperator)
  | argument (function : ScalarFunction)
  | condition (raw : String)
deriving DecidableEq, Repr

/-- A place in words. -/
def TypedPlace.text : TypedPlace → String
  | aggregateArgument f => "argument of " ++ f.text
  | filterClause f => "WHERE clause of " ++ f.text
  | havingClause f => "HAVING clause of " ++ f.text
  | leftOperand op => "left operand of '" ++ op.symbol ++ "'"
  | rightOperand op => "right operand of '" ++ op.symbol ++ "'"
  | operand op => "operand of " ++ op.tag
  | argument f => "argument of " ++ f.name
  | condition raw => "condition '" ++ raw ++ "'"

/-- What is expected at a place. -/
inductive ExpectedType where
  | type (t : ValueType)
  | orderable
deriving DecidableEq, Repr

/-- An expected type in words. -/
def ExpectedType.text : ExpectedType → String
  | type t => t.name
  | orderable => "orderable value"

/-- Why a feature or a condition is refused. -/
inductive CompileError where
  | parse (text : String) (source : ParseError)
  | unknownFunction (name : String)
  | unknownAttribute (path : String) (eventTypes : List String)
  | duplicateName (name : String)
  | structure_ (fault : StructureFault)
  | typeMismatch (place : TypedPlace) (expected : ExpectedType) (found : ValueType)
  | arguments (function expected : String) (given : Nat)
deriving DecidableEq, Repr

/-- The message of an error. -/
def CompileError.message : CompileError → String
  | parse t source => "Failed to parse '" ++ t ++ "': " ++ source.message
  | unknownFunction n => "Unknown function: " ++ n
  | unknownAttribute a ts =>
    "Unknown attribute '" ++ a ++ "' for event types [" ++ ", ".intercalate ts ++ "]"
  | duplicateName n => "Duplicate feature name: " ++ n
  | structure_ fault => "Invalid expression: " ++ fault.message
  | typeMismatch place expected found =>
    "Type mismatch in " ++ place.text ++ ": expected " ++ expected.text ++ ", found " ++
      found.name
  | arguments f expected n =>
    "Function '" ++ f ++ "' expects " ++ expected ++ " argument(s), got " ++ toString n

end Hindsight
