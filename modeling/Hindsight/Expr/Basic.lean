import Hindsight.Expr.Operator
import Hindsight.Time.Window
import Hindsight.Value.Basic

/-!
# Expressions

The syntax tree of a feature: references to an event, to the observation and to entities, literals,
operators, calls, and aggregates over a window of time. Names of functions stand in the tree as
they were written. An aggregate may split its events into groups or keep only those where some
expression is least or greatest, but not both.
-/

namespace Hindsight

open Time (Window)

/-- Whose entities a reference names: those of the observation or those of the event at hand. -/
inductive EntityScope where
  | observation
  | event
deriving DecidableEq, Repr

/-- A field that every event has. -/
inductive EventField where
  | type
  | time
  | id
deriving DecidableEq, Repr

/-- Which end of an order is kept. -/
inductive Extreme where
  | min
  | max
deriving DecidableEq, Repr

mutual

/-- An expression. -/
inductive Expr where
  | literal (v : Value)
  /-- An attribute of the event at hand. -/
  | attr (path : String)
  /-- An attribute of the event that the observation was taken from. -/
  | sourceAttr (path : String)
  | field (f : EventField)
  | entity (scope : EntityScope) (entityType : String)
  /-- The instant of the observation. -/
  | observationTime
  | wildcard
  | list (items : List Expr)
  | unary (op : UnaryOperator) (operand : Expr)
  | binary (left : Expr) (op : Operator) (right : Expr)
  | call (name : String) (args : List Expr)
  | aggregate (function : String) (argument : Expr) (parameter : Option Expr) (window : Window)
      (filter : Option Expr) (selection : Selection)

/-- What an aggregate does with the events that pass its filter. -/
inductive Selection where
  | all
  | groupBy (key : Expr)
  | having (extreme : Extreme) (rank : Expr)

end

instance : Inhabited Expr := ⟨.wildcard⟩

/-- The expression of a selection. -/
def Selection.expr? : Selection → Option Expr
  | all => none
  | groupBy key => some key
  | having _ rank => some rank

namespace Expr

/-- The direct parts of an expression. -/
def children : Expr → List Expr
  | list items => items
  | unary _ operand => [operand]
  | binary left _ right => [left, right]
  | call _ args => args
  | aggregate _ argument parameter _ filter selection =>
    argument :: parameter.toList ++ filter.toList ++ selection.expr?.toList
  | _ => []

mutual

/-- Whether an aggregate occurs in an expression. -/
def containsAggregate : Expr → Bool
  | list items => anyContainsAggregate items
  | unary _ operand => containsAggregate operand
  | binary left _ right => containsAggregate left || containsAggregate right
  | call _ args => anyContainsAggregate args
  | aggregate .. => true
  | _ => false

/-- Whether an aggregate occurs in any of the expressions. -/
def anyContainsAggregate : List Expr → Bool
  | [] => false
  | e :: rest => containsAggregate e || anyContainsAggregate rest

end

end Expr

/-- A feature as it is written: an expression and perhaps a name for it. -/
structure FeatureText where
  /-- The text without the blanks around it. -/
  raw : String
  expr : Expr
  alias? : Option String

/-- The name of a feature: the one given, or else its text. -/
def FeatureText.name (f : FeatureText) : String := f.alias?.getD f.raw

end Hindsight
