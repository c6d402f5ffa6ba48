import Hindsight.Dict
import Hindsight.Expr.Basic
import Hindsight.Plan.AggregateFunction
import Hindsight.Plan.ScalarFunction

/-!
# Formulas and plans

A formula is an expression whose functions are resolved and whose aggregates are lifted out: where
one stood there is the number of a slot. A feature is a formula together with the aggregates that
fill its slots; a condition is a formula about single events.

A formula is free of context when its value does not depend on the instant or on the source event
of an observation. A condition may pin the types of the events on which it can hold.
-/

namespace Hindsight

open Time (Window)

/-- A resolved expression. -/
inductive Formula where
  | literal (v : Value)
  | attr (path : String)
  | sourceAttr (path : String)
  | field (f : EventField)
  | entity (scope : EntityScope) (entityType : String)
  | observationTime
  | wildcard
  | list (items : List Formula)
  | unary (op : UnaryOperator) (operand : Formula)
  | binary (left : Formula) (op : Operator) (right : Formula)
  | call (function : ScalarFunction) (args : List Formula)
  /-- The value of an aggregate of the feature. -/
  | slot (n : Nat)

instance : Inhabited Formula := ⟨.wildcard⟩

namespace Formula

mutual

/-- Whether the value depends on neither the instant nor the source event of the observation. -/
def isContextFree : Formula → Bool
  | observationTime | sourceAttr _ => false
  | list items => areContextFree items
  | unary _ operand => isContextFree operand
  | binary left _ right => isContextFree left && isContextFree right
  | call _ args => areContextFree args
  | _ => true

/-- Whether all formulas are free of context. -/
def areContextFree : List Formula → Bool
  | [] => true
  | f :: rest => isContextFree f && areContextFree rest

end

mutual

/-- The attributes of the event at hand that occur in a formula, added to `found`. -/
def attributesInto (found : NameSet) : Formula → NameSet
  | attr path => found.insert path
  | list items => attributesOfAll found items
  | unary _ operand => attributesInto found operand
  | binary left _ right => attributesInto (attributesInto found left) right
  | call _ args => attributesOfAll found args
  | _ => found

/-- The attributes that occur in any of the formulas, added to `found`. -/
def attributesOfAll (found : NameSet) : List Formula → NameSet
  | [] => found
  | f :: rest => attributesOfAll (attributesInto found f) rest

end

/-- The attributes of the event at hand that occur in a formula. -/
def attributes (f : Formula) : NameSet := attributesInto .empty f

/-- The text of a literal text. -/
def literalText? : Formula → Option String
  | literal (.text s) => some s
  | _ => none

/-- The texts of a list of literal texts only. -/
def literalTexts? : List Formula → Option (List String)
  | [] => some []
  | f :: rest =>
    match literalText? f, literalTexts? rest with
    | some s, some ss => some (s :: ss)
    | _, _ => none

/-- Whether a formula is the type of the event at hand. -/
def isEventType : Formula → Bool
  | field .type => true
  | _ => false

/-- The event types on which a condition can hold, if it pins any: comparisons of the event type
with literal texts, joined by `and` and `or`. -/
def pinnedTypes : Formula → Option NameSet
  | binary left (.compare .eq) right =>
    if left.isEventType then right.literalText?.map fun t => NameSet.empty.insert t
    else if right.isEventType then left.literalText?.map fun t => NameSet.empty.insert t
    else none
  | binary left .isIn right =>
    match left.isEventType, right with
    | true, list items => (literalTexts? items).map NameSet.ofList
    | _, _ => none
  | binary left (.connect .and) right =>
    match pinnedTypes left, pinnedTypes right with
    | some l, some r => some (l.inter r)
    | some l, none => some l
    | none, r => r
  | binary left (.connect .or) right =>
    match pinnedTypes left, pinnedTypes right with
    | some l, some r => some (l.union r)
    | _, _ => none
  | _ => none

end Formula

/-- Which of the events of an aggregate are kept: those where a formula is least or greatest. -/
structure Ranking where
  extreme : Extreme
  rank : Formula

/-- An aggregate of a feature. -/
structure Aggregate where
  function : AggregateFunction
  argument : Formula
  window : Window
  filter : Option Formula
  groupBy : Option Formula
  having : Option Ranking
  /-- The event types that the filter pins, if any. -/
  eventTypes : Option NameSet

namespace Aggregate

/-- The filter, the group key and the rank, as far as there are any. -/
def clauses (a : Aggregate) : List Formula :=
  a.filter.toList ++ a.groupBy.toList ++ (a.having.map Ranking.rank).toList

/-- The attributes that the argument or a clause reads. -/
def attributes (a : Aggregate) : NameSet :=
  a.clauses.foldl (fun found f => found.union f.attributes) a.argument.attributes

/-- Whether argument and clauses are free of context. -/
def isContextFree (a : Aggregate) : Bool :=
  a.argument.isContextFree && a.clauses.all Formula.isContextFree

end Aggregate

/-- An output column: a formula over the values of aggregates. -/
structure Feature where
  name : String
  raw : String
  formula : Formula
  aggregates : List Aggregate

/-- The columns of a query in order. -/
structure FeatureSet where
  features : List Feature

/-- The names of the columns. -/
def FeatureSet.columns (s : FeatureSet) : List String := s.features.map Feature.name

/-- A condition on single events. -/
structure Condition where
  raw : String
  formula : Formula
  /-- The event types that the condition pins, if any. -/
  eventTypes : Option NameSet

end Hindsight
