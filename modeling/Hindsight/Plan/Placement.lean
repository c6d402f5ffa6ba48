import Hindsight.Expr.Basic
import Hindsight.Plan.Error

/-!
# Where references may stand

At the top level of a feature there is an observation but no event at hand, so attributes and
fields of an event have to be aggregated. Inside an aggregate there are both. A condition is about
an event alone. Aggregates do not nest and do not occur in conditions, and `*` stands only for the
events that an aggregate counts.
-/

namespace Hindsight

/-- What an expression may refer to. -/
inductive Position where
  /-- The top level of a feature. -/
  | projection
  /-- The argument or a clause of an aggregate. -/
  | aggregated
  /-- A condition on single events. -/
  | condition
deriving DecidableEq, Repr

namespace Expr

/-- Whether an expression is `*`. -/
def isWildcard : Expr → Bool
  | wildcard => true
  | _ => false

mutual

/-- Accept an expression at a position, or say what must not stand there. -/
def permit (p : Position) : Expr → Except CompileError Unit
  | aggregate function argument parameter _ filter selection => do
    if p ≠ .projection then throw (.structure_ (.nestedAggregate function))
    if !argument.isWildcard then permit .aggregated argument
    permitOption .aggregated parameter
    permitOption .aggregated filter
    permitSelection .aggregated selection
  | wildcard => throw (.structure_ .strayWildcard)
  | attr path =>
    if p = .projection then throw (.structure_ (.bareAttribute path)) else pure ()
  | field f => if p = .projection then throw (.structure_ (.bareField f)) else pure ()
  | observationTime | sourceAttr _ | entity .observation _ =>
    if p = .condition then throw (.structure_ .observationInCondition) else pure ()
  | list items => permitAll p items
  | unary _ operand => permit p operand
  | binary left _ right => do
    permit p left
    permit p right
  | call _ args => permitAll p args
  | literal _ | entity .event _ => pure ()

/-- Accept all of the expressions. -/
def permitAll (p : Position) : List Expr → Except CompileError Unit
  | [] => pure ()
  | e :: rest => do
    permit p e
    permitAll p rest

/-- Accept an expression if there is one. -/
def permitOption (p : Position) : Option Expr → Except CompileError Unit
  | none => pure ()
  | some e => permit p e

/-- Accept the expression of a selection. -/
def permitSelection (p : Position) : Selection → Except CompileError Unit
  | .all => pure ()
  | .groupBy key => permit p key
  | .having _ rank => permit p rank

end

end Expr
end Hindsight
