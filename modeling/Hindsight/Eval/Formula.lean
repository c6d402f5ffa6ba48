import Hindsight.Eval.Function
import Hindsight.Observation.Point
import Hindsight.Plan.Formula

/-!
# Values of formulas

A formula reads from a context: an observation, the event that the observation was taken from, the
event at hand, and the values of aggregates. What the context does not have is null, except for a
slot without a value. As a condition a formula holds when its value is the truth value true.
-/

namespace Hindsight

/-- What a formula may read. -/
structure EvalContext where
  point : Option ObservationPoint
  /-- The event that the observation was taken from. -/
  source : Option Event
  /-- The event at hand. -/
  event : Option Event
  /-- The values of aggregates by their slots. -/
  slots : List Value

namespace EvalContext

/-- A context with an observation and its event. -/
def ofPoint (p : ObservationPoint) (source : Option Event) : EvalContext :=
  ⟨some p, source, none, []⟩

/-- A context with an event alone. -/
def ofEvent (e : Event) : EvalContext := ⟨none, none, some e, []⟩

/-- The context with an event at hand. -/
def withEvent (ctx : EvalContext) (e : Event) : EvalContext := { ctx with event := some e }

/-- The context with values of aggregates. -/
def withSlots (ctx : EvalContext) (vs : List Value) : EvalContext := { ctx with slots := vs }

/-- The id of an entity of the observation. -/
def observed? (ctx : EvalContext) (entityType : String) : Option String :=
  ctx.point.bind fun p => p.context.get? entityType

/-- The id of an entity. Where no event is at hand the event of the observation stands for it, and
then the observation itself. -/
def entity? (ctx : EvalContext) (scope : EntityScope) (entityType : String) : Option String :=
  match scope with
  | .observation => ctx.observed? entityType
  | .event =>
    match ctx.event with
    | some e => e.entities.get? entityType
    | none =>
      (ctx.source.bind fun e => e.entities.get? entityType).or (ctx.observed? entityType)

end EvalContext

/-- A text or null. -/
def Value.ofText? (s : Option String) : Value := (s.map Value.text).getD .null

/-- A field of an event. -/
def EventField.read (f : EventField) (e : Event) : Value :=
  match f with
  | type => .text e.type
  | time => .instant e.time
  | id => .ofText? e.id

namespace Formula

mutual

/-- The value of a formula. -/
def evaluate (ctx : EvalContext) : Formula → Except EvalError Value
  | literal v => .ok v
  | attr path => .ok ((ctx.event.map fun e => e.attr path).getD .null)
  | sourceAttr path => .ok ((ctx.source.map fun e => e.attr path).getD .null)
  | field f => .ok ((ctx.event.map f.read).getD .null)
  | entity scope entityType => .ok (.ofText? (ctx.entity? scope entityType))
  | observationTime => .ok ((ctx.point.map fun p => Value.instant p.instant).getD .null)
  | wildcard => .ok (.bool true)
  | list items => do return .list (← evaluateAll ctx items)
  | unary op operand => do op.apply (← evaluate ctx operand)
  | binary left op right => do
    let l ← evaluate ctx left
    match op.shortCut? l with
    | some v => return v
    | none => op.apply l (← evaluate ctx right)
  | call f args => do f.apply (← evaluateAll ctx args)
  | slot n =>
    match ctx.slots[n]? with
    | some v => .ok v
    | none => .error (.uncomputedSlot n)

/-- The values of formulas from left to right. -/
def evaluateAll (ctx : EvalContext) : List Formula → Except EvalError (List Value)
  | [] => .ok []
  | f :: rest => do
    let v ← evaluate ctx f
    return v :: (← evaluateAll ctx rest)

end

/-- Whether a formula holds. -/
def holds (ctx : EvalContext) (f : Formula) : Except EvalError Bool := do
  return (← f.evaluate ctx).isTrue

end Formula

end Hindsight
