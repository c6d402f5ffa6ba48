import Hindsight.Expr.Description
import Hindsight.Plan.Error
import Hindsight.Plan.Formula

/-!
# From expressions to formulas

The names of functions are resolved, the number of arguments is checked, and every aggregate moves
to the end of a list of slots, where its place is the number that stands for it in the formula. An
aggregate is moved after its own parts, so slots are numbered from left to right.
-/

namespace Hindsight

/-- The aggregate function of a name; the one that asks for a position takes it from the
parameter, and no other has a parameter. -/
def resolveAggregate (name : String) (parameter : Option Expr) :
    Except CompileError AggregateFunction :=
  if AggregateFunction.takesPosition name then
    match parameter with
    | some (.literal (.int n)) => .ok (.nth n)
    | some e => .error (.structure_ (.position name e.description))
    | none => .error (.arguments (Text.asciiLower name) "2" 1)
  else
    match AggregateFunction.ofName? name with
    | none => .error (.unknownFunction name)
    | some f => if parameter.isSome then .error (.arguments f.name "1" 2) else .ok f

/-- The aggregate function of a call whose argument and window it accepts. -/
def acceptAggregate (name : String) (argument : Expr) (parameter : Option Expr) (w : Time.Window) :
    Except CompileError AggregateFunction := do
  let f ← resolveAggregate name parameter
  match argument with
  | .wildcard => if !f.acceptsWildcard then throw (.structure_ (.wildcardArgument f))
  | _ => pure ()
  if f = .timeOfNext && !w.isFutureLooking then throw (.structure_ (.backwardWindow w))
  return f

/-- The scalar function of a name that accepts a number of arguments. -/
def resolveScalar (name : String) (given : Nat) : Except CompileError ScalarFunction :=
  match ScalarFunction.ofName? name with
  | none =>
    if (AggregateFunction.ofName? name).isSome || AggregateFunction.takesPosition name then
      .error (.structure_ (.missingWindow name))
    else .error (.unknownFunction name)
  | some f =>
    if f.arity.accepts given then .ok f
    else .error (.arguments f.name f.arity.text given)

namespace Expr

mutual

/-- The formula of an expression, with its aggregates behind those in `slots`. -/
def lower (slots : List Aggregate) : Expr → Except CompileError (Formula × List Aggregate)
  | literal v => .ok (.literal v, slots)
  | attr path => .ok (.attr path, slots)
  | sourceAttr path => .ok (.sourceAttr path, slots)
  | field f => .ok (.field f, slots)
  | entity scope entityType => .ok (.entity scope entityType, slots)
  | observationTime => .ok (.observationTime, slots)
  | wildcard => .ok (.wildcard, slots)
  | list items => do
    let (items, slots) ← lowerAll slots items
    return (.list items, slots)
  | unary op operand => do
    let (operand, slots) ← lower slots operand
    return (.unary op operand, slots)
  | binary left op right => do
    let (left, slots) ← lower slots left
    let (right, slots) ← lower slots right
    return (.binary left op right, slots)
  | call name args => do
    let f ← resolveScalar name args.length
    let (args, slots) ← lowerAll slots args
    return (.call f args, slots)
  | aggregate name argument parameter window filter selection => do
    let f ← acceptAggregate name argument parameter window
    let (argument, slots) ← lower slots argument
    let (filter, slots) ← lowerOption slots filter
    let ((groupBy, having), slots) ← lowerSelection slots selection
    let a : Aggregate :=
      ⟨f, argument, window, filter, groupBy, having, filter.bind Formula.pinnedTypes⟩
    return (.slot slots.length, slots ++ [a])

/-- The formulas of expressions from left to right. -/
def lowerAll (slots : List Aggregate) :
    List Expr → Except CompileError (List Formula × List Aggregate)
  | [] => .ok ([], slots)
  | e :: rest => do
    let (f, slots) ← lower slots e
    let (fs, slots) ← lowerAll slots rest
    return (f :: fs, slots)

/-- The formula of an expression if there is one. -/
def lowerOption (slots : List Aggregate) :
    Option Expr → Except CompileError (Option Formula × List Aggregate)
  | none => .ok (none, slots)
  | some e => do
    let (f, slots) ← lower slots e
    return (some f, slots)

/-- The group key or the ranking of a selection. -/
def lowerSelection (slots : List Aggregate) : Selection →
    Except CompileError ((Option Formula × Option Ranking) × List Aggregate)
  | .all => .ok ((none, none), slots)
  | .groupBy key => do
    let (f, slots) ← lower slots key
    return ((some f, none), slots)
  | .having extreme rank => do
    let (f, slots) ← lower slots rank
    return ((none, some ⟨extreme, f⟩), slots)

end

end Expr

/-- The feature of a feature text. -/
def FeatureText.lower (t : FeatureText) : Except CompileError Feature := do
  let (f, slots) ← t.expr.lower []
  return ⟨t.name, t.raw, f, slots⟩

/-- The condition of an expression written as `raw`. -/
def Condition.ofExpr (raw : String) (e : Expr) : Except CompileError Condition := do
  let (f, _) ← e.lower []
  return ⟨Text.trim raw, f, f.pinnedTypes⟩

end Hindsight
