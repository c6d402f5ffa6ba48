import Hindsight.Event.Schema
import Hindsight.Plan.Error
import Hindsight.Plan.Formula

/-!
# Types of formulas and aggregates

The type of a formula under known types of attributes. An attribute without a known type is open
and fits everywhere. A formula is refused where an operation cannot succeed whatever the event.
-/

namespace Hindsight

/-- What is known of the attributes of an event. -/
abbrev AttributeTypes := Dict String ValueType

/-- The types of the attributes of an event type. -/
def EventSchema.types (s : EventSchema) : AttributeTypes := s.map ValueType.ofKind

/-- Ask for a type at a place. -/
def expectType (accepted : Bool) (place : TypedPlace) (expected : ExpectedType)
    (found : ValueType) : Except CompileError Unit :=
  if accepted then .ok () else .error (.typeMismatch place expected found)

/-- The type of an operation on two operands. -/
def Operator.resultType (op : Operator) (left right : ValueType) :
    Except CompileError ValueType := do
  let expectLeft (accepted : Bool) (t : ValueType) :=
    expectType accepted (.leftOperand op) (.type t) left
  let expectRight (accepted : Bool) (t : ValueType) :=
    expectType accepted (.rightOperand op) (.type t) right
  match op with
  | .arith _ =>
    expectLeft left.isNumeric .number
    expectRight right.isNumeric .number
    return .number
  | .compare .eq | .compare .ne => return .boolean
  | .compare _ =>
    expectRight (left.fits right) left
    return .boolean
  | .connect _ =>
    expectLeft left.isBoolean .boolean
    expectRight right.isBoolean .boolean
    return .boolean
  | .isIn =>
    expectRight (right == .list || right.isOpen) .list
    return .boolean
  | .matchText m =>
    if m = .contains && left == .list then return .boolean
    expectLeft (left.fits .text) .text
    expectRight (right.fits .text) .text
    return .boolean

/-- The type of an operation on one operand. -/
def UnaryOperator.resultType (op : UnaryOperator) (operand : ValueType) :
    Except CompileError ValueType :=
  match op with
  | .not => do
    expectType operand.isBoolean (.operand op) (.type .boolean) operand
    return .boolean
  | .negate => do
    expectType operand.isNumeric (.operand op) (.type .number) operand
    return .number

/-- What a function expects of its first argument, if anything. -/
def ScalarFunction.firstType? : ScalarFunction → Option ValueType
  | abs | round | floor | ceil | sqrt | ln => some .number
  | lower | upper | trim | substr | replace | regexExtract | regexReplace | formatDate
  | startsWith | endsWith | regexMatch | regexSplit | regexCount | extract => some .text
  | dateDiff | hour => some .instant
  | concat | contains | length | coalesce => none

/-- The type of the values of a function, from the types of its arguments. -/
def ScalarFunction.valueType (f : ScalarFunction) (args : List ValueType) : ValueType :=
  match f with
  | abs | round | floor | ceil | sqrt | ln | regexCount | extract | dateDiff | hour | length =>
    .number
  | lower | upper | trim | substr | replace | regexExtract | regexReplace | formatDate
  | concat => .text
  | startsWith | endsWith | regexMatch | contains => .boolean
  | regexSplit => .list
  | coalesce => (args.find? fun t => !t.isOpen).getD .unknown

/-- The type of a call. -/
def ScalarFunction.resultType (f : ScalarFunction) (args : List ValueType) :
    Except CompileError ValueType :=
  match f.firstType?, args with
  | some expected, found :: _ => do
    expectType (found.fits expected) (.argument f) (.type expected) found
    return f.valueType args
  | _, _ => .ok (f.valueType args)

namespace Formula

mutual

/-- The type of a formula, under the types of attributes and of the slots. -/
def infer (types : AttributeTypes) (slots : List ValueType) :
    Formula → Except CompileError ValueType
  | literal v => .ok (.ofLiteral v)
  | attr path => .ok ((types.get? path).getD .unknown)
  | sourceAttr _ => .ok .unknown
  | field .time | observationTime => .ok .instant
  | field .type | field .id | entity _ _ => .ok .text
  | wildcard => .ok .any
  | list items => do
    let _ ← inferAll types slots items
    return .list
  | unary op operand => do op.resultType (← infer types slots operand)
  | binary left op right => do
    let l ← infer types slots left
    let r ← infer types slots right
    op.resultType l r
  | call f args => do f.resultType (← inferAll types slots args)
  | slot n => .ok ((slots[n]?).getD .unknown)

/-- The types of formulas from left to right. -/
def inferAll (types : AttributeTypes) (slots : List ValueType) :
    List Formula → Except CompileError (List ValueType)
  | [] => .ok []
  | f :: rest => do
    let t ← infer types slots f
    return t :: (← inferAll types slots rest)

end

end Formula

/-- The type of an aggregate function over arguments of a type. -/
def AggregateFunction.resultType (f : AggregateFunction) (argument : ValueType) : ValueType :=
  match f with
  | count | countDistinct | sum | mean | median | variance | deviation | meanGap => .number
  | min | max | first | last | nth _ => argument
  | values => .list
  | timeOfFirst | timeOfLast | timeOfNext => .instant

/-- The type of an aggregate. -/
def Aggregate.infer (types : AttributeTypes) (a : Aggregate) : Except CompileError ValueType := do
  let argument ← a.argument.infer types []
  expectType (!a.function.isNumeric || argument.isNumeric) (.aggregateArgument a.function)
    (.type .number) argument
  if let some filter := a.filter then
    let t ← filter.infer types []
    expectType t.isBoolean (.filterClause a.function) (.type .boolean) t
  if let some having := a.having then
    let t ← having.rank.infer types []
    expectType (t != .list && t != .map) (.havingClause a.function) .orderable t
  match a.groupBy with
  | some key =>
    let _ ← key.infer types []
    return .map
  | none => return a.function.resultType argument

/-- The type of a feature. -/
def Feature.infer (types : AttributeTypes) (f : Feature) : Except CompileError ValueType := do
  f.formula.infer types (← f.aggregates.mapM (Aggregate.infer types))

/-- Ask a condition to be a truth value. -/
def Condition.expectBoolean (c : Condition) (t : ValueType) : Except CompileError Unit :=
  expectType t.isBoolean (.condition c.raw) (.type .boolean) t

end Hindsight
