import Hindsight.Eval.Error
import Hindsight.Regex.Match
import Hindsight.Text.Basic
import Hindsight.Value.Basic

/-!
# Operations on values

Null makes arithmetic null and every comparison false, so a missing attribute fails a filter
quietly. A text that is compared with an instant is read as one if it can be. Integers stay
integers as long as they fit 64 bits, apart from division, which is always one of floats.
-/

namespace Hindsight

namespace Value

/-- Whether a value counts as true: only the truth value does. -/
def isTrue : Value → Bool
  | bool b => b
  | _ => false

/-- A text as the instant it denotes, if the other value is an instant. -/
def asInstantBeside (other v : Value) : Value :=
  match other, v with
  | instant _, text s =>
    match Time.Instant.ofText? s with
    | some t => instant t
    | none => v
  | _, _ => v

end Value

/-- Whether an order satisfies a comparison. -/
def Comparison.accepts : Comparison → Ordering → Bool
  | eq, o => o == .eq
  | ne, o => o != .eq
  | gt, o => o == .gt
  | ge, o => o != .lt
  | lt, o => o == .lt
  | le, o => o != .gt

/-- A comparison of two values. -/
def Comparison.apply (c : Comparison) (left right : Value) : Except EvalError Bool :=
  if left.isNull || right.isNull then .ok false
  else
    let l := Value.asInstantBeside right left
    let r := Value.asInstantBeside left right
    match c with
    | eq => .ok (l.looselyEquals r)
    | ne => .ok (!l.looselyEquals r)
    | c =>
      match l.compare r with
      | some o => .ok (c.accepts o)
      | none => .error (.incomparable l.typeName r.typeName c)

/-- Whether a value is in a list. -/
def isMember (v : Value) : Value → Except EvalError Bool
  | .list items => .ok (!v.isNull && items.any v.looselyEquals)
  | .null => .ok false
  | other => .error (.noList other.typeName)

/-- Whether a text matches a pattern, if the pattern is a regular expression. -/
def matchesPattern (text pattern : String) : Except EvalError Bool :=
  match Regex.ofText? pattern with
  | some r => .ok (r.isMatch text)
  | none => .error (.pattern pattern)

/-- A test of a text against another, or of a list for an item. -/
def TextMatch.apply (m : TextMatch) (left right : Value) : Except EvalError Bool :=
  if left.isNull || right.isNull then .ok false
  else
    match m, left, right with
    | contains, .list items, needle => .ok (items.any fun item => item.looselyEquals needle)
    | contains, .text l, .text r => .ok (Text.contains l r)
    | startsWith, .text l, .text r => .ok (Text.startsWith l r)
    | endsWith, .text l, .text r => .ok (Text.endsWith l r)
    | regex, .text l, .text r => matchesPattern l r
    | m, l, r => .error (.inapplicable (.matchText m) l.typeName r.typeName)

/-- The exact result of an integer operation, if there is one; division has none. -/
def Arithmetic.onIntegers? (a : Arithmetic) (m n : Int) : Option Int :=
  match a with
  | add => some (m + n)
  | sub => some (m - n)
  | mul => some (m * n)
  | div => none

/-- An operation on floats; division by zero has no result. -/
def Arithmetic.onFloats? (a : Arithmetic) (x y : Float) : Option Float :=
  match a with
  | add => some (x + y)
  | sub => some (x - y)
  | mul => some (x * y)
  | div => if y == 0.0 then none else some (x / y)

/-- A float that comes of two numbers. A NaN among them is passed on with its sign, the left one
first; a NaN that comes of other numbers has its sign set. -/
def Value.ofNumbers (left right : Value) (z : Float) : Value :=
  if !Number.isNaN z then float z
  else if left.isNaN then left
  else if right.isNaN then right
  else negativeNaN

/-- An operation on two numbers; texts can be added, too. -/
def Arithmetic.apply (a : Arithmetic) (left right : Value) : Except EvalError Value :=
  if left.isNull || right.isNull then .ok .null
  else
    let approximate (x y : Float) : Value :=
      ((a.onFloats? x y).map (Value.ofNumbers left right)).getD .null
    match a, left, right with
    | add, .text l, .text r => .ok (.text (l ++ r))
    | a, .int m, .int n =>
      match (a.onIntegers? m n).bind Number.word? with
      | some k => .ok (.int k)
      | none => .ok (approximate (Number.toFloat m) (Number.toFloat n))
    | a, l, r =>
      match l.float?, r.float? with
      | some x, some y => .ok (approximate x y)
      | _, _ => .error (.inapplicable (.arith a) l.typeName r.typeName)

/-- A connective of two conditions. -/
def Connective.apply (c : Connective) (left right : Value) : Bool :=
  match c with
  | and => left.isTrue && right.isTrue
  | or => left.isTrue || right.isTrue

/-- What the left operand decides alone, if it does. -/
def Operator.shortCut? (op : Operator) (left : Value) : Option Value :=
  match op with
  | .connect .and => if left.isTrue then none else some (.bool false)
  | .connect .or => if left.isTrue then some (.bool true) else none
  | _ => none

/-- An operation on two operands. -/
def Operator.apply (op : Operator) (left right : Value) : Except EvalError Value :=
  match op with
  | .compare c => (c.apply left right).map .bool
  | .arith a => a.apply left right
  | .connect c => .ok (.bool (c.apply left right))
  | .matchText m => (m.apply left right).map .bool
  | .isIn => (isMember left right).map .bool

/-- An operation on one operand. -/
def UnaryOperator.apply (op : UnaryOperator) (v : Value) : Except EvalError Value :=
  match op, v with
  | not, v => .ok (.bool !v.isTrue)
  | negate, .null => .ok .null
  | negate, .int n =>
    .ok (match Number.word? (-n) with
      | some m => .int m
      | none => .float (-(Number.toFloat n)))
  | negate, .float x => .ok (if Number.isNaN x then .negativeNaN else .float (-x))
  | negate, .negativeNaN => .ok (.float Number.nan)
  | negate, v => .error (.notNegatable v.typeName)

end Hindsight
