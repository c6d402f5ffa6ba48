import Hindsight.Eval.Operation
import Hindsight.Event.Basic
import Hindsight.Text.Case
import Hindsight.Time.Pattern

/-!
# Calls of scalar functions

Every function but `coalesce` makes null of null. Characters are counted, not bytes. A text stands
for an instant where one is expected. Rounding keeps integers, and a result that is no number is
null.
-/

namespace Hindsight

open Time (Instant)

namespace ScalarFunction

/-- The text of an argument. -/
def textOf (f : ScalarFunction) (v : Value) : Except EvalError String :=
  match v with
  | .text s => .ok s
  | v => .error (.argumentKind f v.typeName)

/-- The integer of an argument. -/
def integerOf (f : ScalarFunction) (v : Value) : Except EvalError Int :=
  match v with
  | .int n => .ok n
  | v => .error (.argumentKind f v.typeName)

/-- The instant of an argument. -/
def instantOf (f : ScalarFunction) (v : Value) : Except EvalError Instant :=
  match v with
  | .instant t => .ok t
  | .text s =>
    match Instant.ofText? s with
    | some t => .ok t
    | none => .error (.unreadableInstant f (Text.trim s))
  | v => .error (.noInstant f v.typeName)

/-- The regular expression of an argument. -/
def regexOf (pattern : String) : Except EvalError Regex :=
  match Regex.ofText? pattern with
  | some r => .ok r
  | none => .error (.pattern pattern)

/-- The float of an argument, changed by `g`. -/
def numeric (f : ScalarFunction) (g : Float → Float) (v : Value) : Except EvalError Value :=
  match v.float? with
  | none => .error (.argumentKind f v.typeName)
  | some x =>
    let y := g x
    .ok (if Number.isNaN y then .null else .float y)

/-- The float of an argument, changed by `g`; integers stay. -/
def rounding (f : ScalarFunction) (g : Float → Float) (v : Value) : Except EvalError Value :=
  match v with
  | .int n => .ok (.int n)
  | v => f.numeric g v

/-- The magnitude of a number. -/
def magnitude (v : Value) : Except EvalError Value :=
  match v with
  | .int n => .ok (((Number.word? n.natAbs).map Value.int).getD .null)
  | v => abs.numeric Float.abs v

/-- The number of characters, items or entries. -/
def size (v : Value) : Except EvalError Value :=
  match v with
  | .text s => .ok (.int s.length)
  | .list items => .ok (.int items.length)
  | .map entries => .ok (.int entries.length)
  | v => .error (.argumentKind length v.typeName)

/-- Some characters of a text, which has to have them all. -/
def slice (s : String) (start : Int) (length : Option Int) : Except EvalError Value :=
  let cs := s.toList
  let total : Int := cs.length
  let length := length.getD (total - start)
  if 0 ≤ start ∧ 0 ≤ length ∧ start + length ≤ total then
    .ok (.text (String.ofList ((cs.drop start.toNat).take length.toNat)))
  else .error (.outOfBounds start length total)

/-- A part of an instant as a number. -/
def datePart (part : String) (t : Instant) : Except EvalError Int :=
  let c := t.civil
  match Text.asciiLower part with
  | "year" => .ok c.year
  | "quarter" => .ok ((c.month - 1) / 3 + 1 : Nat)
  | "month" => .ok c.month
  | "week" => .ok (Time.weekOf t.day).2
  | "day" => .ok c.day
  | "dayofyear" | "day_of_year" => .ok (Time.dayOfYear t.day + 1 : Nat)
  | "weekday" | "dayofweek" => .ok (Time.daysFromMonday t.day + 1 : Nat)
  | "hour" => .ok t.hour
  | "minute" => .ok t.minute
  | "second" => .ok t.secondOfMinute
  | "millisecond" => .ok (t.nano / 1000000 : Nat)
  | other => .error (.datePart other)

/-- A function of one argument. -/
def applyOne (f : ScalarFunction) (v : Value) : Except EvalError Value :=
  match f with
  | abs => magnitude v
  | round => f.rounding Float.round v
  | floor => f.rounding Float.floor v
  | ceil => f.rounding Float.ceil v
  | sqrt => f.numeric Float.sqrt v
  | ln => f.numeric Float.log v
  | lower => do return .text (Text.small (← f.textOf v))
  | upper => do return .text (Text.capital (← f.textOf v))
  | trim => do return .text (Text.trim (← f.textOf v))
  | length => size v
  | hour => do return .int (← f.instantOf v).hour
  | f => .error (.argumentCount f 1)

/-- Whether the first argument contains the second. -/
def applyContains (v w : Value) : Except EvalError Value :=
  match v with
  | .list items => .ok (.bool (items.any fun item => item.looselyEquals w))
  | v => do
    let s ← contains.textOf v
    return .bool (Text.contains s (← contains.textOf w))

/-- A function of two arguments. -/
def applyTwo (f : ScalarFunction) (v w : Value) : Except EvalError Value :=
  match f with
  | contains => applyContains v w
  | startsWith => do
    let s ← f.textOf v
    return .bool (Text.startsWith s (← f.textOf w))
  | endsWith => do
    let s ← f.textOf v
    return .bool (Text.endsWith s (← f.textOf w))
  | substr => do
    let s ← f.textOf v
    slice s (← f.integerOf w) none
  | regexMatch => do
    let s ← f.textOf v
    return .bool ((← regexOf (← f.textOf w)).isMatch s)
  | regexExtract => do
    let s ← f.textOf v
    return (((← regexOf (← f.textOf w)).extract? s).map Value.text).getD .null
  | regexSplit => do
    let s ← f.textOf v
    return .list (((← regexOf (← f.textOf w)).split s).map Value.text)
  | regexCount => do
    let s ← f.textOf v
    return .int ((← regexOf (← f.textOf w)).count s)
  | dateDiff => do
    let s ← f.instantOf v
    return .int (s.day - (← f.instantOf w).day)
  | extract => do
    let t ← f.instantOf w
    return .int (← datePart (← f.textOf v) t)
  | formatDate => do
    let t ← f.instantOf w
    let pattern ← f.textOf v
    match t.format? pattern with
    | some s => return .text s
    | none => throw (.datePattern pattern)
  | f => .error (.argumentCount f 2)

/-- A function of three arguments. -/
def applyThree (f : ScalarFunction) (u v w : Value) : Except EvalError Value := do
  let s ← f.textOf u
  match f with
  | substr =>
    let start ← f.integerOf v
    slice s start (some (← f.integerOf w))
  | replace =>
    let p ← f.textOf v
    return .text (Text.replace s p (← f.textOf w))
  | regexReplace =>
    let p ← f.textOf v
    let replacement ← f.textOf w
    return .text ((← regexOf p).replaceAll s replacement)
  | f => throw (.argumentCount f 3)

/-- The value of a function of some arguments. -/
def apply (f : ScalarFunction) (args : List Value) : Except EvalError Value :=
  if f = coalesce then .ok ((args.find? fun v => !v.isNull).getD .null)
  else if !f.arity.accepts args.length then .error (.argumentCount f args.length)
  else if args.any Value.isNull then .ok .null
  else if f = concat then do return .text (String.join (← args.mapM f.textOf))
  else
    match args with
    | [v] => f.applyOne v
    | [v, w] => f.applyTwo v w
    | [u, v, w] => f.applyThree u v w
    | args => .error (.argumentCount f args.length)

end ScalarFunction

end Hindsight
