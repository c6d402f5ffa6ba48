import Hindsight.Plan.Typing
import Hindsight.Proofs.Dict
import Hindsight.Proofs.Eval.Parts

/-!
# Inferred types are sound

A type says which values a formula may come to (`ValueType.Admits`): a known type those of the type
and null, an unknown type null alone, because only an attribute that no event has is unknown, and
`any`, which is the type of `*` and of null, null and truth values. With these readings the type of
an operation follows from the types of its operands (`Operator.apply_admits`,
`UnaryOperator.apply_admits`), and the type of a formula from those of its parts
(`Formula.evaluate_admits`).

The types of the source event and of slots are not inferred from the schema, and `coalesce` has the
type of its first argument with a known type, whichever argument it comes to, so formulas with these
are left out (`Formula.isTyped`).
-/

namespace Hindsight

/-- **An event conforms to a schema** if the kind of each attribute that is not null is recorded, or
covered by the recorded one. -/
def Event.Conforms (e : Event) (s : EventSchema) : Prop :=
  ∀ name k, ValueKind.of? (e.attr name) = some k →
    ∃ recorded, s.get? name = some recorded ∧ recorded.unify k = some recorded

namespace ValueType

/-- The values that a formula of a type may come to. -/
def Admits (t : ValueType) (v : Value) : Prop :=
  match t with
  | unknown => v = .null
  | any => v.NullOr boolean
  | t => v.NullOr t

variable {t : ValueType} {v : Value}

/-- The type of a literal is never unknown, and open only for null. -/
theorem eq_null_of_ofLiteral (h : (ofLiteral v).isOpen = true) : v = .null := by
  cases v <;> first | rfl | cases h

/-- A type admits null and the values of that type, also where it is open: then it is the type of
null alone. -/
theorem admits_of_nullOr (h : v.NullOr t) : t.Admits v := by
  rcases h with rfl | h
  · cases t <;> first | rfl | exact .inl rfl
  · cases t with
    | unknown => exact eq_null_of_ofLiteral (by rw [h]; rfl)
    | any => exact .inl (eq_null_of_ofLiteral (by rw [h]; rfl))
    | _ => exact .inr h

/-- A type that is known admits null and the values of that type alone. An open one also admits
truth values. -/
theorem nullOr_of_admits (known : t.isOpen = false) (h : t.Admits v) : v.NullOr t := by
  cases t with
  | unknown | any => cases known
  | _ => exact h

/-- The type of truth values admits both of them. -/
theorem admits_bool (b : Bool) : boolean.Admits (.bool b) := .inr rfl

/-- Where a number can be had there is no text, be the type a number or open. -/
theorem ne_text_of_isNumeric (numeric : t.isNumeric = true) (h : t.Admits v) (s : String) :
    v ≠ .text s := by
  rintro rfl
  cases t with
  | number | any =>
    rcases h with h | h
    · cases h
    · cases h
  | unknown => cases h
  | _ => cases numeric

/-- A recorded kind that covers the kind of a value has its type. Integers under floats are numbers
in either case. -/
theorem ofLiteral_of_unify {recorded k : ValueKind} (kind : ValueKind.of? v = some k)
    (covers : recorded.unify k = some recorded) : ofLiteral v = ofKind recorded := by
  rw [ofLiteral, kind]
  cases recorded <;> cases k <;> first | rfl | cases covers

end ValueType

open ValueType (admits_of_nullOr admits_bool ne_text_of_isNumeric)

/-- **The type of an attribute** admits its value in an event that conforms to the schema. An
attribute that is not on record is absent, and so null. -/
theorem Event.Conforms.admits {e : Event} {s : EventSchema} (h : e.Conforms s) (path : String) :
    ((s.types.get? path).getD .unknown).Admits (e.attr path) := by
  rw [EventSchema.types, Dict.get?_map]
  cases kind : ValueKind.of? (e.attr path) with
  | none =>
    have missing : e.attr path = .null := ValueType.eq_null_of_ofLiteral (by
      rw [ValueType.ofLiteral, kind]
      rfl)
    rw [missing]
    exact admits_of_nullOr (.inl rfl)
  | some k =>
    obtain ⟨recorded, found, covers⟩ := h path k kind
    rw [found]
    exact admits_of_nullOr (.inr (ValueType.ofLiteral_of_unify kind covers))

section Operations

variable {l r t : ValueType} {v w : Value}

/-- An operand that passes was accepted, whatever was expected and found. -/
theorem expectType_eq_ok {accepted : Bool} {place : TypedPlace} {expected : ExpectedType}
    {found : ValueType} {u : Unit} (h : expectType accepted place expected found = .ok u) :
    accepted = true := by
  rw [expectType] at h
  split at h
  · assumption
  · cases h

/-- Arithmetic is typed on numbers, and every other operation is a truth value. -/
theorem Operator.resultType_eq_ok {op : Operator} (h : op.resultType l r = .ok t) :
    match op with
    | .arith _ => t = .number ∧ l.isNumeric = true ∧ r.isNumeric = true
    | _ => t = .boolean := by
  cases op with
  | arith a =>
    obtain ⟨u, left, h⟩ := bind_eq_ok_iff.1 h
    obtain ⟨u', right, h⟩ := bind_eq_ok_iff.1 h
    cases h
    exact ⟨rfl, expectType_eq_ok left, expectType_eq_ok right⟩
  | compare c =>
    cases c with
    | eq | ne => cases h; rfl
    | _ =>
      obtain ⟨u, -, h⟩ := bind_eq_ok_iff.1 h
      cases h
      rfl
  | connect c =>
    obtain ⟨u, -, h⟩ := bind_eq_ok_iff.1 h
    obtain ⟨u', -, h⟩ := bind_eq_ok_iff.1 h
    cases h
    rfl
  | isIn =>
    obtain ⟨u, -, h⟩ := bind_eq_ok_iff.1 h
    cases h
    rfl
  | matchText m =>
    simp only [resultType] at h
    split at h
    · cases h
      rfl
    · obtain ⟨u, -, h⟩ := bind_eq_ok_iff.1 h
      obtain ⟨u', -, h⟩ := bind_eq_ok_iff.1 h
      cases h
      rfl

/-- **The type of an operation on two operands** admits its value. The right operand may be
anything, since the operation fails on what it cannot take. -/
theorem Operator.apply_admits {op : Operator} (typed : op.resultType l r = .ok t)
    (left : l.Admits v) (w : Value) : ComesTo (op.apply v w) t.Admits := by
  have result := resultType_eq_ok typed
  have meets := op.apply_meets v w
  cases op with
  | arith a =>
    obtain ⟨rfl, numericLeft, numericRight⟩ := result
    refine meets.imp fun x h => h.resolve_right ?_
    rintro ⟨s, s', rfl, -⟩
    exact ne_text_of_isNumeric numericLeft left s rfl
  | _ =>
    have boolean : t = .boolean := result
    rw [boolean]
    refine meets.imp ?_
    rintro _ ⟨b, rfl⟩
    exact admits_bool b

/-- What the left operand decides alone is admitted as well, being a truth value. -/
theorem Operator.shortCut?_admits {op : Operator} (typed : op.resultType l r = .ok t)
    (h : op.shortCut? v = some w) : t.Admits w := by
  obtain ⟨c, b, rfl, rfl⟩ := exists_bool_of_shortCut? h
  have boolean : t = .boolean := resultType_eq_ok typed
  rw [boolean]
  exact admits_bool b

/-- **The type of an operation on one operand** admits its value, whatever the operand is. -/
theorem UnaryOperator.apply_admits {op : UnaryOperator} (typed : op.resultType l = .ok t)
    (v : Value) : ComesTo (op.apply v) t.Admits := by
  have meets := op.apply_meets v
  cases op with
  | not =>
    obtain ⟨u, -, h⟩ := bind_eq_ok_iff.1 typed
    cases h
    refine meets.imp ?_
    rintro _ ⟨b, rfl⟩
    exact admits_bool b
  | negate =>
    obtain ⟨u, -, h⟩ := bind_eq_ok_iff.1 typed
    cases h
    exact meets

/-- A function that has a type for some arguments has the type that goes with its name and with
these. -/
theorem ScalarFunction.resultType_eq_ok {f : ScalarFunction} {ts : List ValueType}
    (h : f.resultType ts = .ok t) : t = f.valueType ts := by
  unfold resultType at h
  split at h
  · obtain ⟨u, -, h⟩ := bind_eq_ok_iff.1 h
    cases h
    rfl
  · cases h
    rfl

/-- **The type of a call** admits its value, whatever the arguments come to. The one function that
chooses among its arguments is treated on its own. -/
theorem ScalarFunction.apply_admits {f : ScalarFunction} {ts : List ValueType}
    (typed : f.resultType ts = .ok t) (other : f ≠ coalesce) (args : List Value) :
    ComesTo (f.apply args) t.Admits := by
  rw [resultType_eq_ok typed, valueType_eq other]
  exact (f.apply_meets args).imp fun v h => admits_of_nullOr (h other)

end Operations

namespace Formula

mutual

/-- Whether what a formula reads and calls is typed by the schema: it reads neither the source
event nor a slot, and does not call `coalesce`. -/
def isTyped : Formula → Bool
  | sourceAttr _ | slot _ => false
  | list items => areTyped items
  | unary _ operand => isTyped operand
  | binary left _ right => isTyped left && isTyped right
  | call f args => decide (f ≠ .coalesce) && areTyped args
  | _ => true

/-- Whether all formulas are typed by the schema. -/
def areTyped : List Formula → Bool
  | [] => true
  | f :: rest => isTyped f && areTyped rest

end

mutual

/-- A typed formula refers to no slot, by recursion on formulas, so it may be evaluated without
any. -/
theorem slots_of_isTyped : ∀ f : Formula, f.isTyped = true → f.slots = []
  | literal _, _ | attr _, _ | field _, _ | entity _ _, _ | observationTime, _ | wildcard, _ => rfl
  | sourceAttr _, typed | slot _, typed => absurd typed Bool.false_ne_true
  | list items, typed => by
    rw [isTyped] at typed
    exact slotsOfAll_of_areTyped items typed
  | unary _ operand, typed => by
    rw [isTyped] at typed
    exact slots_of_isTyped operand typed
  | binary left _ right, typed => by
    rw [isTyped, Bool.and_eq_true] at typed
    rw [slots, slots_of_isTyped left typed.1, slots_of_isTyped right typed.2, List.append_nil]
  | call _ args, typed => by
    rw [isTyped, Bool.and_eq_true] at typed
    exact slotsOfAll_of_areTyped args typed.2

/-- Typed formulas refer to no slot, together with single ones. -/
theorem slotsOfAll_of_areTyped : ∀ fs : List Formula, areTyped fs = true → slotsOfAll fs = []
  | [], _ => rfl
  | f :: rest, typed => by
    rw [areTyped, Bool.and_eq_true] at typed
    rw [slotsOfAll, slots_of_isTyped f typed.1, slotsOfAll_of_areTyped rest typed.2,
      List.append_nil]

end

/-- A formula that is typed by the schema fails for its operations only. No slot is missing, as it
has none. -/
theorem evaluate_meets_of_isTyped (ctx : EvalContext) {f : Formula} (typed : f.isTyped = true) :
    ComesTo (f.evaluate ctx) fun _ => True :=
  f.evaluate_meets ctx (by simp [slots_of_isTyped f typed])

/-- Typed formulas come to values or fail in an operation: without slots nothing else can be
missing. -/
theorem evaluateAll_meets_of_areTyped (ctx : EvalContext) {fs : List Formula}
    (typed : areTyped fs = true) : ComesTo (evaluateAll ctx fs) fun _ => True :=
  evaluateAll_meets ctx fs (by simp [slotsOfAll_of_areTyped fs typed])

/-- What is read of an event that conforms, or of none, has its type. Without an event everything
that is read is null. -/
theorem read_admits {s : EventSchema} {event : Option Event} (conforms : ∀ e ∈ event, e.Conforms s)
    (path : String) :
    ((s.types.get? path).getD .unknown).Admits
      ((event.map fun e => e.attr path).getD .null) := by
  cases event with
  | none => exact admits_of_nullOr (.inl rfl)
  | some e => exact (conforms e rfl).admits path

/-- A field of an event has its type: a text or an instant, and null if there is no event. -/
theorem field_admits (ctx : EvalContext) {types : AttributeTypes} {ts : List ValueType}
    {f : EventField} {t : ValueType} (inferred : (field f).infer types ts = .ok t) :
    t.Admits ((ctx.event.map f.read).getD .null) := by
  refine admits_of_nullOr ?_
  cases ctx.event with
  | none => exact .inl rfl
  | some e =>
    cases f with
    | type | time => cases inferred; exact .inr rfl
    | id => cases inferred; exact Value.nullOr_getD_map Value.text (fun _ => rfl) e.id

/-- **The inferred type of a formula** admits its value, if the event at hand conforms to the
schema, and a formula that fails does so for its operations. -/
theorem evaluate_admits {s : EventSchema} {ctx : EvalContext} {ts : List ValueType}
    (conforms : ∀ e ∈ ctx.event, e.Conforms s) :
    ∀ (f : Formula) (t : ValueType), f.isTyped = true → f.infer s.types ts = .ok t →
      ComesTo (f.evaluate ctx) t.Admits
  | literal v, _, _, inferred => by
    cases inferred
    exact admits_of_nullOr (.inr rfl)
  | attr path, _, _, inferred => by
    cases inferred
    exact read_admits conforms path
  | sourceAttr _, _, typed, _ | slot _, _, typed, _ => absurd typed Bool.false_ne_true
  | field _, _, _, inferred => field_admits ctx inferred
  | entity _ _, _, _, inferred => by
    cases inferred
    exact Value.nullOr_getD_map Value.text (fun _ => rfl) _
  | observationTime, _, _, inferred => by
    cases inferred
    exact Value.nullOr_getD_map (fun p => Value.instant p.instant) (fun _ => rfl) ctx.point
  | wildcard, _, _, inferred => by
    cases inferred
    exact .inr rfl
  | list items, _, typed, inferred => by
    rw [isTyped] at typed
    rw [infer] at inferred
    obtain ⟨us, -, inferred⟩ := bind_eq_ok_iff.1 inferred
    cases inferred
    rw [evaluate]
    exact (evaluateAll_meets_of_areTyped ctx typed).bind fun _ _ => .inr rfl
  | unary op operand, _, typed, inferred => by
    rw [isTyped] at typed
    rw [infer] at inferred
    obtain ⟨u, inferredOperand, inferred⟩ := bind_eq_ok_iff.1 inferred
    rw [evaluate]
    exact (evaluate_admits conforms operand u typed inferredOperand).bind fun v _ =>
      UnaryOperator.apply_admits inferred v
  | binary left op right, _, typed, inferred => by
    rw [isTyped, Bool.and_eq_true] at typed
    rw [infer] at inferred
    obtain ⟨l, inferredLeft, inferred⟩ := bind_eq_ok_iff.1 inferred
    obtain ⟨r, -, inferred⟩ := bind_eq_ok_iff.1 inferred
    rw [evaluate]
    refine (evaluate_admits conforms left l typed.1 inferredLeft).bind fun v hv => ?_
    cases decided : op.shortCut? v with
    | some w => exact Operator.shortCut?_admits inferred decided
    | none =>
      exact (evaluate_meets_of_isTyped ctx typed.2).bind fun w _ =>
        Operator.apply_admits inferred hv w
  | call f args, _, typed, inferred => by
    rw [isTyped, Bool.and_eq_true, decide_eq_true_eq] at typed
    rw [infer] at inferred
    obtain ⟨us, -, inferred⟩ := bind_eq_ok_iff.1 inferred
    rw [evaluate]
    exact (evaluateAll_meets_of_areTyped ctx typed.2).bind fun vs _ =>
      ScalarFunction.apply_admits inferred typed.1 vs

end Formula

end Hindsight
