import Hindsight.Proofs.Eval.Parts
import Hindsight.Proofs.Plan.Typing
import Hindsight.Proofs.Query.Typing

/-!
# What the types refuse fails

A type foretells a value that is not null if it is open or the type of that value
(`ValueType.Foretells`). An operation that succeeds on values which are not null tells their types:
arithmetic has numbers on both sides, an order values that meet, a test of a text two texts, and a
function the type that it expects of its first argument. So where the types of the operands foretell
them, an operation that succeeds has a type, and this type foretells its value
(`Operator.exists_resultType`, `UnaryOperator.exists_resultType`,
`ScalarFunction.exists_resultType`).

Two operations succeed on what the types refuse, or come to what the types do not foretell: `+`
joins two texts, while its type asks for numbers (`Formula.JoinsTexts`), and `contains` searches a
list that the source event has, while its type, which knows nothing of that event, asks for a text
on the right (`Formula.SearchesSourceList`). Without them, and without operations that make
something of every operand, a formula no part of which is null has a type if it has a value
(`Formula.exists_infer`).
-/

namespace Hindsight

open ScalarFunction (coalesce concat)

namespace ValueType

/-- **A type foretells a value** that is not null if it is open, or is the type of the value. -/
structure Foretells (t : ValueType) (v : Value) : Prop where
  notNull : v ≠ .null
  type : t.isOpen = true ∨ ofLiteral v = t

variable {t u : ValueType} {v w : Value}

/-- Where null or a type is promised and the value is not null, the type foretells it. -/
theorem foretells_of_nullOr (h : v.NullOr t) (notNull : v ≠ .null) : t.Foretells v :=
  ⟨notNull, .inr (h.resolve_left notNull)⟩

/-- Where a type admits a value other than null, it foretells it. To foretell is to admit without
the way out of null. -/
theorem Admits.foretells (h : t.Admits v) (notNull : v ≠ .null) : t.Foretells v := by
  cases t with
  | unknown | any => exact ⟨notNull, .inl rfl⟩
  | _ => exact foretells_of_nullOr h notNull

/-- The types that arithmetic admits are those that fit a number: numbers and the open ones. -/
theorem isNumeric_eq_fits (t : ValueType) : t.isNumeric = t.fits number := by cases t <;> rfl

/-- The types that membership admits on the right are those that fit a list: lists and the open
ones. -/
theorem isList_eq_fits (t : ValueType) : (t == list || t.isOpen) = t.fits list := by
  cases t <;> rfl

/-- What foretells a value fits where the type of the value does. An open type fits everywhere. -/
theorem Foretells.fits (h : t.Foretells v) (meet : (ofLiteral v).fits u = true) :
    t.fits u = true := by
  rcases h.type with isOpen | rfl
  · simp [ValueType.fits, isOpen]
  · exact meet

/-- A type that foretells a number is one that arithmetic admits, so arithmetic on numbers is not
refused. -/
theorem Foretells.isNumeric (h : t.Foretells v) (isNumber : ofLiteral v = number) :
    t.isNumeric = true := by
  rw [isNumeric_eq_fits]
  exact h.fits (by rw [isNumber]; rfl)

/-- What foretells two values fits if the types of the values do. In this way an operation that
succeeds on the values is accepted for the types. -/
theorem Foretells.fits_both (left : t.Foretells v) (right : u.Foretells w)
    (meet : (ofLiteral v).fits (ofLiteral w) = true) : t.fits u = true := by
  have withLeft := left.fits meet
  rw [fits_comm] at withLeft ⊢
  exact right.fits withLeft

/-- Only null and truth values are admitted by an open type, so a list is never behind one that is
inferred. -/
theorem not_admits_list (h : t.isOpen = true) (items : List Value) : ¬t.Admits (.list items) := by
  cases t with
  | unknown => exact nofun
  | any => rintro (same | same) <;> cases same
  | _ => cases h

/-- Values that are foretold one by one are all different from null, so no operation is cut short by
null. -/
theorem ne_null_of_foretells {ts : List ValueType} {vs : List Value}
    (each : List.Forall₂ Foretells ts vs) : ∀ v ∈ vs, v ≠ .null := by
  induction each with
  | nil => exact nofun
  | cons here _ ih => exact List.forall_mem_cons.2 ⟨here.notNull, ih⟩

end ValueType

open ValueType (Foretells foretells_of_nullOr not_admits_list)

/-- What is not null is not taken for null, in the form in which the operations ask. -/
theorem Value.isNull_eq_false {v : Value} (h : v ≠ .null) : v.isNull = false := by
  cases v <;> first | rfl | exact absurd rfl h

/-- What has a float is a number. Texts, truth values and instants have none. -/
theorem Value.ofLiteral_of_float? {v : Value} {x : Float} (h : v.float? = some x) :
    ValueType.ofLiteral v = .number := by
  cases v <;> first | rfl | cases h

/-- An operand that is accepted gives no fault, whatever would have been reported. -/
theorem expectType_of_accepted {accepted : Bool} (h : accepted = true) (place : TypedPlace)
    (expected : ExpectedType) (found : ValueType) :
    expectType accepted place expected found = .ok () := by
  rw [expectType, if_pos h]

section Operators

variable {l r : ValueType} {v w x : Value}

/-- **Arithmetic that succeeds** has numbers on both sides, or joins two texts. The second is what
the types do not know of. -/
theorem Arithmetic.operands_of_apply {a : Arithmetic} (left : v ≠ .null) (right : w ≠ .null)
    (result : a.apply v w = .ok x) :
    (ValueType.ofLiteral v = .number ∧ ValueType.ofLiteral w = .number) ∨
      a = .add ∧ ∃ s t, v = .text s ∧ w = .text t := by
  rw [apply, Value.isNull_eq_false left, Value.isNull_eq_false right, Bool.or_false,
    if_neg Bool.false_ne_true] at result
  dsimp only at result
  split at result
  · exact .inr ⟨rfl, _, _, rfl, rfl⟩
  · exact .inl ⟨rfl, rfl⟩
  · split at result
    · next l r => exact .inl ⟨Value.ofLiteral_of_float? l, Value.ofLiteral_of_float? r⟩
    · cases result

/-- **Values that have an order** meet. They are of one kind, or both of them are numbers. -/
theorem Value.fits_of_compare {o : Ordering} (h : v.compare w = some o) :
    (ValueType.ofLiteral v).fits (ValueType.ofLiteral w) = true := by
  cases v <;> cases w <;> first | rfl | cases h

/-- A value beside another meets what it met before it was read as an instant. A text beside an
instant is read in this way, and the types allow for it. -/
theorem Value.fits_of_compare_asInstant {o : Ordering}
    (h : (asInstantBeside w v).compare (asInstantBeside v w) = some o) :
    (ValueType.ofLiteral v).fits (ValueType.ofLiteral w) = true := by
  cases v <;> cases w <;> first | rfl | exact fits_of_compare h

/-- **An order that succeeds** has values that meet. Equality asks for no order, and so for
nothing. -/
theorem Comparison.fits_of_apply {c : Comparison} {b : Bool} (left : v ≠ .null)
    (right : w ≠ .null) (result : c.apply v w = .ok b) (ordered : c ≠ .eq ∧ c ≠ .ne) :
    (ValueType.ofLiteral v).fits (ValueType.ofLiteral w) = true := by
  rw [apply, Value.isNull_eq_false left, Value.isNull_eq_false right, Bool.or_false,
    if_neg Bool.false_ne_true] at result
  dsimp only at result
  split at result
  · exact absurd rfl ordered.1
  · exact absurd rfl ordered.2
  · split at result
    · next found => exact Value.fits_of_compare_asInstant found
    · cases result

/-- Membership that succeeds has a list on the right. Of the left nothing is asked. -/
theorem ofLiteral_of_isMember {b : Bool} (right : w ≠ .null) (result : isMember v w = .ok b) :
    ValueType.ofLiteral w = .list := by
  cases w <;> first | rfl | exact absurd rfl right | cases result

/-- **A test of a text that succeeds** has texts on both sides, or searches a list. Only `contains`
does the second. -/
theorem TextMatch.operands_of_apply {m : TextMatch} {b : Bool} (left : v ≠ .null)
    (right : w ≠ .null) (result : m.apply v w = .ok b) :
    (ValueType.ofLiteral v = .text ∧ ValueType.ofLiteral w = .text) ∨
      m = .contains ∧ ∃ items, v = .list items := by
  unfold apply at result
  rw [Value.isNull_eq_false left, Value.isNull_eq_false right, Bool.or_false,
    if_neg Bool.false_ne_true] at result
  split at result
  · exact .inr ⟨rfl, _, rfl⟩
  · exact .inl ⟨rfl, rfl⟩
  · exact .inl ⟨rfl, rfl⟩
  · exact .inl ⟨rfl, rfl⟩
  · exact .inl ⟨rfl, rfl⟩
  · cases result

/-- Apart from connectives, no operator is decided by its left operand alone, so both operands have
values if the operation has. -/
theorem Operator.shortCut?_eq_none {op : Operator} (strict : ∀ c, op ≠ .connect c) (v : Value) :
    op.shortCut? v = none := by
  rw [Option.eq_none_iff_forall_ne_some]
  intro w decided
  obtain ⟨c, -, same, -⟩ := exists_bool_of_shortCut? decided
  exact strict c same

/-- The type of an operation is known: it is a number or a truth value, whatever the operands
are. -/
theorem Operator.isOpen_resultType {op : Operator} {t : ValueType}
    (typed : op.resultType l r = .ok t) : t.isOpen = false := by
  have result := resultType_eq_ok typed
  cases op with
  | arith a => rw [result.1]; rfl
  | _ => rw [show t = .boolean from result]; rfl

/-- The type of an operation with one operand is never open: it is a truth value or a number. -/
theorem UnaryOperator.isOpen_resultType {op : UnaryOperator} {t : ValueType}
    (typed : op.resultType l = .ok t) : t.isOpen = false := by
  cases op <;> (obtain ⟨u, -, typed⟩ := bind_eq_ok_iff.1 typed; cases typed; rfl)

/-- **An operation that succeeds has a type** if the types of its operands foretell them, unless it
joins two texts or searches a list that its type does not know to be one. -/
theorem Operator.exists_resultType {op : Operator} (strict : ∀ c, op ≠ .connect c)
    (left : l.Foretells v) (right : r.Foretells w) (notNull : x ≠ .null)
    (joins : op = .arith .add → ∀ s t, v = .text s → w ≠ .text t)
    (searches : op = .matchText .contains → ∀ items, v = .list items → l.isOpen = true →
      r.fits .text = true)
    (result : op.apply v w = .ok x) : ∃ t, op.resultType l r = .ok t ∧ t.Foretells x := by
  have comesTo := op.apply_meets v w
  rw [result] at comesTo
  cases op with
  | arith a =>
    rcases Arithmetic.operands_of_apply left.notNull right.notNull result with
      ⟨numberLeft, numberRight⟩ | ⟨rfl, s, t, rfl, rfl⟩
    · refine ⟨.number, ?_, ?_⟩
      · simp only [resultType, expectType_of_accepted (left.isNumeric numberLeft),
          expectType_of_accepted (right.isNumeric numberRight)]
        rfl
      · refine foretells_of_nullOr (comesTo.resolve_right ?_) notNull
        rintro ⟨s, t, rfl, -⟩
        cases numberLeft
    · exact absurd rfl (joins rfl s t rfl)
  | compare c =>
    obtain ⟨b, rfl⟩ := comesTo
    obtain ⟨b', result, -⟩ := map_eq_ok_iff.1 result
    refine ⟨.boolean, ?_, notNull, .inr rfl⟩
    cases c with
    | eq | ne => rfl
    | _ =>
      have meet := Comparison.fits_of_apply left.notNull right.notNull result (by decide)
      simp only [resultType, expectType_of_accepted (left.fits_both right meet)]
      rfl
  | connect c => exact absurd rfl (strict c)
  | isIn =>
    obtain ⟨b, rfl⟩ := comesTo
    obtain ⟨b', result, -⟩ := map_eq_ok_iff.1 result
    have accepts : (r == .list || r.isOpen) = true := by
      rw [ValueType.isList_eq_fits]
      exact right.fits (by rw [ofLiteral_of_isMember right.notNull result]; rfl)
    exact ⟨.boolean, by simp [resultType, expectType_of_accepted accepts], notNull, .inr rfl⟩
  | matchText m =>
    obtain ⟨b, rfl⟩ := comesTo
    obtain ⟨b', result, -⟩ := map_eq_ok_iff.1 result
    refine ⟨.boolean, ?_, notNull, .inr rfl⟩
    have ofTexts (acceptsLeft : l.fits .text = true) (acceptsRight : r.fits .text = true) :
        resultType (.matchText m) l r = .ok .boolean := by
      simp only [resultType, expectType_of_accepted acceptsLeft,
        expectType_of_accepted acceptsRight]
      split <;> rfl
    rcases TextMatch.operands_of_apply left.notNull right.notNull result with
      ⟨textLeft, textRight⟩ | ⟨rfl, items, rfl⟩
    · exact ofTexts (left.fits (by rw [textLeft]; rfl)) (right.fits (by rw [textRight]; rfl))
    · rcases left.type with openLeft | rfl
      · exact ofTexts (by simp [ValueType.fits, openLeft]) (searches rfl items rfl openLeft)
      · rfl

/-- **A negation of a number that succeeds** has a type. The logical negation is left to those who
ask for truth values. -/
theorem UnaryOperator.exists_resultType {op : UnaryOperator} (strict : op ≠ .not)
    (operand : l.Foretells v) (notNull : x ≠ .null)
    (result : op.apply v = .ok x) : ∃ t, op.resultType l = .ok t ∧ t.Foretells x := by
  cases op with
  | not => exact absurd rfl strict
  | negate =>
    have comesTo := negate.apply_meets v
    rw [result] at comesTo
    have isNumber : ValueType.ofLiteral v = .number := by
      cases v <;> first | rfl | exact absurd rfl operand.notNull | cases result
    refine ⟨.number, ?_, foretells_of_nullOr comesTo notNull⟩
    simp only [resultType, expectType_of_accepted (operand.isNumeric isNumber)]
    rfl

end Operators

namespace ScalarFunction

section Arguments

variable {f : ScalarFunction} {v x : Value}

/-- An argument from which a text is taken is a text, as every other value is refused there. -/
theorem ofLiteral_of_textOf {s : String} (h : f.textOf v = .ok s) :
    ValueType.ofLiteral v = .text := by
  cases v <;> first | rfl | cases h

/-- An argument from which an instant is taken fits an instant: it is one, or a text that names
one. -/
theorem fits_of_instantOf {t : Time.Instant} (h : f.instantOf v = .ok t) :
    (ValueType.ofLiteral v).fits .instant = true := by
  cases v <;> first | rfl | cases h

/-- An argument of a function of floats that succeeds is a number, whole or not. -/
theorem ofLiteral_of_numeric {g : Float → Float} (h : f.numeric g v = .ok x) :
    ValueType.ofLiteral v = .number := by
  rw [numeric] at h
  split at h
  · cases h
  · next found => exact Value.ofLiteral_of_float? found

/-- An argument that is rounded is a number. A whole one is rounded to itself. -/
theorem ofLiteral_of_rounding {g : Float → Float} (h : f.rounding g v = .ok x) :
    ValueType.ofLiteral v = .number := by
  unfold rounding at h
  split at h
  · rfl
  · exact ofLiteral_of_numeric h

/-- An argument that has a magnitude is a number, also if it is the least integer, whose magnitude
overflows. -/
theorem ofLiteral_of_magnitude (h : magnitude v = .ok x) : ValueType.ofLiteral v = .number := by
  unfold magnitude at h
  split at h
  · rfl
  · exact ofLiteral_of_numeric h

end Arguments

variable {f : ScalarFunction} {u v w x : Value} {expected : ValueType}

/-- A text that a function reads first is a text, whatever the function does with it next. -/
theorem fits_of_textOf_bind {α : Type} {next : String → Except EvalError α} {a : α}
    (h : (f.textOf v >>= next) = .ok a) : (ValueType.ofLiteral v).fits .text = true := by
  obtain ⟨s, found, -⟩ := bind_eq_ok_iff.1 h
  rw [ofLiteral_of_textOf found]
  rfl

/-- Where a computation that starts with an instant succeeds, the argument fits one; this is the
form that the functions of instants have. -/
theorem fits_of_instantOf_bind {α : Type} {next : Time.Instant → Except EvalError α} {a : α}
    (h : (f.instantOf v >>= next) = .ok a) : (ValueType.ofLiteral v).fits .instant = true := by
  obtain ⟨t, found, -⟩ := bind_eq_ok_iff.1 h
  exact fits_of_instantOf found

/-- **A function of one argument that succeeds has an argument of the type that it expects**, by the
cases of functions, each of which takes its argument before anything else. -/
theorem fits_of_applyOne (first : f.firstType? = some expected) (h : f.applyOne v = .ok x) :
    (ValueType.ofLiteral v).fits expected = true := by
  cases f with
  | abs => cases first; rw [ofLiteral_of_magnitude h]; rfl
  | round | floor | ceil => cases first; rw [ofLiteral_of_rounding h]; rfl
  | sqrt | ln => cases first; rw [ofLiteral_of_numeric h]; rfl
  | lower | upper | trim => cases first; exact fits_of_textOf_bind h
  | hour => cases first; exact fits_of_instantOf_bind h
  | _ => first | cases h | cases first

/-- The same for a function of two arguments, of which the first one is checked against a type. -/
theorem fits_of_applyTwo (first : f.firstType? = some expected) (h : f.applyTwo v w = .ok x) :
    (ValueType.ofLiteral v).fits expected = true := by
  cases f with
  | startsWith | endsWith | substr | regexMatch | regexExtract | regexSplit | regexCount =>
    cases first
    exact fits_of_textOf_bind h
  | dateDiff => cases first; exact fits_of_instantOf_bind h
  | extract | formatDate =>
    -- the instant is read before the text, though it is the second argument
    cases first
    obtain ⟨t, -, h⟩ := bind_eq_ok_iff.1 h
    exact fits_of_textOf_bind h
  | _ => first | cases h | cases first

/-- The same for a function of three arguments. Only the first is checked, as before. -/
theorem fits_of_applyThree (first : f.firstType? = some expected)
    (h : f.applyThree u v w = .ok x) : (ValueType.ofLiteral u).fits expected = true := by
  have text := fits_of_textOf_bind h
  obtain ⟨s, -, h⟩ := bind_eq_ok_iff.1 h
  cases f with
  | substr | replace | regexReplace => cases first; exact text
  | _ => cases h

/-- **A call that succeeds** has a first argument that fits where the function expects it. There is
a lemma above for each way in which functions read it. -/
theorem fits_of_apply {args : List Value} (other : f ≠ coalesce)
    (notNull : ∀ a ∈ v :: args, a ≠ .null) (first : f.firstType? = some expected)
    (h : f.apply (v :: args) = .ok x) : (ValueType.ofLiteral v).fits expected = true := by
  have noNull : ¬(v :: args).any Value.isNull = true := by
    rw [List.any_eq_true]
    rintro ⟨a, ha, null⟩
    rw [Value.isNull_eq_false (notNull a ha)] at null
    cases null
  have noConcat : f ≠ concat := by
    rintro rfl
    cases first
  unfold ScalarFunction.apply at h
  rw [if_neg other, if_neg noNull, if_neg noConcat] at h
  split at h
  · cases h
  · split at h
    · next same =>
      cases same
      exact fits_of_applyOne first h
    · next same =>
      cases same
      exact fits_of_applyTwo first h
    · next same =>
      cases same
      exact fits_of_applyThree first h
    · cases h

/-- The type of a call is known, unless it chooses among its arguments. Then it has the type of one
of them. -/
theorem isOpen_resultType {ts : List ValueType} {t : ValueType} (other : f ≠ coalesce)
    (typed : f.resultType ts = .ok t) : t.isOpen = false := by
  rw [resultType_eq_ok typed]
  cases f <;> first | rfl | exact absurd rfl other

/-- **A call that succeeds has a type** if the types of its arguments foretell them, and the type
foretells what the call comes to. -/
theorem exists_resultType {ts : List ValueType} {args : List Value} (other : f ≠ coalesce)
    (each : List.Forall₂ Foretells ts args) (notNull : x ≠ .null) (result : f.apply args = .ok x) :
    ∃ t, f.resultType ts = .ok t ∧ t.Foretells x := by
  have comesTo := f.apply_meets args
  rw [result] at comesTo
  refine ⟨f.valueType ts, ?_, ?_⟩
  · unfold resultType
    split
    · next expected found rest first =>
      cases each with
      | cons here rest =>
        have accepts := here.fits
          (fits_of_apply other (ValueType.ne_null_of_foretells (.cons here rest)) first result)
        rw [expectType_of_accepted accepts]
        rfl
    · rfl
  · rw [valueType_eq other]
    exact foretells_of_nullOr (comesTo other) notNull

end ScalarFunction

namespace Formula

/-- Whether the operation of a formula, if it is one, is applied to every operand and refuses some:
it is neither a connective nor the negation of a condition, does not choose among its arguments and
is not the value of an aggregate. -/
def isStrict : Formula → Bool
  | unary .not _ | binary _ (.connect _) _ | call .coalesce _ | slot _ => false
  | _ => true

section Exceptions

variable (types : AttributeTypes) (ts : List ValueType) (ctx : EvalContext) (f : Formula)

/-- A formula adds two texts, which joins them. -/
def JoinsTexts : Prop :=
  ∃ l r s t, f = binary l (.arith .add) r ∧
    l.evaluate ctx = .ok (.text s) ∧ r.evaluate ctx = .ok (.text t)

/-- A formula searches a list that the source event has for a value whose type is known, and not
that of a text. -/
def SearchesSourceList : Prop :=
  ∃ path r items t w, f = binary (sourceAttr path) (.matchText .contains) r ∧
    (sourceAttr path).evaluate ctx = .ok (.list items) ∧ r.evaluate ctx = .ok w ∧
    r.infer types ts = .ok t ∧ t.fits .text = false

/-- **A part is regular** if it applies its operation to every operand, is not null, and is neither
of the two operations that the types do not foretell. -/
structure Regular : Prop where
  strict : f.isStrict = true
  notNull : f.evaluate ctx ≠ .ok .null
  joins : ¬f.JoinsTexts ctx
  searches : ¬f.SearchesSourceList types ts ctx

/-- **A formula is misjudged** if it has a value, and the types refuse it or give it a known type
other than that of the value. -/
def Misjudged : Prop :=
  ∃ v, f.evaluate ctx = .ok v ∧
    ∀ t, f.infer types ts = .ok t → t.isOpen = false ∧ ValueType.ofLiteral v ≠ t

variable {types ts ctx f}

/-- Without a connective both operands are evaluated, and the operation is applied to what they come
to. -/
theorem evaluate_binary (op : Operator) (strict : ∀ c, op ≠ .connect c) {l r : Formula}
    {v w : Value} (left : l.evaluate ctx = .ok v) (right : r.evaluate ctx = .ok w) :
    (binary l op r).evaluate ctx = op.apply v w := by
  rw [evaluate, left, ok_bind, Operator.shortCut?_eq_none strict, right]
  rfl

/-- **Two texts are joined,** and what is typed is typed as a number. So the sum is misjudged
wherever both operands are texts. -/
theorem JoinsTexts.misjudged (h : f.JoinsTexts ctx) : f.Misjudged types ts ctx := by
  obtain ⟨l, r, s, s', rfl, left, right⟩ := h
  refine ⟨.text (s ++ s'), evaluate_binary (.arith .add) (by simp) left right, ?_⟩
  intro t inferred
  rw [infer] at inferred
  obtain ⟨lt, -, inferred⟩ := bind_eq_ok_iff.1 inferred
  obtain ⟨rt, -, inferred⟩ := bind_eq_ok_iff.1 inferred
  obtain ⟨rfl, -⟩ := Operator.resultType_eq_ok inferred
  exact ⟨rfl, fun same => by cases same⟩

/-- **A list of the source event is searched,** and the formula has no type, for nothing is known of
the types of the source event. -/
theorem SearchesSourceList.misjudged (h : f.SearchesSourceList types ts ctx) :
    f.Misjudged types ts ctx := by
  obtain ⟨path, r, items, rt, w, rfl, left, right, inferredRight, noText⟩ := h
  obtain ⟨b, searched⟩ : ∃ b, TextMatch.apply .contains (.list items) w = .ok b := by
    unfold TextMatch.apply
    split <;> exact ⟨_, rfl⟩
  have evaluated := evaluate_binary (.matchText .contains) (by simp) left right
  rw [Operator.apply, searched] at evaluated
  refine ⟨.bool b, evaluated, ?_⟩
  intro t inferred
  rw [infer, infer, ok_bind, inferredRight, ok_bind] at inferred
  obtain ⟨_, -, inferred⟩ := bind_eq_ok_iff.1 inferred
  obtain ⟨_, accepted, -⟩ := bind_eq_ok_iff.1 inferred
  rw [expectType_eq_ok accepted] at noText
  cases noText

/-- A source event with a list is searched for a number. -/
example : SearchesSourceList ⟨[]⟩ []
    ⟨none, some { paymentOfThree with attributes := ⟨[("parts", .list [.int 1, .int 2])]⟩ }, none,
      []⟩
    (binary (sourceAttr "parts") (.matchText .contains) (literal (.int 2))) :=
  ⟨"parts", _, _, _, _, rfl, rfl, rfl, rfl, rfl⟩

/-- No part of a regular formula is null, and so neither is the formula, which is one of its
parts. -/
theorem Regular.ne_null {v : Value} (h : Regular types ts ctx f)
    (evaluated : f.evaluate ctx = .ok v) : v ≠ .null := by
  rintro rfl
  exact h.notNull evaluated

end Exceptions

variable {s : EventSchema} {ts : List ValueType} {ctx : EvalContext}

/-- **Only the source event has lists that the types do not know of.** Whatever else has an open
type and a value has a truth value or none. -/
theorem exists_sourceAttr (conforms : ∀ e ∈ ctx.event, e.Conforms s) {f : Formula}
    (strict : f.isStrict = true) {t : ValueType} (inferred : f.infer s.types ts = .ok t)
    (unknown : t.isOpen = true) {items : List Value}
    (evaluated : f.evaluate ctx = .ok (.list items)) : ∃ path, f = sourceAttr path := by
  cases f with
  | literal v =>
    cases evaluated
    cases inferred
    cases unknown
  | attr path =>
    -- an attribute of an open type is one that no event has that conforms
    have admits := read_admits conforms path
    cases inferred
    rw [Except.ok.inj evaluated] at admits
    exact absurd admits (not_admits_list unknown items)
  | sourceAttr path => exact ⟨path, rfl⟩
  | field g => cases g <;> cases inferred <;> cases unknown
  | entity _ _ | observationTime =>
    cases inferred
    cases unknown
  | wildcard => cases evaluated
  | list _ =>
    obtain ⟨_, -, inferred⟩ := bind_eq_ok_iff.1 inferred
    cases inferred
    cases unknown
  | unary op _ =>
    obtain ⟨_, -, inferred⟩ := bind_eq_ok_iff.1 inferred
    rw [UnaryOperator.isOpen_resultType inferred] at unknown
    cases unknown
  | binary _ op _ =>
    obtain ⟨_, -, inferred⟩ := bind_eq_ok_iff.1 inferred
    obtain ⟨_, -, inferred⟩ := bind_eq_ok_iff.1 inferred
    rw [Operator.isOpen_resultType inferred] at unknown
    cases unknown
  | call g _ =>
    obtain ⟨_, -, inferred⟩ := bind_eq_ok_iff.1 inferred
    have other : g ≠ coalesce := by
      rintro rfl
      cases strict
    rw [ScalarFunction.isOpen_resultType other inferred] at unknown
    cases unknown
  | slot _ => cases strict

mutual

/-- **A formula of regular parts that has a value has a type,** which foretells the value. By
recursion on formulas; the operations are those of the lemmas above. -/
theorem exists_infer (conforms : ∀ e ∈ ctx.event, e.Conforms s) :
    ∀ (f : Formula) (v : Value), (∀ g ∈ f.parts, Regular s.types ts ctx g) →
      f.evaluate ctx = .ok v → ∃ t, f.infer s.types ts = .ok t ∧ t.Foretells v
  | literal _, _, regular, evaluated => by
    have notNull := (regular _ (mem_parts _)).ne_null evaluated
    cases evaluated
    exact ⟨_, rfl, notNull, .inr rfl⟩
  | attr path, _, regular, evaluated => by
    have notNull := (regular _ (mem_parts _)).ne_null evaluated
    cases evaluated
    exact ⟨_, rfl, (read_admits conforms path).foretells notNull⟩
  | sourceAttr _, _, regular, evaluated =>
    ⟨_, rfl, (regular _ (mem_parts _)).ne_null evaluated, .inl rfl⟩
  | field f, _, regular, evaluated => by
    have notNull := (regular _ (mem_parts _)).ne_null evaluated
    cases evaluated
    obtain ⟨t, inferred⟩ : ∃ t, (field f).infer s.types ts = .ok t := by
      cases f <;> exact ⟨_, rfl⟩
    exact ⟨t, inferred, (field_admits ctx inferred).foretells notNull⟩
  | entity _ _, _, regular, evaluated => by
    have notNull := (regular _ (mem_parts _)).ne_null evaluated
    cases evaluated
    exact ⟨_, rfl, foretells_of_nullOr (Value.nullOr_getD_map Value.text (fun _ => rfl) _) notNull⟩
  | observationTime, _, regular, evaluated => by
    have notNull := (regular _ (mem_parts _)).ne_null evaluated
    cases evaluated
    exact ⟨_, rfl, foretells_of_nullOr
      (Value.nullOr_getD_map (fun p => Value.instant p.instant) (fun _ => rfl) ctx.point) notNull⟩
  | wildcard, _, regular, evaluated =>
    ⟨_, rfl, (regular _ (mem_parts _)).ne_null evaluated, .inl rfl⟩
  | list items, _, regular, evaluated => by
    rw [evaluate] at evaluated
    obtain ⟨vs, evaluatedItems, evaluated⟩ := bind_eq_ok_iff.1 evaluated
    cases evaluated
    obtain ⟨us, inferred, -⟩ := exists_inferAll conforms items vs
      (fun g hg => regular g (List.mem_cons_of_mem _ hg)) evaluatedItems
    exact ⟨.list, by rw [infer, inferred]; rfl, nofun, .inr rfl⟩
  | unary op operand, x, regular, evaluated => by
    have whole := regular _ (mem_parts _)
    have notNull := whole.ne_null evaluated
    have inner : ∀ g ∈ operand.parts, Regular s.types ts ctx g := fun g hg =>
      regular g (List.mem_cons_of_mem _ hg)
    rw [evaluate] at evaluated
    obtain ⟨v, evaluatedOperand, applied⟩ := bind_eq_ok_iff.1 evaluated
    obtain ⟨u, inferred, foretold⟩ := exists_infer conforms operand v inner evaluatedOperand
    have strict : op ≠ .not := by
      rintro rfl
      cases whole.strict
    rw [infer, inferred]
    exact UnaryOperator.exists_resultType strict foretold notNull applied
  | binary left op right, x, regular, evaluated => by
    have whole := regular _ (mem_parts _)
    have notNull := whole.ne_null evaluated
    have ofLeft : ∀ g ∈ left.parts, Regular s.types ts ctx g := fun g hg =>
      regular g (List.mem_cons_of_mem _ (List.mem_append_left _ hg))
    have ofRight : ∀ g ∈ right.parts, Regular s.types ts ctx g := fun g hg =>
      regular g (List.mem_cons_of_mem _ (List.mem_append_right _ hg))
    rw [evaluate] at evaluated
    obtain ⟨v, evaluatedLeft, evaluated⟩ := bind_eq_ok_iff.1 evaluated
    have strict : ∀ c, op ≠ .connect c := by
      rintro c rfl
      cases whole.strict
    -- without a connective the right operand is evaluated, so it has a value as well
    rw [Operator.shortCut?_eq_none strict] at evaluated
    obtain ⟨w, evaluatedRight, applied⟩ := bind_eq_ok_iff.1 evaluated
    obtain ⟨l, inferredLeft, foretoldLeft⟩ := exists_infer conforms left v ofLeft evaluatedLeft
    obtain ⟨r, inferredRight, foretoldRight⟩ :=
      exists_infer conforms right w ofRight evaluatedRight
    rw [infer, inferredLeft, inferredRight]
    refine Operator.exists_resultType strict foretoldLeft foretoldRight notNull ?_ ?_ applied
    · rintro rfl a b rfl rfl
      exact whole.joins ⟨left, right, a, b, rfl, evaluatedLeft, evaluatedRight⟩
    · rintro rfl items rfl unknown
      obtain ⟨path, rfl⟩ := exists_sourceAttr conforms (ofLeft left (mem_parts _)).strict
        inferredLeft unknown evaluatedLeft
      by_contra noText
      exact whole.searches ⟨path, right, items, r, w, rfl, evaluatedLeft, evaluatedRight,
        inferredRight, Bool.eq_false_of_not_eq_true noText⟩
  | call f args, x, regular, evaluated => by
    have whole := regular _ (mem_parts _)
    have notNull := whole.ne_null evaluated
    have other : f ≠ coalesce := by
      rintro rfl
      cases whole.strict
    rw [evaluate] at evaluated
    obtain ⟨vs, evaluatedArgs, applied⟩ := bind_eq_ok_iff.1 evaluated
    obtain ⟨us, inferred, foretold⟩ := exists_inferAll conforms args vs
      (fun g hg => regular g (List.mem_cons_of_mem _ hg)) evaluatedArgs
    rw [infer, inferred]
    exact ScalarFunction.exists_resultType other foretold notNull applied
  | slot _, _, regular, _ => by cases (regular _ (mem_parts _)).strict

/-- Formulas of regular parts that have values have types, which foretell the values, along with
single ones. -/
theorem exists_inferAll (conforms : ∀ e ∈ ctx.event, e.Conforms s) :
    ∀ (fs : List Formula) (vs : List Value), (∀ g ∈ partsOfAll fs, Regular s.types ts ctx g) →
      evaluateAll ctx fs = .ok vs → ∃ us, inferAll s.types ts fs = .ok us ∧
        List.Forall₂ Foretells us vs
  | [], _, _, evaluated => by
    cases evaluated
    exact ⟨[], rfl, .nil⟩
  | f :: rest, _, regular, evaluated => by
    rw [partsOfAll, List.forall_mem_append] at regular
    rw [evaluateAll] at evaluated
    obtain ⟨v, evaluatedFirst, evaluated⟩ := bind_eq_ok_iff.1 evaluated
    obtain ⟨vs, evaluatedRest, evaluated⟩ := bind_eq_ok_iff.1 evaluated
    cases evaluated
    obtain ⟨t, inferredFirst, foretold⟩ := exists_infer conforms f v regular.1 evaluatedFirst
    obtain ⟨us, inferredRest, each⟩ := exists_inferAll conforms rest vs regular.2 evaluatedRest
    exact ⟨t :: us, by rw [inferAll, inferredFirst, ok_bind, inferredRest]; rfl,
      .cons foretold each⟩

end

/-- **What the types refuse fails,** but for two operations. Take a formula without connectives, the
negation of a condition, `coalesce` and slots, and an event that conforms to the schema, on which no
part of the formula is null. If the types refuse the formula, it fails at every observation and
source event, or one of its parts joins two texts or searches a list of the source event. Such a
part is misjudged: it has a value all the same, and the types refuse the part or give it a type
other than its value's. -/
theorem fails_of_refused {f : Formula} (conforms : ∀ e ∈ ctx.event, e.Conforms s)
    (strict : ∀ g ∈ f.parts, g.isStrict = true)
    (notNull : ∀ g ∈ f.parts, g.evaluate ctx ≠ .ok .null) :
    (Fails (f.infer s.types ts) → Fails (f.evaluate ctx) ∨
      ∃ g ∈ f.parts, g.JoinsTexts ctx ∨ g.SearchesSourceList s.types ts ctx) ∧
    ∀ g ∈ f.parts, g.JoinsTexts ctx ∨ g.SearchesSourceList s.types ts ctx →
      g.Misjudged s.types ts ctx := by
  constructor
  · intro refused
    by_contra neither
    obtain ⟨succeeds, none⟩ := not_or.1 neither
    have regular : ∀ g ∈ f.parts, Regular s.types ts ctx g := fun g hg =>
      ⟨strict g hg, notNull g hg, fun joins => none ⟨g, hg, .inl joins⟩,
        fun searches => none ⟨g, hg, .inr searches⟩⟩
    obtain ⟨v, evaluated⟩ := not_fails_iff.1 succeeds
    obtain ⟨t, inferred, -⟩ := exists_infer conforms f v regular evaluated
    exact not_fails_of_eq_ok inferred refused
  · rintro g - (joins | searches)
    · exact joins.misjudged
    · exact searches.misjudged

/-- Twice the status of a payment, which is a text. -/
def twiceStatus : Formula := binary (attr "status") (.arith .mul) (literal (.int 2))

/-- Twice a text is refused, and fails, as it should: no text is a number. -/
theorem fails_of_refused_of_twiceStatus :
    paymentOfThree.Conforms paymentSchema ∧ Fails (twiceStatus.infer paymentSchema.types []) ∧
    Fails (twiceStatus.evaluate (.ofEvent paymentOfThree)) := by
  have refused : Fails (twiceStatus.infer paymentSchema.types []) := ⟨_, rfl⟩
  have strict : ∀ g ∈ twiceStatus.parts, g.isStrict = true := by
    simp [twiceStatus, parts, isStrict]
  have notNull : ∀ g ∈ twiceStatus.parts, g.evaluate (.ofEvent paymentOfThree) ≠ .ok .null := by
    simp only [twiceStatus, parts, List.forall_mem_cons, List.cons_append, List.nil_append]
    exact ⟨nofun, nofun, nofun, nofun⟩
  have conforms : ∀ e ∈ (EvalContext.ofEvent paymentOfThree).event, e.Conforms paymentSchema :=
    fun e he => Option.mem_some.1 he ▸ paymentOfThree_conforms
  refine ⟨paymentOfThree_conforms, refused, ?_⟩
  refine ((fails_of_refused conforms strict notNull).1 refused).resolve_right ?_
  simp [twiceStatus, parts, JoinsTexts, SearchesSourceList]

/-- The status of a payment with a question mark after it. -/
def doubtedStatus : Formula := binary (attr "status") (.arith .add) (literal (.text "?"))

/-- **A text joined to another is refused, and has a value.** So refusing is not always foreseeing a
fault, and the exception in the theorem above is needed. -/
theorem refused_with_value_of_doubtedStatus :
    paymentOfThree.Conforms paymentSchema ∧
    (∀ g ∈ doubtedStatus.parts,
      g.isStrict = true ∧ g.evaluate (.ofEvent paymentOfThree) ≠ .ok .null) ∧
    Fails (doubtedStatus.infer paymentSchema.types []) ∧
    doubtedStatus.evaluate (.ofEvent paymentOfThree) = .ok (.text "paid?") := by
  refine ⟨paymentOfThree_conforms, ?_, ⟨_, rfl⟩, rfl⟩
  simp only [doubtedStatus, parts, List.forall_mem_cons, List.cons_append, List.nil_append]
  exact ⟨⟨rfl, nofun⟩, ⟨rfl, nofun⟩, ⟨rfl, nofun⟩, nofun⟩

end Formula

end Hindsight
