import Hindsight.Eval.Function
import Hindsight.Plan.Typing
import Hindsight.Proofs.Except

/-!
# What operations and functions come to

One specification for each operation and each scalar function: the type of the value that it comes
to, and that what it fails with is about the operation and not about a slot or an accumulator
(`EvalError.isOperational`). Arithmetic comes to a number or null unless it joins two texts
(`Arithmetic.apply_meets`). Every other operation comes to a truth value, and a function to null or
a value of its type (`ScalarFunction.apply_meets`).
-/

namespace Hindsight

universe u v

/-- **A computation meets a specification:** what it comes to has one property, what it fails with
has another. -/
def Meets {ε : Type u} {α : Type v} (x : Except ε α) (Q : α → Prop) (P : ε → Prop) : Prop :=
  match x with
  | .ok a => Q a
  | .error e => P e

namespace Meets

variable {ε : Type u} {α β : Type v} {x : Except ε α} {Q R : α → Prop} {P : ε → Prop}

/-- Less may be said about what a computation comes to, and what is said about its faults stays. -/
theorem imp (h : Meets x Q P) (weaker : ∀ a, Q a → R a) : Meets x R P := by
  cases x with
  | ok a => exact weaker a h
  | error e => exact h

/-- A fault may be said less about, and what is said about the result stays. -/
theorem weaken (h : Meets x Q P) {P' : ε → Prop} (weaker : ∀ e, P e → P' e) : Meets x Q P' := by
  cases x with
  | ok a => exact h
  | error e => exact weaker e h

/-- What a first step comes to is what the second one starts from. A fault of either is a fault of
both. -/
theorem bind (h : Meets x Q P) {f : α → Except ε β} {S : β → Prop}
    (next : ∀ a, Q a → Meets (f a) S P) : Meets (x >>= f) S P := by
  cases x with
  | ok a => exact next a h
  | error e => exact h

/-- What becomes of a result meets what follows from the specification of the result; faults pass
through unchanged. -/
theorem map (h : Meets x Q P) {f : α → β} {S : β → Prop} (next : ∀ a, Q a → S (f a)) :
    Meets (x.map f) S P := by
  cases x with
  | ok a => exact next a h
  | error e => exact h

end Meets

/-- Whether a fault is about an operation on values, and not about a slot or an accumulator. -/
def EvalError.isOperational : EvalError → Bool
  | uncomputedSlot _ | noNumber _ _ | differentFunctions _ _ => false
  | _ => true

/-- A computation meets a specification, or it fails because of an operation. -/
abbrev ComesTo {α : Type} (x : Except EvalError α) (Q : α → Prop) : Prop :=
  Meets x Q fun e => e.isOperational = true

/-- A value is null or has a type. -/
def Value.NullOr (t : ValueType) (v : Value) : Prop := v = .null ∨ ValueType.ofLiteral v = t

/-- Null is null or of any type. -/
@[simp] theorem Value.nullOr_null (t : ValueType) : Value.null.NullOr t := .inl rfl

/-- An integer is a number, so it may stand where null or a number is promised. -/
@[simp] theorem Value.nullOr_int (n : Int) : (Value.int n).NullOr .number := .inr rfl

/-- A float is a number, so it may stand where null or a number is promised. -/
@[simp] theorem Value.nullOr_float (x : Float) : (Value.float x).NullOr .number := .inr rfl

/-- What may be missing is null where it is, and of the type of what is there otherwise. -/
theorem Value.nullOr_getD_map {α : Type} {t : ValueType} (f : α → Value)
    (h : ∀ a, ValueType.ofLiteral (f a) = t) (x : Option α) :
    ((x.map f).getD .null).NullOr t := by
  cases x with
  | none => exact .inl rfl
  | some a => exact .inr (h a)

section Operations

/-- A comparison comes to a truth value, or fails on values that have no order. -/
theorem Comparison.apply_meets (c : Comparison) (l r : Value) :
    ComesTo (c.apply l r) fun _ => True := by
  rw [apply]
  split
  · trivial
  · cases c <;> first | trivial | (dsimp only; split <;> trivial)

/-- Membership comes to a truth value, or fails where the right side is no list. -/
theorem isMember_meets (v w : Value) : ComesTo (isMember v w) fun _ => True := by
  cases w <;> trivial

/-- A match against a pattern comes to a truth value, or fails on a pattern that is no regular
expression. -/
theorem matchesPattern_meets (s p : String) : ComesTo (matchesPattern s p) fun _ => True := by
  rw [matchesPattern]
  split <;> trivial

/-- A test of a text comes to a truth value, or fails on operands that are no texts or on a
pattern. -/
theorem TextMatch.apply_meets (m : TextMatch) (l r : Value) :
    ComesTo (m.apply l r) fun _ => True := by
  unfold TextMatch.apply
  split
  · trivial
  · split <;> first | trivial | exact matchesPattern_meets _ _

/-- A float is a number, and so is a NaN that it is replaced by. -/
theorem Value.nullOr_ofNumbers {l r : Value} (z : Float) : (ofNumbers l r z).NullOr .number := by
  rw [ofNumbers]
  split
  · exact nullOr_float z
  · split
    · next nan => cases l <;> first | exact .inr rfl | cases nan
    · split
      · next nan => cases r <;> first | exact .inr rfl | cases nan
      · exact .inr rfl

/-- **Arithmetic comes to a number or null,** unless it joins two texts. An overflow and a division
by zero come to null as well. -/
theorem Arithmetic.apply_meets (a : Arithmetic) (l r : Value) :
    ComesTo (a.apply l r) fun v =>
      v.NullOr .number ∨ ∃ s t, l = .text s ∧ r = .text t := by
  have approximate (x y : Float) :
      (((a.onFloats? x y).map (Value.ofNumbers l r)).getD .null).NullOr .number := by
    cases a.onFloats? x y with
    | none => exact Value.nullOr_null _
    | some z => exact Value.nullOr_ofNumbers z
  rw [apply]
  split
  · exact .inl (Value.nullOr_null _)
  · dsimp only
    split
    · exact .inr ⟨_, _, rfl, rfl⟩
    · split
      · exact .inl (Value.nullOr_int _)
      · exact .inl (approximate _ _)
    · split
      · exact .inl (approximate _ _)
      · trivial

/-- **An operation on two operands** comes to a truth value, unless it is arithmetic. There is one
case for each group of operators. -/
theorem Operator.apply_meets (op : Operator) (l r : Value) :
    ComesTo (op.apply l r) fun v =>
      match op with
      | .arith _ => v.NullOr .number ∨ ∃ s t, l = .text s ∧ r = .text t
      | _ => ∃ b, v = .bool b := by
  cases op with
  | compare c => exact (c.apply_meets l r).map fun b _ => ⟨b, rfl⟩
  | arith a => exact a.apply_meets l r
  | connect c => exact ⟨_, rfl⟩
  | matchText m => exact (m.apply_meets l r).map fun b _ => ⟨b, rfl⟩
  | isIn => exact (isMember_meets l r).map fun b _ => ⟨b, rfl⟩

/-- Only a connective is decided by its left operand alone, and then it comes to a truth value. -/
theorem Operator.exists_bool_of_shortCut? {op : Operator} {l v : Value}
    (h : op.shortCut? l = some v) : ∃ c b, op = .connect c ∧ v = .bool b := by
  unfold shortCut? at h
  split at h
  · split at h <;> cases h
    exact ⟨_, _, rfl, rfl⟩
  · split at h <;> cases h
    exact ⟨_, _, rfl, rfl⟩
  · cases h

/-- **An operation on one operand** comes to a truth value, or to a number or null, as its name
promises. -/
theorem UnaryOperator.apply_meets (op : UnaryOperator) (v : Value) :
    ComesTo (op.apply v) fun w =>
      match op with
      | .not => ∃ b, w = .bool b
      | .negate => w.NullOr .number := by
  cases op with
  | not => exact ⟨_, rfl⟩
  | negate =>
    cases v with
    | int n =>
      show Value.NullOr .number _
      split <;> exact .inr rfl
    | float x =>
      show Value.NullOr .number _
      split <;> exact .inr rfl
    | _ => first | exact .inl rfl | exact .inr rfl | trivial

end Operations

namespace ScalarFunction

section Arguments

variable (f : ScalarFunction) (v : Value)

/-- The text of an argument is taken, or the function is refused for its operand. -/
theorem textOf_meets : ComesTo (f.textOf v) fun _ => True := by
  cases v <;> trivial

/-- The integer of an argument is taken, or the function is refused for its operand. -/
theorem integerOf_meets : ComesTo (f.integerOf v) fun _ => True := by
  cases v <;> trivial

/-- The instant of an argument is taken, from an instant or from a text that names one, or the
function is refused. -/
theorem instantOf_meets : ComesTo (f.instantOf v) fun _ => True := by
  cases v with
  | text s =>
    rw [instantOf]
    split <;> trivial
  | _ => trivial

/-- A pattern is compiled, or refused as one that is no regular expression. -/
theorem regexOf_meets (p : String) : ComesTo (regexOf p) fun _ => True := by
  rw [regexOf]
  split <;> trivial

/-- A function of floats comes to a number, or fails on what is no number. -/
theorem numeric_meets (g : Float → Float) : ComesTo (f.numeric g v) (Value.NullOr .number) := by
  rw [numeric]
  split
  · trivial
  · show Value.NullOr .number _
    split
    · exact .inl rfl
    · exact .inr rfl

/-- Rounding comes to a number, an integer where it was one, or fails on what is no number. -/
theorem rounding_meets (g : Float → Float) : ComesTo (f.rounding g v) (Value.NullOr .number) := by
  unfold rounding
  split
  · exact .inr rfl
  · exact numeric_meets f _ g

/-- A magnitude is a number, or null for the one integer whose magnitude does not fit; what is no
number is refused. -/
theorem magnitude_meets : ComesTo (magnitude v) (Value.NullOr .number) := by
  unfold magnitude
  split
  · exact Value.nullOr_getD_map Value.int (fun _ => rfl) _
  · exact numeric_meets _ _ _

/-- The size of a text, a list or a map is a number, and nothing else has one. -/
theorem size_meets : ComesTo (size v) (Value.NullOr .number) := by
  cases v <;> first | exact .inr rfl | trivial

/-- A part of a text is a text, and characters that the text does not have are refused as out of
bounds. -/
theorem slice_meets (s : String) (start : Int) (length : Option Int) :
    ComesTo (slice s start length) (Value.NullOr .text) := by
  rw [slice]
  split
  · exact .inr rfl
  · trivial

/-- A part of an instant is computed, or refused for its name. -/
theorem datePart_meets (part : String) (t : Time.Instant) :
    ComesTo (datePart part t) fun _ => True := by
  unfold datePart
  -- `trivial` would look for a contradiction between the names of two parts
  split <;> first | exact True.intro | exact rfl

end Arguments

/-- **A function of one argument comes to null or a value of its type**, by the cases of functions;
those that take more arguments are refused here. -/
theorem applyOne_meets (f : ScalarFunction) (v : Value) :
    ComesTo (f.applyOne v) (Value.NullOr (f.valueType [])) := by
  cases f with
  | abs => exact magnitude_meets v
  | round | floor | ceil => exact rounding_meets _ v _
  | sqrt | ln => exact numeric_meets _ v _
  | lower | upper | trim => exact (textOf_meets _ v).bind fun _ _ => .inr rfl
  | length => exact size_meets v
  | hour => exact (instantOf_meets _ v).bind fun _ _ => .inr rfl
  | _ => trivial

/-- Searching a text or a list comes to null or a truth value. -/
theorem applyContains_meets (v w : Value) :
    ComesTo (applyContains v w) (Value.NullOr .boolean) := by
  unfold applyContains
  split
  · exact .inr rfl
  · exact (textOf_meets _ _).bind fun _ _ => (textOf_meets _ _).bind fun _ _ => .inr rfl

/-- **A function of two arguments comes to null or a value of its type**, by the cases of
functions. -/
theorem applyTwo_meets (f : ScalarFunction) (v w : Value) :
    ComesTo (f.applyTwo v w) (Value.NullOr (f.valueType [])) := by
  cases f with
  | contains => exact applyContains_meets v w
  | startsWith | endsWith =>
    exact (textOf_meets _ v).bind fun _ _ => (textOf_meets _ w).bind fun _ _ => .inr rfl
  | substr =>
    exact (textOf_meets _ v).bind fun _ _ => (integerOf_meets _ w).bind fun _ _ =>
      slice_meets _ _ _
  | regexMatch | regexSplit | regexCount =>
    exact (textOf_meets _ v).bind fun _ _ => (textOf_meets _ w).bind fun _ _ =>
      (regexOf_meets _).bind fun _ _ => .inr rfl
  | regexExtract =>
    exact (textOf_meets _ v).bind fun _ _ => (textOf_meets _ w).bind fun _ _ =>
      (regexOf_meets _).bind fun _ _ => Value.nullOr_getD_map Value.text (fun _ => rfl) _
  | dateDiff =>
    exact (instantOf_meets _ v).bind fun _ _ => (instantOf_meets _ w).bind fun _ _ => .inr rfl
  | extract =>
    exact (instantOf_meets _ w).bind fun _ _ => (textOf_meets _ v).bind fun _ _ =>
      (datePart_meets _ _).bind fun _ _ => .inr rfl
  | formatDate =>
    refine (instantOf_meets _ w).bind fun t _ => (textOf_meets _ v).bind fun pattern _ => ?_
    cases t.format? pattern with
    | none => trivial
    | some s => exact .inr rfl
  | _ => trivial

/-- **A function of three arguments comes to null or a value of its type**, by the cases of
functions. -/
theorem applyThree_meets (f : ScalarFunction) (u v w : Value) :
    ComesTo (f.applyThree u v w) (Value.NullOr (f.valueType [])) := by
  refine (textOf_meets f u).bind fun s _ => ?_
  cases f with
  | substr =>
    exact (integerOf_meets _ v).bind fun _ _ => (integerOf_meets _ w).bind fun _ _ =>
      slice_meets _ _ _
  | replace =>
    exact (textOf_meets _ v).bind fun _ _ => (textOf_meets _ w).bind fun _ _ => .inr rfl
  | regexReplace =>
    exact (textOf_meets _ v).bind fun _ _ => (textOf_meets _ w).bind fun _ _ =>
      (regexOf_meets _).bind fun _ _ => .inr rfl
  | _ => trivial

/-- The texts of all arguments are taken, or the function is refused at the first one that is no
text; by induction on the arguments. -/
theorem textsOf_meets (f : ScalarFunction) (vs : List Value) :
    ComesTo (vs.mapM f.textOf) fun _ => True := by
  induction vs with
  | nil => trivial
  | cons v vs ih =>
    rw [List.mapM_cons]
    exact (textOf_meets f v).bind fun _ _ => ih.bind fun _ _ => trivial

/-- **A function comes to null or a value of its type,** or to the first argument that is not null
if it is `coalesce`. -/
theorem apply_meets (f : ScalarFunction) (args : List Value) :
    ComesTo (f.apply args) fun v => f ≠ coalesce → v.NullOr (f.valueType []) := by
  unfold ScalarFunction.apply
  split
  · next same => exact fun differ => absurd same differ
  · split
    · trivial
    · split
      · exact fun _ => .inl rfl
      · split
        · next isConcat =>
          rw [isConcat]
          exact (textsOf_meets _ _).bind fun _ _ _ => .inr rfl
        · split
          · exact (applyOne_meets _ _).imp fun _ h _ => h
          · exact (applyTwo_meets _ _ _).imp fun _ h _ => h
          · exact (applyThree_meets _ _ _ _).imp fun _ h _ => h
          · trivial

/-- The type of the values depends on the arguments for `coalesce` only, which gives back one of
them. -/
theorem valueType_eq {f : ScalarFunction} (h : f ≠ coalesce) (ts : List ValueType) :
    f.valueType ts = f.valueType [] := by
  cases f <;> first | rfl | exact absurd rfl h

end ScalarFunction

end Hindsight
