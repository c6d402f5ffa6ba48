import Hindsight.Eval.Formula
import Hindsight.Proofs.Except
import Mathlib.Data.List.Induction

/-!
# Membership and equality

Whether a value is in a list and whether it equals an item are told by two rules. Both compare
numbers by size and let null equal nothing. Only equality reads a text as an instant where it stands
beside one, though, so a value is in a list just if it equals an item without being read
(`isMember_list_iff`), and the two rules part just on items that are equal when they are
read (`Value.EqualsWhenRead`).

The same holds of formulas: `e in (a, b)` holds just where `e == a or e == b` does, unless an item
is equal only when read, or an item that cannot be evaluated stands behind one that is equal
(`Formula.isOneOf_agrees_unless_read`).
-/

namespace Hindsight

namespace Value

/-- Whether two values are equal as a comparison has it. -/
def equals (v w : Value) : Bool :=
  !v.isNull && !w.isNull && (asInstantBeside w v).looselyEquals (asInstantBeside v w)

/-- **Two values are equal when they are read:** one is an instant, the other a text of it. -/
def EqualsWhenRead (v w : Value) : Prop :=
  ∃ s t, Time.Instant.ofText? s = some t ∧
    (v = instant t ∧ w = text s ∨ v = text s ∧ w = instant t)

variable {v w : Value}

/-- A value stays as it is beside another one, unless it is a text that is read beside an
instant. -/
theorem asInstantBeside_cases (w v : Value) :
    asInstantBeside w v = v ∨
      ∃ s t u, w = instant u ∧ v = text s ∧ Time.Instant.ofText? s = some t ∧
        asInstantBeside w v = instant t := by
  fun_cases asInstantBeside w v with
  | case1 u s t read => exact .inr ⟨s, t, u, rfl, rfl, read, rfl⟩
  | case2 u s unread => exact .inl rfl
  | case3 v w other => exact .inl rfl

/-- Two instants are equal if they are the same instant, leap seconds included. -/
theorem looselyEquals_instant (s t : Time.Instant) :
    (instant s).looselyEquals (instant t) = true ↔ s = t := by
  show (s == t) = true ↔ s = t
  exact beq_iff_eq

/-- Null equals nothing else. With what it equals, a comparison is refused before it is looked
at. -/
theorem isNull_of_looselyEquals (h : v.looselyEquals w = true) (null : w.isNull = true) :
    v.isNull = true := by
  cases w with
  | null => cases v <;> first | rfl | cases h
  | _ => cases null

/-- A text and an instant are different unless they are read. This is what membership misses. -/
theorem not_looselyEquals_of_equalsWhenRead (h : v.EqualsWhenRead w) :
    v.looselyEquals w = false := by
  obtain ⟨s, t, -, ⟨rfl, rfl⟩ | ⟨rfl, rfl⟩⟩ := h <;> rfl

/-- What is equal when it is read is equal for a comparison, which reads the text as an instant
first. -/
theorem equals_of_equalsWhenRead (h : v.EqualsWhenRead w) : v.equals w = true := by
  obtain ⟨s, t, read, ⟨rfl, rfl⟩ | ⟨rfl, rfl⟩⟩ := h <;>
    simp [equals, isNull, asInstantBeside, read, looselyEquals_instant]

/-- Where reading does not make two values equal, they are equal as they are or not at all. So
reading is all in which the two rules differ. -/
theorem equals_of_not_equalsWhenRead (h : ¬v.EqualsWhenRead w) :
    v.equals w = (!v.isNull && v.looselyEquals w) := by
  rcases asInstantBeside_cases w v with left | ⟨s, t, u, rfl, rfl, read, left⟩
  · rcases asInstantBeside_cases v w with right | ⟨s, t, u, rfl, rfl, read, right⟩
    · have nothing : v.looselyEquals w = true → w.isNull = true → v.isNull = true :=
        isNull_of_looselyEquals
      rw [equals, left, right]
      cases hv : v.isNull <;> cases hw : w.isNull <;> cases he : v.looselyEquals w <;> simp_all
    · have other : u ≠ t := fun same => h ⟨s, t, read, .inl ⟨congrArg instant same, rfl⟩⟩
      rw [equals, left, right, Bool.eq_false_iff.2 (mt (looselyEquals_instant u t).1 other),
        Bool.and_false]
      rfl
  · have other : t ≠ u := fun same => h ⟨s, t, read, .inr ⟨rfl, congrArg instant same.symm⟩⟩
    have right : asInstantBeside (text s) (instant u) = instant u := rfl
    rw [equals, left, right, Bool.eq_false_iff.2 (mt (looselyEquals_instant t u).1 other),
      Bool.and_false]
    rfl

end Value

/-- A comparison for equality comes to whether the values are equal. It never fails. -/
theorem Comparison.apply_eq (v w : Value) : Comparison.eq.apply v w = .ok (v.equals w) := by
  rw [Comparison.apply, Value.equals]
  cases v.isNull <;> cases w.isNull <;> rfl

/-- **A value is in a list** just if it equals an item without being read. An item that has to be
read first is passed over. -/
theorem isMember_list_iff {v : Value} {xs : List Value} :
    isMember v (.list xs) = .ok true ↔ ∃ x ∈ xs, v.equals x = true ∧ ¬v.EqualsWhenRead x := by
  rw [isMember, Except.ok.injEq, Bool.and_eq_true, List.any_eq_true]
  constructor
  · rintro ⟨some_value, x, hx, same⟩
    have unread : ¬v.EqualsWhenRead x := fun read => by
      rw [Value.not_looselyEquals_of_equalsWhenRead read] at same
      cases same
    exact ⟨x, hx, by rw [Value.equals_of_not_equalsWhenRead unread, some_value, same]; rfl, unread⟩
  · rintro ⟨x, hx, same, unread⟩
    rw [Value.equals_of_not_equalsWhenRead unread, Bool.and_eq_true] at same
    exact ⟨same.1, x, hx, same.2⟩

/-- **The two rules agree** on a list just if no item is equal only when it is read, or another item
is equal anyway. -/
theorem isMember_list_eq_any_iff {v : Value} {xs : List Value} :
    isMember v (.list xs) = .ok (xs.any v.equals) ↔
      ∀ x ∈ xs, v.EqualsWhenRead x → isMember v (.list xs) = .ok true := by
  constructor
  · intro agree x hx read
    rw [agree, List.any_eq_true.2 ⟨x, hx, Value.equals_of_equalsWhenRead read⟩]
  · intro plain
    cases any : xs.any v.equals with
    | true =>
      obtain ⟨x, hx, same⟩ := List.any_eq_true.1 any
      by_cases read : v.EqualsWhenRead x
      · exact plain x hx read
      · exact isMember_list_iff.2 ⟨x, hx, same, read⟩
    | false =>
      cases here : isMember v (.list xs) with
      | error e => cases here
      | ok b =>
        cases b with
        | false => rfl
        | true =>
          obtain ⟨x, hx, same, -⟩ := isMember_list_iff.1 here
          exact absurd same (List.any_eq_false.1 any x hx)

namespace Formula

/-- `e in (first, ..)`. -/
def isOneOf (e first : Formula) (rest : List Formula) : Formula :=
  .binary e .isIn (.list (first :: rest))

/-- `e == first or ..`. -/
def equalsOneOf (e first : Formula) (rest : List Formula) : Formula :=
  rest.foldl (fun f item => .binary f (.connect .or) (.binary e (.compare .eq) item))
    (.binary e (.compare .eq) first)

/-- A chain of comparisons grows at its end, as a chain of `or` that leans to the left does. So
inductions on it go from the end. -/
theorem equalsOneOf_append (e first : Formula) (rest : List Formula) (item : Formula) :
    equalsOneOf e first (rest ++ [item]) =
      .binary (equalsOneOf e first rest) (.connect .or) (.binary e (.compare .eq) item) := by
  rw [equalsOneOf, List.foldl_append]
  rfl

variable {ctx : EvalContext} {e first : Formula} {rest : List Formula} {v : Value}

/-- Formulas are evaluated one after the other, so the laws of such steps apply to them. -/
theorem evaluateAll_eq_mapM (ctx : EvalContext) (fs : List Formula) :
    evaluateAll ctx fs = fs.mapM (evaluate ctx) := by
  induction fs with
  | nil => rfl
  | cons f fs ih => rw [evaluateAll, List.mapM_cons, ih]

/-- Comparing with an item comes to whether the two values are equal, or fails as the item does. The
comparison itself does not. -/
theorem evaluate_equals {item : Formula} (he : e.evaluate ctx = .ok v) :
    (binary e (.compare .eq) item).evaluate ctx =
      (item.evaluate ctx).map fun x => .bool (v.equals x) := by
  rw [evaluate, he, ok_bind]
  dsimp only [Operator.shortCut?]
  cases item.evaluate ctx with
  | error fault => rfl
  | ok x =>
    rw [ok_bind, Operator.apply, Comparison.apply_eq]
    rfl

/-- The last of some formulas is evaluated after all others, and only if none of them fails. -/
theorem evaluateAll_append_singleton (ctx : EvalContext) (fs : List Formula) (f : Formula) :
    evaluateAll ctx (fs ++ [f]) =
      evaluateAll ctx fs >>= fun vs => (f.evaluate ctx).map fun v => vs ++ [v] := by
  rw [evaluateAll_eq_mapM, evaluateAll_eq_mapM, List.mapM_append]
  congr 1
  funext vs
  rw [List.mapM_cons]
  cases f.evaluate ctx <;> rfl

/-- **What a chain of equalities comes to:** whether an item is equal, if all can be evaluated.
Otherwise it fails for the first that cannot, unless an item before it is equal. -/
theorem evaluate_equalsOneOf (he : e.evaluate ctx = .ok v) (first : Formula)
    (rest : List Formula) :
    match evaluateAll ctx (first :: rest) with
    | .ok xs => (equalsOneOf e first rest).evaluate ctx = .ok (.bool (xs.any v.equals))
    | .error fault =>
      (equalsOneOf e first rest).evaluate ctx = .error fault ∨
        (equalsOneOf e first rest).evaluate ctx = .ok (.bool true) := by
  induction rest using List.reverseRecOn with
  | nil =>
    have alone := evaluateAll_append_singleton ctx [] first
    rw [List.nil_append, evaluateAll, ok_bind] at alone
    rw [equalsOneOf, List.foldl_nil, evaluate_equals he, alone]
    cases first.evaluate ctx with
    | error fault => exact .inl rfl
    | ok x => simp [Except.map]
  | append_singleton rest item ih =>
    rw [← List.cons_append, evaluateAll_append_singleton, equalsOneOf_append]
    -- the chain is evaluated before the last item, and decides alone if it holds
    cases all : evaluateAll ctx (first :: rest) with
    | error fault =>
      rw [all] at ih
      rcases ih with fails | holds
      · exact .inl (by rw [evaluate, fails]; rfl)
      · exact .inr (by rw [evaluate, holds]; rfl)
    | ok xs =>
      rw [all] at ih
      rw [ok_bind, evaluate, ih, ok_bind]
      cases any : xs.any v.equals with
      | true =>
        cases item.evaluate ctx with
        | error fault => exact .inr rfl
        | ok x => simp [Except.map, Operator.shortCut?, Value.isTrue, any, pure, Except.pure]
      | false =>
        rw [evaluate_equals he]
        cases item.evaluate ctx with
        | error fault => exact .inl rfl
        | ok x =>
          simp [Except.map, Operator.shortCut?, Value.isTrue, any, Operator.apply,
            Connective.apply]

/-- A chain of equalities reads the value that is compared first, so it fails if this does. -/
theorem evaluate_equalsOneOf_of_error {fault : EvalError} (he : e.evaluate ctx = .error fault)
    (first : Formula) (rest : List Formula) :
    (equalsOneOf e first rest).evaluate ctx = .error fault := by
  induction rest using List.reverseRecOn with
  | nil =>
    rw [equalsOneOf, List.foldl_nil, evaluate, he]
    rfl
  | append_singleton rest item ih =>
    rw [equalsOneOf_append, evaluate, ih]
    rfl

/-- A test for membership holds where the value is in the list of the items. All items are evaluated
for this. -/
theorem holds_isIn {fs : List Formula} {xs : List Value} (he : e.evaluate ctx = .ok v)
    (items : evaluateAll ctx fs = .ok xs) :
    (binary e .isIn (list fs)).holds ctx = isMember v (.list xs) := by
  rw [holds, evaluate, he, ok_bind]
  dsimp only [Operator.shortCut?]
  rw [evaluate, items]
  rfl

/-- **Where all items are evaluated, the chain of comparisons holds just if one of them is equal**,
by induction on the items from the end. -/
theorem holds_equalsOneOf {xs : List Value} (he : e.evaluate ctx = .ok v)
    (items : evaluateAll ctx (first :: rest) = .ok xs) :
    (equalsOneOf e first rest).holds ctx = .ok (xs.any v.equals) := by
  have comes := evaluate_equalsOneOf he first rest
  rw [items] at comes
  rw [holds, comes]
  rfl

/-- Where a test for membership fails, the chain of equalities fails as well, unless it holds for an
item in front of the one that cannot be evaluated. -/
theorem holds_equalsOneOf_of_fails (fails : Fails ((isOneOf e first rest).holds ctx)) :
    (equalsOneOf e first rest).holds ctx = (isOneOf e first rest).holds ctx ∨
      (equalsOneOf e first rest).holds ctx = .ok true := by
  cases he : e.evaluate ctx with
  | error fault =>
    refine .inl ?_
    rw [holds, holds, evaluate_equalsOneOf_of_error he, isOneOf, evaluate, he]
    rfl
  | ok v =>
    have chain := evaluate_equalsOneOf he first rest
    cases items : evaluateAll ctx (first :: rest) with
    | ok xs =>
      rw [isOneOf, holds_isIn he items] at fails
      exact absurd fails (not_fails_ok _)
    | error fault =>
      rw [items] at chain
      have within : (isOneOf e first rest).holds ctx = .error fault := by
        rw [holds, isOneOf, evaluate, he, ok_bind]
        dsimp only [Operator.shortCut?]
        rw [evaluate, items]
        rfl
      rcases chain with chain | chain
      · exact .inl (by rw [within, holds, chain]; rfl)
      · exact .inr (by rw [holds, chain]; rfl)

/-- **Membership and equality part only over texts of instants.** A value is in a list just if it
equals an item, unless it equals an item only when that is read; and `e in (a, ..)` holds where
`e == a or ..` does, with the same exception, as far as the items can be evaluated. Where one
cannot, the test for membership fails, and the chain of equalities fails with it or holds for an
item in front. -/
theorem isOneOf_agrees_unless_read (v : Value) (xs : List Value) (ctx : EvalContext)
    (e first : Formula) (rest : List Formula) :
    let within := (isOneOf e first rest).holds ctx
    let either := (equalsOneOf e first rest).holds ctx
    ((isMember v (.list xs) = .ok true ↔ ∃ x ∈ xs, Comparison.eq.apply v x = .ok true) ↔
      ∀ x ∈ xs, v.EqualsWhenRead x → isMember v (.list xs) = .ok true) ∧
    (e.evaluate ctx = .ok v → evaluateAll ctx (first :: rest) = .ok xs →
      (within = either ↔ ∀ x ∈ xs, v.EqualsWhenRead x → within = .ok true)) ∧
    (Fails within → either = within ∨ either = .ok true) := by
  refine ⟨?_, fun he items => ?_, fun fails => holds_equalsOneOf_of_fails fails⟩
  · have either : (∃ x ∈ xs, Comparison.eq.apply v x = .ok true) ↔ xs.any v.equals = true := by
      simp only [Comparison.apply_eq, Except.ok.injEq, List.any_eq_true]
    rw [← isMember_list_eq_any_iff, either, isMember, Except.ok.injEq, Except.ok.injEq]
    exact Bool.eq_iff_iff.symm
  · show (isOneOf e first rest).holds ctx = (equalsOneOf e first rest).holds ctx ↔ _
    rw [isOneOf, holds_isIn he items, holds_equalsOneOf he items]
    exact isMember_list_eq_any_iff

section Dates

/-- A visit in the night of a day. -/
def visitAtMidnight : Event where
  type := "visit"
  time := (Time.Instant.ofText? "2020-01-02").getD .zero
  entities := ⟨[("patient", "1")]⟩
  id := none
  experiment := none
  attributes := .empty

/-- A visit is at one of two dates, one of which is a text of the other, by either rule. The date
that needs no reading decides. -/
theorem isOneOf_agrees_of_instant :
    let time := visitAtMidnight.time
    let ctx := EvalContext.ofEvent visitAtMidnight
    let read := Formula.literal (.text "2020-01-02")
    let exact := Formula.literal (.instant time)
    let within := (isOneOf (.field .time) read [exact]).holds ctx
    let items := [Value.text "2020-01-02", .instant time]
    (Formula.field .time).evaluate ctx = .ok (.instant time) ∧
      evaluateAll ctx [read, exact] = .ok items ∧
        (∀ x ∈ items, (Value.instant time).EqualsWhenRead x → within = .ok true) ∧
          within = (equalsOneOf (.field .time) read [exact]).holds ctx := by
  intro time ctx read exact within items
  have plain : ∀ x ∈ items, (Value.instant time).EqualsWhenRead x → within = .ok true :=
    fun _ _ _ => rfl
  have agree := isOneOf_agrees_unless_read (.instant time) items ctx (.field .time) read [exact]
  exact ⟨rfl, rfl, plain, (agree.2.1 rfl rfl).2 plain⟩

/-- **A list of dates does not have the date of a visit,** though the visit is at one of them. A
comparison with the same text finds this. -/
theorem isOneOf_ne_equalsOneOf_of_dates :
    let ctx := EvalContext.ofEvent visitAtMidnight
    let time := visitAtMidnight.time
    let dates := [Value.text "2020-01-02", .text "2020-01-03"]
    isMember (.instant time) (.list dates) = .ok false ∧
      Comparison.eq.apply (.instant time) (.text "2020-01-02") = .ok true ∧
        (isOneOf (.field .time) (.literal (.text "2020-01-02"))
          [.literal (.text "2020-01-03")]).holds ctx = .ok false ∧
            (equalsOneOf (.field .time) (.literal (.text "2020-01-02"))
              [.literal (.text "2020-01-03")]).holds ctx = .ok true :=
  ⟨rfl, rfl, rfl, rfl⟩

end Dates

end Formula
end Hindsight
