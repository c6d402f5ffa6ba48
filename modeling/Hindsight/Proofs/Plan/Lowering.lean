import Hindsight.Plan.Lowering
import Hindsight.Plan.Placement
import Hindsight.Proofs.Eval.Parts

/-!
# Lowering preserves meaning

An expression has a value as it stands, once its aggregates have values: functions are looked up
where they are called, and an aggregate stands for the value of what it compiles to alone
(`Expr.evaluateInPlace`). The formula that an expression is lowered to comes to the same with the
values of the lifted aggregates in its slots (`FeatureText.lower_preserves`).

An expression inside an aggregate lifts nothing, since aggregates do not nest
(`Expr.containsAggregate_of_permit`), so it is lowered alike behind any slots (`Expr.lower_still`).
At the top level the walk carries two facts from left to right (`Lifted`): the slots that occur are
those of the aggregates lifted so far, and later aggregates do not change what an earlier part
comes to. An aggregate becomes one slot (`Expr.lifted_aggregate`); the rest of the walk is
`Expr.lifted_lower`.
-/

namespace Hindsight

/-- Why an expression has no value as it stands. -/
inductive InPlaceError where
  /-- The name belongs to no scalar function, or to an aggregate that does not compile. -/
  | unresolved (name : String)
  | eval (e : EvalError)
deriving DecidableEq, Repr

namespace Expr

mutual

/-- The value of an expression as it stands, where `v` has the values of aggregates. -/
def evaluateInPlace (v : Aggregate → Value) (ctx : EvalContext) :
    Expr → Except InPlaceError Value
  | literal x => .ok x
  | attr path => .ok ((ctx.event.map fun e => e.attr path).getD .null)
  | sourceAttr path => .ok ((ctx.source.map fun e => e.attr path).getD .null)
  | field f => .ok ((ctx.event.map f.read).getD .null)
  | entity scope entityType => .ok (.ofText? (ctx.entity? scope entityType))
  | observationTime => .ok ((ctx.point.map fun p => Value.instant p.instant).getD .null)
  | wildcard => .ok (.bool true)
  | list items => do return .list (← evaluateAllInPlace v ctx items)
  | unary op operand => do (op.apply (← evaluateInPlace v ctx operand)).mapError .eval
  | binary left op right => do
    let l ← evaluateInPlace v ctx left
    match op.shortCut? l with
    | some w => return w
    | none => (op.apply l (← evaluateInPlace v ctx right)).mapError .eval
  | call name args =>
    match ScalarFunction.ofName? name with
    | some f => do (f.apply (← evaluateAllInPlace v ctx args)).mapError .eval
    | none => .error (.unresolved name)
  | aggregate name argument parameter window filter selection =>
    match (aggregate name argument parameter window filter selection).lower [] with
    | .ok (_, [a]) => .ok (v a)
    | _ => .error (.unresolved name)

/-- The values of expressions as they stand, from left to right. -/
def evaluateAllInPlace (v : Aggregate → Value) (ctx : EvalContext) :
    List Expr → Except InPlaceError (List Value)
  | [] => .ok []
  | e :: rest => do
    let x ← evaluateInPlace v ctx e
    return x :: (← evaluateAllInPlace v ctx rest)

end

end Expr

/-- No formula of an aggregate reads a slot. -/
def Aggregate.IsSlotFree (a : Aggregate) : Prop :=
  a.argument.slots = [] ∧ ∀ f ∈ a.clauses, f.slots = []

section Inside

/-- A lowering lifts nothing: it hands back the slots it got, makes the same of any others, and
what it makes reads no slot. -/
structure Still {α : Type} (lower : List Aggregate → Except CompileError (α × List Aggregate))
    (before after : List Aggregate) (a : α) (slots : List Nat) : Prop where
  same : after = before
  anywhere : ∀ others, lower others = .ok (a, others)
  none : slots = []

namespace Expr

mutual

/-- **An expression that may stand inside an aggregate** contains none. Placing refuses an aggregate
everywhere but at the top level. -/
theorem containsAggregate_of_permit {p : Position} (inside : p ≠ .projection) :
    ∀ e : Expr, e.permit p = .ok () → e.containsAggregate = false
  | aggregate .., ok => by
    rw [permit, if_pos inside] at ok
    cases ok
  | literal _, _ | attr _, _ | sourceAttr _, _ | field _, _ | entity _ _, _
  | observationTime, _ | wildcard, _ => rfl
  | list items, ok => by
    rw [permit] at ok
    exact anyContainsAggregate_of_permit inside items ok
  | unary _ operand, ok => by
    rw [permit] at ok
    exact containsAggregate_of_permit inside operand ok
  | binary left _ right, ok => by
    rw [permit] at ok
    obtain ⟨⟨⟩, okLeft, okRight⟩ := bind_eq_ok_iff.1 ok
    rw [containsAggregate, containsAggregate_of_permit inside left okLeft,
      containsAggregate_of_permit inside right okRight, Bool.or_false]
  | call _ args, ok => by
    rw [permit] at ok
    exact anyContainsAggregate_of_permit inside args ok

/-- Expressions that may stand inside an aggregate contain none, along with single ones. -/
theorem anyContainsAggregate_of_permit {p : Position} (inside : p ≠ .projection) :
    ∀ es : List Expr, permitAll p es = .ok () → anyContainsAggregate es = false
  | [], _ => rfl
  | e :: rest, ok => by
    rw [permitAll] at ok
    obtain ⟨⟨⟩, okHead, okRest⟩ := bind_eq_ok_iff.1 ok
    rw [anyContainsAggregate, containsAggregate_of_permit inside e okHead,
      anyContainsAggregate_of_permit inside rest okRest, Bool.or_false]

end

mutual

/-- **An expression without aggregates** is lowered alike behind any slots and reads none. So it
does not matter when it is lowered. -/
theorem lower_still {before after : List Aggregate} :
    ∀ (e : Expr) (f : Formula), e.containsAggregate = false → e.lower before = .ok (f, after) →
      Still (fun s => e.lower s) before after f f.slots
  | aggregate .., _, free, _ => absurd free Bool.noConfusion
  | literal _, _, _, ok | attr _, _, _, ok | sourceAttr _, _, _, ok | field _, _, _, ok
  | entity _ _, _, _, ok | observationTime, _, _, ok | wildcard, _, _, ok => by
    cases ok
    exact ⟨rfl, fun _ => rfl, rfl⟩
  | list items, _, free, ok => by
    rw [lower] at ok
    obtain ⟨⟨fs, s⟩, okItems, ok⟩ := bind_eq_ok_iff.1 ok
    cases ok
    have still := lowerAll_still items fs free okItems
    exact ⟨still.same, fun others => by rw [lower, still.anywhere]; rfl, still.none⟩
  | unary op operand, _, free, ok => by
    rw [lower] at ok
    obtain ⟨⟨g, s⟩, okOperand, ok⟩ := bind_eq_ok_iff.1 ok
    cases ok
    have still := lower_still operand g free okOperand
    exact ⟨still.same, fun others => by rw [lower, still.anywhere]; rfl, still.none⟩
  | binary left op right, _, free, ok => by
    rw [containsAggregate, Bool.or_eq_false_iff] at free
    rw [lower] at ok
    obtain ⟨⟨l, s⟩, okLeft, ok⟩ := bind_eq_ok_iff.1 ok
    obtain ⟨⟨r, t⟩, okRight, ok⟩ := bind_eq_ok_iff.1 ok
    cases ok
    have stillLeft := lower_still left l free.1 okLeft
    have stillRight := lower_still right r free.2 okRight
    refine ⟨stillRight.same.trans stillLeft.same, fun others => ?_, ?_⟩
    · simp only [lower, stillLeft.anywhere, stillRight.anywhere, ok_bind]
      rfl
    · rw [Formula.slots, stillLeft.none, stillRight.none, List.append_nil]
  | call name args, _, free, ok => by
    rw [lower] at ok
    obtain ⟨g, okName, ok⟩ := bind_eq_ok_iff.1 ok
    obtain ⟨⟨fs, s⟩, okArgs, ok⟩ := bind_eq_ok_iff.1 ok
    cases ok
    have still := lowerAll_still args fs free okArgs
    refine ⟨still.same, fun others => ?_, still.none⟩
    rw [lower, okName, ok_bind, still.anywhere]
    rfl

/-- Expressions without aggregates are lowered alike behind any slots and read none, along with
single ones. -/
theorem lowerAll_still {before after : List Aggregate} :
    ∀ (es : List Expr) (fs : List Formula), anyContainsAggregate es = false →
      lowerAll before es = .ok (fs, after) →
      Still (fun s => lowerAll s es) before after fs (Formula.slotsOfAll fs)
  | [], _, _, ok => by
    cases ok
    exact ⟨rfl, fun _ => rfl, rfl⟩
  | e :: rest, _, free, ok => by
    rw [anyContainsAggregate, Bool.or_eq_false_iff] at free
    rw [lowerAll] at ok
    obtain ⟨⟨f, s⟩, okHead, ok⟩ := bind_eq_ok_iff.1 ok
    obtain ⟨⟨fs, t⟩, okRest, ok⟩ := bind_eq_ok_iff.1 ok
    cases ok
    have stillHead := lower_still e f free.1 okHead
    have stillRest := lowerAll_still rest fs free.2 okRest
    refine ⟨stillRest.same.trans stillHead.same, fun others => ?_, ?_⟩
    · simp only [lowerAll, stillHead.anywhere, stillRest.anywhere, ok_bind]
      rfl
    · rw [Formula.slotsOfAll, stillHead.none, stillRest.none, List.append_nil]

end

variable {before after : List Aggregate}

/-- An expression that may stand inside an aggregate lifts nothing, since it contains none. -/
theorem lower_still_of_permit {e : Expr} {f : Formula} (placed : e.permit .aggregated = .ok ())
    (lowered : e.lower before = .ok (f, after)) :
    Still (fun s => e.lower s) before after f f.slots :=
  lower_still e f (containsAggregate_of_permit (by decide) e placed) lowered

/-- The argument of an aggregate lifts nothing, be it `*` or an expression. Only the second has to
be placed. -/
theorem lower_still_of_argument {e : Expr} {f : Formula}
    (placed : e.isWildcard = false → e.permit .aggregated = .ok ())
    (lowered : e.lower before = .ok (f, after)) :
    Still (fun s => e.lower s) before after f f.slots := by
  cases e with
  | wildcard => exact lower_still _ f rfl lowered
  | _ => exact lower_still_of_permit (placed rfl) lowered

/-- The filter of an aggregate lifts nothing. If there is none, there is nothing to lower. -/
theorem lowerOption_still {e : Option Expr} {f : Option Formula}
    (placed : permitOption .aggregated e = .ok ())
    (lowered : lowerOption before e = .ok (f, after)) :
    Still (fun s => lowerOption s e) before after f (Formula.slotsOfAll f.toList) := by
  cases e with
  | none =>
    cases lowered
    exact ⟨rfl, fun _ => rfl, rfl⟩
  | some e =>
    rw [lowerOption] at lowered
    obtain ⟨⟨g, s⟩, lowered, ok⟩ := bind_eq_ok_iff.1 lowered
    cases ok
    have still := lower_still_of_permit placed lowered
    refine ⟨still.same, fun others => by rw [lowerOption, still.anywhere]; rfl, ?_⟩
    rw [Option.toList_some, Formula.slotsOfAll, still.none, Formula.slotsOfAll, List.append_nil]

/-- The selection of an aggregate lifts nothing, neither in its key nor in its rank. -/
theorem lowerSelection_still {s : Selection} {made : Option Formula × Option Ranking}
    (placed : permitSelection .aggregated s = .ok ())
    (lowered : lowerSelection before s = .ok (made, after)) :
    Still (fun others => lowerSelection others s) before after made
      (Formula.slotsOfAll (made.1.toList ++ (made.2.map Ranking.rank).toList)) := by
  cases s with
  | all =>
    cases lowered
    exact ⟨rfl, fun _ => rfl, rfl⟩
  | groupBy key =>
    rw [lowerSelection] at lowered
    obtain ⟨⟨g, s⟩, lowered, ok⟩ := bind_eq_ok_iff.1 lowered
    cases ok
    have still := lower_still_of_permit placed lowered
    refine ⟨still.same, fun others => by rw [lowerSelection, still.anywhere]; rfl, ?_⟩
    simp [Formula.slotsOfAll, still.none]
  | having extreme rank =>
    rw [lowerSelection] at lowered
    obtain ⟨⟨g, s⟩, lowered, ok⟩ := bind_eq_ok_iff.1 lowered
    cases ok
    have still := lower_still_of_permit placed lowered
    refine ⟨still.same, fun others => by rw [lowerSelection, still.anywhere]; rfl, ?_⟩
    simp [Formula.slotsOfAll, still.none]

end Expr

end Inside

section TopLevel

/-- The aggregates that a walk adds behind those before it, and the slots that it meets: one for
each, in order. -/
def Lifts (before after : List Aggregate) (slots : List Nat) : Prop :=
  ∃ new, after = before ++ new ∧ slots = List.range' before.length new.length ∧
    ∀ a ∈ new, a.IsSlotFree

namespace Lifts

/-- A walk may lift nothing: then the aggregates are those from before and no slot occurs. -/
theorem nothing (before : List Aggregate) : Lifts before before [] :=
  ⟨[], (List.append_nil before).symm, rfl, fun _ none => absurd none List.not_mem_nil⟩

/-- A walk may lift one aggregate: then one slot occurs, whose number is that of the aggregates
before. -/
theorem one (before : List Aggregate) {a : Aggregate} (free : a.IsSlotFree) :
    Lifts before (before ++ [a]) [before.length] :=
  ⟨[a], rfl, rfl, fun _ h => List.mem_singleton.1 h ▸ free⟩

/-- Two walks one after the other lift what the first and then the second lifts, and slots come in
that order. -/
theorem trans {before middle after : List Aggregate} {s t : List Nat}
    (first : Lifts before middle s) (second : Lifts middle after t) :
    Lifts before after (s ++ t) := by
  obtain ⟨new, rfl, rfl, free⟩ := first
  obtain ⟨newer, rfl, rfl, freeNewer⟩ := second
  refine ⟨new ++ newer, List.append_assoc .., ?_, List.forall_mem_append.2 ⟨free, freeNewer⟩⟩
  rw [List.length_append, List.length_append, List.range'_append_1]

/-- A walk only appends aggregates, so those from before keep their numbers, and slots that refer to
them stay right. -/
theorem isPrefix {before after : List Aggregate} {s : List Nat} (h : Lifts before after s) :
    before <+: after := by
  obtain ⟨new, rfl, -⟩ := h
  exact List.prefix_append before new

end Lifts

/-- A walk lifts aggregates, and what it compiles comes to the same as what stood there, with the
values of the aggregates lifted so far and of any later ones in the slots. -/
structure Lifted {α : Type} (inPlace : (Aggregate → Value) → EvalContext → Except InPlaceError α)
    (before after : List Aggregate) (slots : List Nat)
    (compiled : EvalContext → Except EvalError α) : Prop where
  lifts : Lifts before after slots
  agrees : ∀ v ctx all, after <+: all →
    inPlace v ctx = (compiled (ctx.withSlots (all.map v))).mapError .eval

/-- A function that is resolved is the one of its name; its number of arguments was checked as
well. -/
theorem resolveScalar_eq_ok {name : String} {given : Nat} {f : ScalarFunction}
    (h : resolveScalar name given = .ok f) : ScalarFunction.ofName? name = some f := by
  unfold resolveScalar at h
  split at h
  · split at h <;> cases h
  · split at h <;> cases h
    assumption

namespace Expr

/-- What the parts of an aggregate that may stand at the top level may be: all of them are placed
inside the aggregate. -/
theorem permit_aggregate {name : String} {argument : Expr} {parameter : Option Expr}
    {window : Time.Window} {filter : Option Expr} {selection : Selection}
    (placed : (aggregate name argument parameter window filter selection).permit .projection =
      .ok ()) :
    (argument.isWildcard = false → argument.permit .aggregated = .ok ()) ∧
      permitOption .aggregated filter = .ok () ∧
      permitSelection .aggregated selection = .ok () := by
  have clauses (h : (do
      permitOption .aggregated parameter
      permitOption .aggregated filter
      permitSelection .aggregated selection) = .ok ()) :
      permitOption .aggregated filter = .ok () ∧
        permitSelection .aggregated selection = .ok () := by
    obtain ⟨⟨⟩, -, h⟩ := bind_eq_ok_iff.1 h
    obtain ⟨⟨⟩, placedFilter, placedSelection⟩ := bind_eq_ok_iff.1 h
    exact ⟨placedFilter, placedSelection⟩
  rw [permit, if_neg (fun no => no rfl)] at placed
  cases whole : argument.isWildcard with
  | true =>
    rw [whole] at placed
    exact ⟨Bool.noConfusion, clauses placed⟩
  | false =>
    rw [whole] at placed
    obtain ⟨⟨⟩, placedArgument, placed⟩ := bind_eq_ok_iff.1 placed
    exact ⟨fun _ => placedArgument, clauses placed⟩

/-- **An aggregate becomes one slot** behind those before it, whichever they are. Its parts lift
nothing, so the slot is the next free one. -/
theorem lower_aggregate {name : String} {argument : Expr} {parameter : Option Expr}
    {window : Time.Window} {filter : Option Expr} {selection : Selection}
    {before after : List Aggregate} {f : Formula}
    (placed : (aggregate name argument parameter window filter selection).permit .projection =
      .ok ())
    (lowered : (aggregate name argument parameter window filter selection).lower before =
      .ok (f, after)) :
    ∃ a : Aggregate, a.IsSlotFree ∧ f = .slot before.length ∧ after = before ++ [a] ∧
      ∀ others, (aggregate name argument parameter window filter selection).lower others =
        .ok (.slot others.length, others ++ [a]) := by
  obtain ⟨placedArgument, placedFilter, placedSelection⟩ := permit_aggregate placed
  rw [lower] at lowered
  obtain ⟨g, accepted, ok⟩ := bind_eq_ok_iff.1 lowered
  obtain ⟨⟨arg, s₁⟩, okArgument, ok⟩ := bind_eq_ok_iff.1 ok
  obtain ⟨⟨condition, s₂⟩, okFilter, ok⟩ := bind_eq_ok_iff.1 ok
  obtain ⟨⟨⟨key, ranking⟩, s₃⟩, okSelection, ok⟩ := bind_eq_ok_iff.1 ok
  cases ok
  have stillArgument := lower_still_of_argument placedArgument okArgument
  have stillFilter := lowerOption_still placedFilter okFilter
  have stillSelection := lowerSelection_still placedSelection okSelection
  obtain rfl : s₃ = before :=
    stillSelection.same.trans (stillFilter.same.trans stillArgument.same)
  refine ⟨_, ⟨stillArgument.none, ?_⟩, rfl, rfl, fun others => ?_⟩
  · have free := Formula.slotsOfAll_eq_nil_iff.1 stillFilter.none
    have freeSelection := Formula.slotsOfAll_eq_nil_iff.1 stillSelection.none
    rw [Aggregate.clauses, List.append_assoc, List.forall_mem_append]
    exact ⟨free, freeSelection⟩
  · simp only [lower, accepted, stillArgument.anywhere, stillFilter.anywhere,
      stillSelection.anywhere, ok_bind]
    rfl

mutual

/-- **Lowering preserves what an expression comes to** and numbers its aggregates from left to
right. -/
theorem lifted_lower {before after : List Aggregate} :
    ∀ (e : Expr) (f : Formula), e.permit .projection = .ok () → e.lower before = .ok (f, after) →
      Lifted (fun v ctx => e.evaluateInPlace v ctx) before after f.slots fun ctx => f.evaluate ctx
  | literal _, _, _, ok | attr _, _, _, ok | sourceAttr _, _, _, ok | field _, _, _, ok
  | entity _ _, _, _, ok | observationTime, _, _, ok | wildcard, _, _, ok => by
    cases ok
    exact ⟨.nothing before, fun _ _ _ _ => rfl⟩
  | list items, _, placed, ok => by
    rw [permit] at placed
    rw [lower] at ok
    obtain ⟨⟨fs, s⟩, okItems, ok⟩ := bind_eq_ok_iff.1 ok
    cases ok
    have lifted := lifted_lowerAll items fs placed okItems
    refine ⟨lifted.lifts, fun v ctx all within => ?_⟩
    rw [evaluateInPlace, lifted.agrees v ctx all within, Formula.evaluate, mapError_bind]
    rfl
  | unary op operand, _, placed, ok => by
    rw [permit] at placed
    rw [lower] at ok
    obtain ⟨⟨g, s⟩, okOperand, ok⟩ := bind_eq_ok_iff.1 ok
    cases ok
    have lifted := lifted_lower operand g placed okOperand
    refine ⟨lifted.lifts, fun v ctx all within => ?_⟩
    rw [evaluateInPlace, lifted.agrees v ctx all within, Formula.evaluate, mapError_bind]
  | binary left op right, _, placed, ok => by
    rw [permit] at placed
    obtain ⟨⟨⟩, placedLeft, placedRight⟩ := bind_eq_ok_iff.1 placed
    rw [lower] at ok
    obtain ⟨⟨l, s⟩, okLeft, ok⟩ := bind_eq_ok_iff.1 ok
    obtain ⟨⟨r, t⟩, okRight, ok⟩ := bind_eq_ok_iff.1 ok
    cases ok
    have liftedLeft := lifted_lower left l placedLeft okLeft
    have liftedRight := lifted_lower right r placedRight okRight
    refine ⟨liftedLeft.lifts.trans liftedRight.lifts, fun v ctx all within => ?_⟩
    have withinLeft := liftedRight.lifts.isPrefix.trans within
    rw [evaluateInPlace, liftedLeft.agrees v ctx all withinLeft, Formula.evaluate, mapError_bind]
    refine bind_congr fun x => ?_
    cases op.shortCut? x with
    | some w => rfl
    | none => rw [liftedRight.agrees v ctx all within, mapError_bind]
  | call name args, _, placed, ok => by
    rw [permit] at placed
    rw [lower] at ok
    obtain ⟨g, okName, ok⟩ := bind_eq_ok_iff.1 ok
    obtain ⟨⟨fs, s⟩, okArgs, ok⟩ := bind_eq_ok_iff.1 ok
    cases ok
    have lifted := lifted_lowerAll args fs placed okArgs
    refine ⟨lifted.lifts, fun v ctx all within => ?_⟩
    rw [evaluateInPlace, resolveScalar_eq_ok okName]
    dsimp only
    rw [lifted.agrees v ctx all within, Formula.evaluate, mapError_bind]
  | aggregate .., _, placed, ok => by
    obtain ⟨a, free, rfl, rfl, anywhere⟩ := lower_aggregate placed ok
    refine ⟨.one before free, fun v ctx all ⟨later, within⟩ => ?_⟩
    rw [evaluateInPlace, anywhere, ← within, Formula.evaluate]
    simp [EvalContext.withSlots, Except.mapError]

/-- Lowering preserves what expressions come to, along with single ones. The aggregates of one keep
their slots while the next is lowered. -/
theorem lifted_lowerAll {before after : List Aggregate} :
    ∀ (es : List Expr) (fs : List Formula), permitAll .projection es = .ok () →
      lowerAll before es = .ok (fs, after) →
      Lifted (fun v ctx => evaluateAllInPlace v ctx es) before after (Formula.slotsOfAll fs)
        fun ctx => Formula.evaluateAll ctx fs
  | [], _, _, ok => by
    cases ok
    exact ⟨.nothing before, fun _ _ _ _ => rfl⟩
  | e :: rest, _, placed, ok => by
    rw [permitAll] at placed
    obtain ⟨⟨⟩, placedHead, placedRest⟩ := bind_eq_ok_iff.1 placed
    rw [lowerAll] at ok
    obtain ⟨⟨f, s⟩, okHead, ok⟩ := bind_eq_ok_iff.1 ok
    obtain ⟨⟨fs, t⟩, okRest, ok⟩ := bind_eq_ok_iff.1 ok
    cases ok
    have liftedHead := lifted_lower e f placedHead okHead
    have liftedRest := lifted_lowerAll rest fs placedRest okRest
    refine ⟨liftedHead.lifts.trans liftedRest.lifts, fun v ctx all within => ?_⟩
    have withinHead := liftedRest.lifts.isPrefix.trans within
    rw [evaluateAllInPlace, liftedHead.agrees v ctx all withinHead,
      liftedRest.agrees v ctx all within, Formula.evaluateAll, mapError_bind]
    refine bind_congr fun x => ?_
    rw [mapError_bind]
    rfl

end

end Expr

end TopLevel

/-- **Lowering preserves meaning.** The formula of an accepted feature has the slot of each
aggregate once, from left to right, and no aggregate reads a slot. With any values of the
aggregates in its slots the formula comes to what the expression comes to as it stands, be it a
value or a fault, and no slot is without a value. -/
theorem FeatureText.lower_preserves {t : FeatureText} {f : Feature}
    (placed : t.expr.permit .projection = .ok ()) (lowered : t.lower = .ok f) :
    f.formula.slots = List.range f.aggregates.length ∧
    (∀ a ∈ f.aggregates, a.IsSlotFree) ∧
    ∀ (v : Aggregate → Value) (ctx : EvalContext),
      t.expr.evaluateInPlace v ctx =
          (f.formula.evaluate (ctx.withSlots (f.aggregates.map v))).mapError .eval ∧
        ∀ n, f.formula.evaluate (ctx.withSlots (f.aggregates.map v)) ≠
          .error (.uncomputedSlot n) := by
  rw [FeatureText.lower] at lowered
  obtain ⟨⟨g, aggregates⟩, okExpr, ok⟩ := bind_eq_ok_iff.1 lowered
  cases ok
  have lifted := t.expr.lifted_lower g placed okExpr
  obtain ⟨new, added, slots, free⟩ := lifted.lifts
  obtain rfl : aggregates = new := added.trans (List.nil_append new)
  rw [List.length_nil, ← List.range_eq_range'] at slots
  refine ⟨slots, free, fun v ctx => ⟨lifted.agrees v ctx _ List.prefix_rfl, fun n missing => ?_⟩⟩
  have covered : ∀ n ∈ g.slots, n < (ctx.withSlots (aggregates.map v)).slots.length := by
    simp [slots, EvalContext.withSlots]
  have meets := g.evaluate_meets _ covered
  rw [missing] at meets
  cases meets

/-- Whether a patient came in the last week, and with values of more than ten altogether. -/
def worthwhileWeek : FeatureText where
  raw := "count(*) over last 7 days > 0 and abs(sum(value) over last 7 days) > 10"
  expr :=
    .binary
      (.binary (.aggregate "count" .wildcard none (.last 7 .day) none .all) (.compare .gt)
        (.literal (.int 0)))
      (.connect .and)
      (.binary
        (.call "abs" [.aggregate "sum" (.attr "value") none (.last 7 .day) none .all])
        (.compare .gt) (.literal (.int 10)))
  alias? := none

/-- The lowered form of `worthwhileWeek`. -/
def worthwhileWeekFeature : Feature where
  name := worthwhileWeek.raw
  raw := worthwhileWeek.raw
  formula :=
    .binary (.binary (.slot 0) (.compare .gt) (.literal (.int 0))) (.connect .and)
      (.binary (.call .abs [.slot 1]) (.compare .gt) (.literal (.int 10)))
  aggregates :=
    [⟨.count, .wildcard, .last 7 .day, none, none, none, none⟩,
      ⟨.sum, .attr "value", .last 7 .day, none, none, none, none⟩]

/-- Two aggregates of a feature take two slots, and stand for their values in them. In place they
may come to anything, and the feature comes to the same. -/
theorem lower_preserves_worthwhileWeek :
    worthwhileWeek.expr.permit .projection = .ok () ∧
    worthwhileWeek.lower = .ok worthwhileWeekFeature ∧
    worthwhileWeekFeature.formula.slots = List.range 2 ∧
    worthwhileWeek.expr.evaluateInPlace (fun _ => .int 12) ⟨none, none, none, []⟩ =
      (worthwhileWeekFeature.formula.evaluate ⟨none, none, none, [.int 12, .int 12]⟩).mapError
        .eval := by
  have placed : worthwhileWeek.expr.permit .projection = .ok () := rfl
  have lowered : worthwhileWeek.lower = .ok worthwhileWeekFeature := rfl
  obtain ⟨slots, -, agrees⟩ := FeatureText.lower_preserves placed lowered
  exact ⟨placed, lowered, slots, (agrees (fun _ => .int 12) ⟨none, none, none, []⟩).1⟩

end Hindsight
