import Hindsight.Proofs.Aggregate.Accumulator
import Hindsight.Proofs.Aggregate.Grouped
import Hindsight.Proofs.Eval.Contribution
import Hindsight.Proofs.Plan.Typing
import Hindsight.Query.Rescan

/-!
# Inferred types of aggregates are sound

A function that answers with one of its inputs answers with a value of their type, and every other
function has a type of its own, so an accumulator whose inputs are of a type comes to null or to a
value of the result type (`Accumulator.value_admits`). An event that conforms to the schema gives an
argument of the inferred type (`Aggregate.contribution_admits`), hence a window of such events is
read to a value of the inferred type (`WindowedAggregate.read_admits`). Numbers are refused by no
function, so over an argument that is inferred to be a number nothing is.
-/

namespace Hindsight

open ValueType (admits_of_nullOr nullOr_of_admits)

section Accumulators

variable {t : ValueType} {P : Value → Prop}

namespace Accumulator

/-- The inputs that an accumulator may answer with have a property. -/
def Keeps (P : Value → Prop) : Accumulator → Prop
  | min best | max best => ∀ v ∈ best, P v
  | first held | last held => ∀ i ∈ held, P i.value
  | nth _ s => ∀ i ∈ s, P i.value
  | _ => True

/-- An accumulator without inputs has nothing to answer with. -/
theorem keeps_empty (f : AggregateFunction) : (empty f).Keeps P := by
  cases f <;> first | trivial | (intro _ none; cases none)

/-- The best value is the one from before or the one that is offered, so a property of both
stays. -/
theorem forall_mem_offer {x : Extreme} {best : Option Value} {v : Value} (h : ∀ w ∈ best, P w)
    (hv : P v) : ∀ w ∈ x.offer best v, P w := by
  rintro w hw
  cases best with
  | none => exact Option.mem_some.1 hw ▸ hv
  | some current =>
    rw [Extreme.offer] at hw
    split at hw
    · exact Option.mem_some.1 hw ▸ hv
    · exact h w hw

/-- The earlier input is the one held or the new one, so a property of both values stays. -/
theorem forall_mem_earlier {held : Option Input} {i : Input} (h : ∀ j ∈ held, P j.value)
    (hi : P i.value) : ∀ j ∈ earlier held i, P j.value := by
  rintro j hj
  cases held with
  | none => exact Option.mem_some.1 hj ▸ hi
  | some current =>
    rw [earlier] at hj
    split at hj
    · exact Option.mem_some.1 hj ▸ hi
    · exact h j hj

/-- The later input is the one held or the new one, so a property of both values stays. -/
theorem forall_mem_later {held : Option Input} {i : Input} (h : ∀ j ∈ held, P j.value)
    (hi : P i.value) : ∀ j ∈ later held i, P j.value := by
  rintro j hj
  cases held with
  | none => exact Option.mem_some.1 hj ▸ hi
  | some current =>
    rw [later] at hj
    split at hj
    · exact Option.mem_some.1 hj ▸ hi
    · exact h j hj

/-- One more input with the property leaves the property to what is held, by the cases of
accumulators. -/
theorem Keeps.absorb {a : Accumulator} (h : a.Keeps P) {i : Input} (hi : P i.value) :
    (a.absorb i).Keeps P := by
  cases a with
  | min best | max best => exact forall_mem_offer h hi
  | first held => exact forall_mem_earlier h hi
  | last held => exact forall_mem_later h hi
  | nth n s => exact List.forall_mem_append.2 ⟨h, List.forall_mem_singleton.2 hi⟩
  | _ => trivial

/-- **An input whose value has the property leaves such values**, by the cases of accumulators: each
answers with values it held before or with the new one. -/
theorem Keeps.extend {a : Accumulator} (h : a.Keeps P) {i : Input} (hi : P i.value) :
    (a.extend i).Keeps P := by
  unfold Accumulator.extend
  split
  · exact h
  · exact h.absorb hi

/-- A sum is a number, an integer or a float, or null where there was nothing to add. -/
theorem nullOr_sum (s : Total) : s.sum.NullOr .number := by
  rw [Total.sum]
  split
  · exact .inl rfl
  · split <;> exact .inr rfl

/-- A mean is a number, or null where there was nothing to add. -/
theorem nullOr_mean (s : Total) : s.mean.NullOr .number := by
  rw [Total.mean]
  split
  · exact .inl rfl
  · exact .inr rfl

/-- A median is a number, or null of no numbers. -/
theorem nullOr_median (xs : List Value) : (Hindsight.median xs).NullOr .number := by
  unfold Hindsight.median
  dsimp only
  split
  · exact Value.nullOr_getD_map Value.float (fun _ => rfl) _
  · split
    · exact .inr rfl
    · exact .inl rfl

/-- The mean of gaps is a number, or null where there are fewer than two times. -/
theorem nullOr_meanGap (s : Span) : s.meanGap.NullOr .number := by
  unfold Span.meanGap
  split
  · split
    · exact .inr rfl
    · exact .inl rfl
  · exact .inl rfl

/-- **The value of an accumulator** whose inputs are of a type is of the result type: of the type
itself where the function answers with an input, and of the type of the function otherwise. -/
theorem value_admits {a : Accumulator} (h : a.Keeps t.Admits) :
    (a.function.resultType t).Admits a.value := by
  have null : t.Admits .null := admits_of_nullOr (.inl rfl)
  cases a with
  | count | countDistinct | values => exact .inr rfl
  | sum s => exact nullOr_sum s
  | mean s => exact nullOr_mean s
  | variance m => exact Value.nullOr_getD_map Value.float (fun _ => rfl) m.sample?
  | deviation m =>
    exact Value.nullOr_getD_map (fun x => Value.float x.sqrt) (fun _ => rfl) m.sample?
  | min best | max best =>
    cases best with
    | none => exact null
    | some v => exact h v rfl
  | first held | last held =>
    cases held with
    | none => exact null
    | some i => exact h i rfl
  | timeOfFirst held | timeOfLast held | timeOfNext held =>
    exact Value.nullOr_getD_map (fun i => Value.instant i.time) (fun _ => rfl) held
  | nth n s =>
    show t.Admits (s.nth n)
    rw [Series.nth]
    cases place : (s.place? n).bind fun i => s[i]? with
    | none => exact null
    | some i =>
      obtain ⟨k, -, found⟩ := Option.bind_eq_some_iff.1 place
      exact h i (List.mem_of_getElem? found)
  | median xs => exact nullOr_median xs
  | meanGap s => exact nullOr_meanGap s

/-- **A number is refused by no function.** What an argument inferred to be a number comes to is a
number or null, and numeric functions take both. -/
theorem not_refuses_number {v : Value} (h : ValueType.number.Admits v) (f : AggregateFunction) :
    ¬Refuses f v := by
  rw [refuses_iff]
  rintro ⟨notNull, -, noNumber⟩
  rcases h with rfl | h
  · cases notNull
  · have numeric : v.isNumeric = true := by cases v <;> first | rfl | cases h
    rw [numeric] at noNumber
    cases noNumber

end Accumulator

/-- A fault that may stop an aggregate over arguments of a type: if they are numbers, it is one of
the operations in its formulas. -/
def ValueType.MayFail (t : ValueType) (e : EvalError) : Prop :=
  t = .number → e.isOperational = true

/-- An accumulator takes an input of the type of its inputs, unless it asks for numbers where they
are none. -/
theorem Accumulator.Keeps.add {a : Accumulator} (h : a.Keeps t.Admits) {i : Input}
    (hi : t.Admits i.value) :
    Meets (a.add i) (fun b => b.function = a.function ∧ b.Keeps t.Admits) t.MayFail := by
  by_cases refused : Refuses a.function i.value
  · obtain ⟨e, failed⟩ := fails_add_iff.2 refused
    rw [failed]
    rintro rfl
    exact absurd refused (not_refuses_number hi a.function)
  · rw [add_of_not_refuses refused]
    exact ⟨function_extend a i, h.extend hi⟩

/-- **Inputs of a type leave values of that type**, by induction on the inputs: a step that succeeds
keeps the function and the property, and one that fails does so as the type admits. -/
theorem Accumulator.Keeps.foldlM_add {is : List RankedInput}
    (each : ∀ i ∈ is, t.Admits i.input.value) {a : Accumulator} (h : a.Keeps t.Admits) :
    Meets (is.foldlM (fun s i => s.add i.input) a)
      (fun b => b.function = a.function ∧ b.Keeps t.Admits) t.MayFail := by
  induction is generalizing a with
  | nil => exact ⟨rfl, h⟩
  | cons i is ih =>
    rw [List.foldlM_cons]
    obtain ⟨here, rest⟩ := List.forall_mem_cons.1 each
    refine (h.add here).bind fun b hb => (ih rest hb.2).imp fun c hc => ?_
    exact ⟨hc.1.trans hb.1, hc.2⟩

end Accumulators

namespace Aggregate

/-- Whether the formulas of an aggregate are typed by the schema. -/
def isTyped (a : Aggregate) : Bool := a.argument.isTyped && a.clauses.all Formula.isTyped

variable {a : Aggregate}

/-- An aggregate is typed if its argument, its filter, its key and its rank are, as far as it has
them. -/
theorem isTyped_iff :
    a.isTyped = true ↔ a.argument.isTyped = true ∧ (∀ f ∈ a.filter, f.isTyped = true) ∧
      (∀ f ∈ a.groupBy, f.isTyped = true) ∧ ∀ r ∈ a.having, r.rank.isTyped = true := by
  simp [isTyped, clauses]

/-- The type of what is made by groups, if there are any. -/
def typeByGroups (types : AttributeTypes) (groupBy : Option Formula) (made : ValueType) :
    Except CompileError ValueType :=
  match groupBy with
  | some key => do
    let _ ← key.infer types []
    return .map
  | none => return made

/-- A grouped aggregate has the type of maps, whatever its function makes, and any other has the
type of the function. -/
theorem typeByGroups_eq_ok {types : AttributeTypes} {groupBy : Option Formula}
    {made t : ValueType} (h : typeByGroups types groupBy made = .ok t) :
    t = if groupBy.isSome then .map else made := by
  cases groupBy with
  | none =>
    cases h
    rfl
  | some key =>
    obtain ⟨_, -, h⟩ := bind_eq_ok_iff.1 h
    cases h
    rfl

/-- The type of an aggregate is a map for groups, and else follows from the type of the argument. -/
theorem infer_eq_ok {types : AttributeTypes} {t : ValueType} (h : a.infer types = .ok t) :
    ∃ u, a.argument.infer types [] = .ok u ∧
      t = if a.groupBy.isSome then .map else a.function.resultType u := by
  obtain ⟨f, argument, window, filter, groupBy, having, pinned⟩ := a
  obtain ⟨u, inferred, h⟩ := bind_eq_ok_iff.1 h
  refine ⟨u, inferred, ?_⟩
  obtain ⟨_, -, checked⟩ := bind_eq_ok_iff.1 h
  cases filter with
  | none =>
    cases having with
    | none => exact typeByGroups_eq_ok checked
    | some r =>
      obtain ⟨_, -, ranked⟩ := bind_eq_ok_iff.1 checked
      obtain ⟨_, -, rest⟩ := bind_eq_ok_iff.1 ranked
      exact typeByGroups_eq_ok rest
  | some g =>
    obtain ⟨_, -, filtered⟩ := bind_eq_ok_iff.1 checked
    obtain ⟨_, -, unfiltered⟩ := bind_eq_ok_iff.1 filtered
    cases having with
    | none => exact typeByGroups_eq_ok unfiltered
    | some r =>
      obtain ⟨_, -, ranked⟩ := bind_eq_ok_iff.1 unfiltered
      obtain ⟨_, -, rest⟩ := bind_eq_ok_iff.1 ranked
      exact typeByGroups_eq_ok rest

/-- What a contribution may be where arguments are of a type. -/
def ContributionFits (u : ValueType) : Contribution → Prop
  | .passed => True
  | .counted s => u.Admits s.value
  | .filterFailed reason => reason.isOperational = true

/-- A clause is evaluated, or fails in an operation: a typed formula asks for no slot. -/
theorem clause_meets (ctx : EvalContext) (f : Option Formula) (typed : ∀ g ∈ f, g.isTyped = true) :
    ComesTo (clause ctx f) fun _ => True := by
  cases f with
  | none => trivial
  | some g => exact (Formula.evaluate_meets_of_isTyped ctx (typed g rfl)).map fun _ _ => trivial

/-- Whether an event is accepted is decided, or the filter fails in an operation. -/
theorem accepts_meets (typed : a.isTyped = true) (ctx : EvalContext) :
    ComesTo (a.accepts ctx) fun _ => True := by
  have filterTyped := (isTyped_iff.1 typed).2.1
  unfold accepts
  split
  · next f filter =>
    exact (Formula.evaluate_meets_of_isTyped ctx (filterTyped f filter)).bind fun _ _ => trivial
  · trivial

variable {s : EventSchema} {u : ValueType}

/-- **An event that conforms to the schema** gives an argument of the inferred type, or is passed
over, or the filter fails in an operation. -/
theorem contribution_admits (typed : a.isTyped = true)
    (inferred : a.argument.infer s.types [] = .ok u) (point : EvalContext) {e : Event}
    (conforms : e.Conforms s) : ComesTo (a.contribution point e) (ContributionFits u) := by
  obtain ⟨argument, -, groupBy, having⟩ := isTyped_iff.1 typed
  have ranks : ∀ g ∈ a.having.map Ranking.rank, g.isTyped = true := by
    intro g hg
    obtain ⟨r, hr, rfl⟩ := Option.map_eq_some_iff.1 hg
    exact having r hr
  have atHand : ∀ e' ∈ (point.withEvent e).event, e'.Conforms s := fun e' he' =>
    Option.mem_some.1 he' ▸ conforms
  have accepts := accepts_meets typed (point.withEvent e)
  rcases a.contribution_cases point e with ⟨-, given⟩ |
    ⟨-, ⟨-, given⟩ | ⟨-, given⟩ | ⟨reason, failed, given⟩⟩
  · rw [given]
    trivial
  · rw [given]
    trivial
  · rw [given]
    refine Meets.map ?_ fun _ h => h
    refine (Formula.evaluate_admits atHand _ u argument inferred).bind fun v hv => ?_
    refine (clause_meets _ _ groupBy).bind fun _ _ => ?_
    exact (clause_meets _ _ ranks).bind fun _ _ => hv
  · rw [failed] at accepts
    rw [given]
    exact accepts

end Aggregate

/-- What an aggregate of a type may come to. -/
def Outcome.Fits (t : ValueType) : Outcome → Prop
  | .value v => t.Admits v
  | .filterFailed reason => reason.isOperational = true

namespace WindowedAggregate

variable {s : EventSchema} {a : Aggregate} {t u : ValueType}

/-- What is read has the function of the aggregate and keeps inputs of its argument's type. -/
structure Keeps (a : Aggregate) (u : ValueType) (r : WindowReading) : Prop where
  function : r.plain.function = a.function
  plain : r.plain.Keeps u.Admits
  ranked : ∀ i ∈ r.ranked, u.Admits i.input.value

/-- A reading that starts has no inputs yet, in one accumulator or in groups. -/
theorem keeps_start (a : Aggregate) (u : ValueType) : Keeps a u (.start a.function) :=
  ⟨Accumulator.function_empty _, Accumulator.keeps_empty _, fun _ none => by cases none⟩

/-- A group takes up an input whose value is of the type, or fails as such a value may: a number is
never refused. -/
theorem added_group_meets (g : GroupedAccumulator) (key : Value) {i : Input}
    (h : u.Admits i.value) : Meets (g.added key i) (fun _ => True) u.MayFail := by
  rw [GroupedAccumulator.added]
  obtain ⟨-, passed⟩ | ⟨-, a, -, step⟩ | ⟨-, e, failed, step⟩ := g.add_cases key i
  · rw [passed]
    trivial
  · rw [step]
    trivial
  · rw [step]
    rintro rfl
    have refused := Accumulator.fails_add_iff.1 ⟨e, failed⟩
    exact absurd refused (Accumulator.not_refuses_number h _)

/-- A share whose argument is of the type is taken up, by the accumulator, by its group, or among
those that are ranked. -/
theorem Keeps.add {r : WindowReading} (h : Keeps a u r) (time : Time.Instant) {x : Share}
    (hx : u.Admits x.value) : Meets (r.add time x) (Keeps a u) u.MayFail := by
  unfold WindowReading.add
  split
  · exact (added_group_meets r.grouped _ (i := ⟨time, x.value⟩) hx).map fun g _ =>
      ⟨h.function, h.plain, h.ranked⟩
  · exact ⟨h.function, h.plain, List.forall_mem_append.2
      ⟨h.ranked, List.forall_mem_singleton.2 hx⟩⟩
  · exact (h.plain.add (i := ⟨time, x.value⟩) hx).map fun b hb =>
      ⟨hb.1.trans h.function, hb.2, h.ranked⟩

/-- The value after the window is read is of the inferred type, whether it is that of an
accumulator, of groups, or of the inputs with the best rank. -/
theorem Keeps.value {r : WindowReading} (h : Keeps a u r) :
    Meets (r.value a)
      ((if a.groupBy.isSome then ValueType.map else a.function.resultType u).Admits) u.MayFail := by
  have ranked : Meets (r.withRanked a)
      (fun b => b.function = a.function ∧ b.Keeps u.Admits) u.MayFail := by
    unfold WindowReading.withRanked
    split
    · next x _ =>
      have selected : ∀ i ∈ x.extreme.select r.ranked, u.Admits i.input.value := fun i hi =>
        h.ranked i (List.mem_of_mem_filter hi)
      exact (h.plain.foldlM_add selected).imp fun b hb => ⟨hb.1.trans h.function, hb.2⟩
    · exact ⟨h.function, h.plain⟩
  refine ranked.map fun b hb => ?_
  split
  · exact .inr rfl
  · rw [← hb.1]
    exact Accumulator.value_admits hb.2

/-- **A window of events that conform to the schema** is read to a value of the inferred type; a
fault is one of the operations in the formulas, at least where the argument is a number. -/
theorem read_admits (typed : a.isTyped = true) (inferred : a.argument.infer s.types [] = .ok u)
    (point : EvalContext) {xs : Timeline} (conforms : ∀ x ∈ xs, x.event.Conforms s)
    {r : WindowReading} (h : Keeps a u r) :
    Meets (read a point r xs)
      (Outcome.Fits (if a.groupBy.isSome then .map else a.function.resultType u)) u.MayFail := by
  induction xs generalizing r with
  | nil =>
    rw [read]
    exact h.value.map fun v hv => hv
  | cons x xs ih =>
    obtain ⟨here, rest⟩ := List.forall_mem_cons.1 conforms
    have contribution : Meets (a.contribution point x.event) (Aggregate.ContributionFits u)
        u.MayFail :=
      (a.contribution_admits typed inferred point here).weaken fun e he _ => he
    rw [read]
    refine contribution.bind fun c hc => ?_
    cases c with
    | passed => exact ih rest h
    | filterFailed reason => exact hc
    | counted share => exact (h.add x.event.time hc).bind fun _ h' => ih rest h'

end WindowedAggregate

/-- **Inferred types are sound.** Over events that conform to a schema, a formula that is inferred
to have a known type comes to null or to a value of that type, and so does an aggregate over any
events of a window. No function asks in vain for numbers where the argument is inferred to be
one. -/
theorem inferred_types_sound (s : EventSchema) :
    (∀ (f : Formula) (ctx : EvalContext) (slots : List ValueType) (t : ValueType) (v : Value),
      f.isTyped = true → (∀ e ∈ ctx.event, e.Conforms s) → f.infer s.types slots = .ok t →
      t.isOpen = false → f.evaluate ctx = .ok v → v.NullOr t) ∧
    ∀ (a : Aggregate) (point : EvalContext) (xs : Timeline) (t : ValueType),
      a.isTyped = true → (∀ x ∈ xs, x.event.Conforms s) → a.infer s.types = .ok t →
      (t.isOpen = false → ∀ v,
        WindowedAggregate.read a point (.start a.function) xs = .ok (.value v) → v.NullOr t) ∧
      (a.argument.infer s.types [] = .ok .number → ∀ g found,
        WindowedAggregate.read a point (.start a.function) xs ≠ .error (.noNumber g found)) := by
  constructor
  · intro f ctx slots t v typed conforms inferred known evaluated
    have meets := Formula.evaluate_admits conforms f t typed inferred
    rw [evaluated] at meets
    exact nullOr_of_admits known meets
  · intro a point xs t typed conforms inferred
    obtain ⟨u, inferredArgument, rfl⟩ := Aggregate.infer_eq_ok inferred
    have meets := WindowedAggregate.read_admits typed inferredArgument point conforms
      (WindowedAggregate.keeps_start a u)
    constructor
    · intro known v evaluated
      rw [evaluated] at meets
      exact nullOr_of_admits known meets
    · intro number g found failed
      obtain rfl : u = .number := Except.ok.inj (inferredArgument.symm.trans number)
      rw [failed] at meets
      cases meets rfl

/-- A payment of three, as an integer. -/
def paymentOfThree : Event where
  type := "payment"
  time := .zero
  entities := ⟨[("customer", "1")]⟩
  id := none
  experiment := none
  attributes := ⟨[("amount", .int 3), ("status", .text "paid")]⟩

/-- What is recorded of payments, among them some that are no integers. -/
def paymentSchema : EventSchema := ⟨[("amount", .float), ("status", .text)]⟩

/-- The sum of what was paid. -/
def sumPaid : Aggregate where
  function := .sum
  argument := .attr "amount"
  window := .past
  filter := some (.binary (.attr "status") (.compare .eq) (.literal (.text "paid")))
  groupBy := none
  having := none
  eventTypes := none

/-- A payment of three conforms to the schema of payments, so that the schema has events at all. -/
theorem paymentOfThree_conforms : paymentOfThree.Conforms paymentSchema := by
  intro name k kind
  have ordered : paymentOfThree.attributes.Ordered := by decide
  cases found : paymentOfThree.attributes.get? name with
  | none =>
    rw [Event.attr, found] at kind
    cases kind
  | some v =>
    rw [Event.attr, found] at kind
    have bound := (Dict.mem_entries_iff ordered).2 found
    simp only [paymentOfThree, List.mem_cons, Prod.mk.injEq, List.not_mem_nil, or_false] at bound
    obtain ⟨rfl, rfl⟩ | ⟨rfl, rfl⟩ := bound
    · cases kind
      exact ⟨.float, rfl, rfl⟩
    · cases kind
      exact ⟨.text, rfl, rfl⟩

/-- Twice an amount and the sum of amounts are numbers, and are inferred to be. -/
theorem inferred_types_sound_of_payment :
    paymentOfThree.Conforms paymentSchema ∧
    (Formula.binary (.attr "amount") (.arith .mul) (.literal (.int 2))).infer paymentSchema.types
      [] = .ok .number ∧
    (Formula.binary (.attr "amount") (.arith .mul) (.literal (.int 2))).evaluate
      (.ofEvent paymentOfThree) = .ok (.int 6) ∧
    (Value.int 6).NullOr .number ∧
    sumPaid.infer paymentSchema.types = .ok .number ∧
    WindowedAggregate.read sumPaid ⟨none, none, none, []⟩ (.start .sum) [⟨0, paymentOfThree⟩] =
      .ok (.value (.int 3)) ∧
    (Value.int 3).NullOr .number := by
  have conforms := paymentOfThree_conforms
  have inferred : (Formula.binary (.attr "amount") (.arith .mul) (.literal (.int 2))).infer
      paymentSchema.types [] = .ok .number := rfl
  have doubled : (Formula.binary (.attr "amount") (.arith .mul) (.literal (.int 2))).evaluate
      (.ofEvent paymentOfThree) = .ok (.int 6) := rfl
  have inferredSum : sumPaid.infer paymentSchema.types = .ok .number := rfl
  have summed : WindowedAggregate.read sumPaid ⟨none, none, none, []⟩ (.start .sum)
      [⟨0, paymentOfThree⟩] = .ok (.value (.int 3)) := rfl
  obtain ⟨formulas, aggregates⟩ := inferred_types_sound paymentSchema
  refine ⟨conforms, inferred, doubled, ?_, inferredSum, summed, ?_⟩
  · exact formulas _ (.ofEvent paymentOfThree) [] .number _ rfl
      (fun e he => Option.mem_some.1 he ▸ conforms) inferred rfl doubled
  · have each : ∀ x ∈ [StoredEvent.mk 0 paymentOfThree], x.event.Conforms paymentSchema := by
      simpa using conforms
    exact (aggregates sumPaid ⟨none, none, none, []⟩ _ .number rfl each inferredSum).1 rfl _ summed

end Hindsight
