import Hindsight.Proofs.Query.Failure
import Hindsight.Proofs.Query.Pointwise
import Hindsight.Proofs.Query.Visits

/-!
# A point alone

Along the points of a group an aggregate slides, so its outcome at a point might depend on the
points before. It does not where the window leaves no trace behind: in a deque for all values, and
in an accumulator that gives back unless it holds moments or a total of floats
(`WindowedAggregate.SteadyAt`). A query then comes to the same at a point whether it is evaluated
alone or among others (`QueryRun.run_alone`).
-/

namespace Hindsight

/-- A function that gives back is exact on the values that it does not refuse, apart from moments
and from totals of floats. -/
theorem AggregateFunction.isExactOn_of_isSubtractable {f : AggregateFunction} {v : Value}
    (subtractable : f.isSubtractable = true) (no_variance : f ≠ .variance)
    (no_deviation : f ≠ .deviation)
    (no_float : f = .sum ∨ f = .mean → ValueKind.of? v ≠ some .float)
    (accepted : ¬Accumulator.Refuses f v) : f.isExactOn v = true := by
  rw [Accumulator.refuses_iff] at accepted
  cases f with
  | count | countDistinct => rfl
  | sum | mean =>
    cases v <;>
      simp_all [isExactOn, isNumeric, Value.isNull, Value.isNumeric, ValueKind.of?]
  | variance => exact absurd rfl no_variance
  | deviation => exact absurd rfl no_deviation
  | _ => cases subtractable

namespace WindowedAggregate

variable {w : WindowedAggregate} {ps : List SourcedPoint} {es : List Entry}

/-- Whether an event counts with a float at a point. -/
def countsFloat (w : WindowedAggregate) (p : SourcedPoint) (x : StoredEvent) : Bool :=
  match w.aggregate.contribution p.context x.event with
  | .ok (.counted s) => ValueKind.of? s.value == some .float
  | _ => false

/-- A window leaves no trace behind: if the aggregate gives back, it holds neither moments nor a
total of floats. -/
def SteadyAt (w : WindowedAggregate) (p : SourcedPoint) : Prop :=
  w.aggregate.strategy = .incremental →
    w.aggregate.function ≠ .variance ∧ w.aggregate.function ≠ .deviation ∧
      (w.aggregate.function = .sum ∨ w.aggregate.function = .mean →
        ∀ x ∈ w.candidates, w.countsFloat p x = false)

instance (w : WindowedAggregate) (p : SourcedPoint) : Decidable (w.SteadyAt p) :=
  inferInstanceAs (Decidable (_ → _ ≠ _ ∧ _ ≠ _ ∧ (_ ∨ _ → ∀ x ∈ w.candidates, _ = _)))

/-- No entry in a frame is refused if the evaluation by sliding comes to outcomes, since a refusal
would have ended it. -/
theorem Serves.not_refused_of_evaluate (serves : w.Serves ps es)
    (slides : w.aggregate.strategy ≠ .rescan) (group : SourcedPoint.OneGroup ps)
    {outs : List Outcome} (h : w.evaluate w.aggregate.strategy ps = .ok outs) {p : SourcedPoint}
    (hp : p ∈ ps) {e : Entry} (he : e ∈ (w.frame p.point).of es) :
    ¬e.Refused w.aggregate.function := by
  intro refused
  obtain ⟨x, hx, holds⟩ := serves.exists_holds hp he
  have upsets : w.Upsets p x := .inr ⟨hx, holds.refused_iff.1 refused⟩
  exact not_fails_of_eq_ok h
    ((fails_evaluate_iff slides group).2 ⟨p, hp, x, mem_of_mem_segment hx, upsets⟩)

/-- Where a window leaves no trace behind, the entries in it that are not refused are exact. Moments
and totals of floats are what is left out, as these round when they give back. -/
theorem Serves.exactOn_of_steadyAt (serves : w.Serves ps es) {p : SourcedPoint} (hp : p ∈ ps)
    (steady : w.SteadyAt p) (incremental : w.aggregate.strategy = .incremental)
    (subtractable : w.aggregate.function.isSubtractable = true) {e : Entry}
    (he : e ∈ (w.frame p.point).of es) (accepted : ¬e.Refused w.aggregate.function) :
    Sliding.ExactOn w.aggregate.function e := by
  intro i hi
  obtain ⟨x, hx, holds⟩ := serves.exists_holds hp he
  obtain ⟨s, counted, rfl⟩ := Entry.input?_eq_some_iff.1 hi
  obtain ⟨no_variance, no_deviation, floats⟩ := steady incremental
  refine AggregateFunction.isExactOn_of_isSubtractable subtractable no_variance no_deviation
    (fun total is_float => ?_) fun refuses => accepted ⟨_, hi, refuses⟩
  have no_float := floats total x (mem_of_mem_segment hx)
  rw [countsFloat, holds.contribution, counted] at no_float
  simp only [is_float, beq_self_eq_true, Bool.true_eq_false] at no_float

/-- **An evaluation that leaves no trace behind** comes at each point to the same outcome, whichever
of the points it is about. -/
theorem exists_evaluate_of_subset (group : SourcedPoint.OneGroup ps)
    (steady : ∀ p ∈ ps, w.SteadyAt p) {outs : List Outcome}
    (found : w.evaluate w.aggregate.strategy ps = .ok outs) :
    ∃ F : SourcedPoint → Outcome, ∀ ps' ⊆ ps,
      w.evaluate w.aggregate.strategy ps' = .ok (ps'.map F) := by
  have h := found
  rcases w.aggregate.strategy_cases with rescans | ⟨⟨-, free⟩, slides⟩
  · rw [rescans, evaluate, mapError_eq_ok_iff] at h
    obtain ⟨F, hF⟩ := exists_rescan_of_subset h
    refine ⟨F, fun ps' sub => ?_⟩
    rw [rescans, evaluate, hF ps' sub]
    rfl
  rcases slides with ⟨incremental, subtractable⟩ | ⟨deque, selective⟩
  · simp only [incremental, evaluate] at h ⊢
    obtain ⟨es, serves, -⟩ := exists_serves free group h
    have exact : ∀ p ∈ ps, ∀ e ∈ (w.frame p.point).of es,
        Sliding.ExactOn w.aggregate.function e := fun p hp e he =>
      serves.exactOn_of_steadyAt hp (steady p hp) incremental subtractable he
        (serves.not_refused_of_evaluate (by simp [incremental]) group found hp he)
    exact ⟨_, fun ps' sub => serves.slide_eq_map (Sliding.follows_inputs subtractable)
      ⟨rfl, by simp⟩ Sliding.HasInputs.value
      (fun p hp e he => ⟨exact p hp e he, (exact p hp e he).not_refused⟩) sub⟩
  · obtain ⟨r, -, content⟩ := dequeContent_of_isSelective selective
    simp only [deque, evaluate, content] at h ⊢
    obtain ⟨es, serves, -⟩ := exists_serves free group h
    exact ⟨_, fun ps' sub => serves.slide_eq_map (Sliding.follows_pushes selective r) rfl
      Sliding.HasPushes.value
      (fun p _ e _ => ⟨trivial, e.not_refused_of_isSelective selective⟩) sub⟩

end WindowedAggregate

namespace QueryRun

variable {r : QueryRun} {q : FeatureSet} {ps : List ObservationPoint} {t : FeatureTable}

/-- The windows of a query leave no trace behind at some points. -/
def Steady (r : QueryRun) (q : FeatureSet) (ps : List ObservationPoint) : Prop :=
  ∀ f ∈ q.features, ∀ a ∈ f.aggregates, ∀ p ∈ ps, (r.windowed (.of p) a).SteadyAt (r.sourced p)

instance (r : QueryRun) (q : FeatureSet) (ps : List ObservationPoint) :
    Decidable (r.Steady q ps) :=
  inferInstanceAs (Decidable (∀ f ∈ q.features, ∀ a ∈ f.aggregates, ∀ p ∈ ps, _))

/-- **Some of the points of a query** come to the same by themselves. Each group of the part is a
part of a group, and there the outcomes are those of a function of the point. -/
theorem exists_run_of_subset (h : r.run q ps = .ok t) (steady : r.Steady q ps) :
    ∃ out, t = .tabulate q.columns out ps ∧
      ∀ ps' ⊆ ps, r.run q ps' = .ok (.tabulate q.columns out ps') := by
  obtain ⟨F, out, -, whole, -, parts⟩ := exists_tabulate (S := (· ⊆ ps)) (List.Subset.refl ps) h
    fun g a outs used found => by
      obtain ⟨f, hf, ha⟩ := used
      have steady_here : ∀ p ∈ (pointsOf ps g).map r.sourced, (r.windowed g a).SteadyAt p := by
        refine List.forall_mem_map.2 fun p hp => ?_
        obtain ⟨here, rfl⟩ := mem_pointsOf.1 hp
        exact steady f hf a ha p here
      obtain ⟨F, hF⟩ := WindowedAggregate.exists_evaluate_of_subset (oneGroup_pointsOf r ps g)
        steady_here found
      refine ⟨fun p => F (r.sourced p), fun ps' sub => ?_⟩
      have inside : pointsOf ps' g ⊆ pointsOf ps g := fun p hp =>
        mem_pointsOf.2 ((mem_pointsOf.1 hp).imp_left fun member => sub member)
      exact (hF _ (List.map_subset _ inside)).trans (congrArg Except.ok (List.map_map ..))
  exact ⟨out, whole, fun ps' sub => parts ps' sub sub⟩

/-- **A point is evaluated in isolation.** What a query comes to at a point among others, the same
row or the same drop, it comes to at this point alone, if its windows leave no trace behind. This is
all there is to ask, since the points of a group share nothing but the state of the slides over
them. -/
theorem run_alone (h : r.run q ps = .ok t) (steady : r.Steady q ps) :
    ∃ out, t = .tabulate q.columns out ps ∧
      ∀ p ∈ ps, r.run q [p] = .ok (.tabulate q.columns out [p]) := by
  obtain ⟨out, whole, parts⟩ := exists_run_of_subset h steady
  exact ⟨out, whole, fun p hp => parts [p] (List.cons_subset.2 ⟨hp, List.nil_subset _⟩)⟩

/-- The least of all earlier values and how many there are. -/
def leastOfPast : FeatureSet where
  features :=
    [{ name := "least"
       raw := "min(value) over past"
       formula := .slot 0
       aggregates := [⟨.min, .attr "value", .past, none, none, none, none⟩] },
     { name := "seen"
       raw := "count(value) over past"
       formula := .slot 0
       aggregates := [⟨.count, .attr "value", .past, none, none, none, none⟩] }]

/-- The least of a number, a text and a smaller number, in an index that takes values of any kind.
The text compares with neither number. -/
theorem run_alone_of_visits :
    let values : List Value := [.int 5, .text "x", .int 3]
    let x := ((EventIndex.empty false).insertMany ((visits values).map StoredEvent.event)).2
    let r : QueryRun := ⟨x, .allEvents, {}⟩
    let ps := [(patientOn 1).point, (patientOn 3).point]
    let t : FeatureTable :=
      ⟨["least", "seen"], [⟨(patientOn 1).point, [.int 5, .int 1]⟩,
        ⟨(patientOn 3).point, [.int 5, .int 3]⟩], []⟩
    (r.run leastOfPast ps = .ok t ∧ r.Steady leastOfPast ps) ∧
      ∃ out, t = .tabulate leastOfPast.columns out ps ∧
        ∀ p ∈ ps, r.run leastOfPast [p] = .ok (.tabulate leastOfPast.columns out [p]) := by
  intro values x r ps t
  have nonempty : ps ≠ [] := List.cons_ne_nil _ _
  have one : ∀ p ∈ ps, PointGroup.of p = PointGroup.of (patientOn 1).point := by decide
  have inOrder : ps.Pairwise fun p q => p.instant ≤ q.instant := by decide
  let columns : List (Feature × List (List Outcome)) :=
    leastOfPast.features.zip
      [[[.value (.int 5), .value (.int 5)]], [[.value (.int 1), .value (.int 3)]]]
  have slots : leastOfPast.features.mapM (r.slots (visits values)
      [patientOn 1, patientOn 3]) = .ok columns := rfl
  have outcomes : PointOutcome.ofColumns [patientOn 1, patientOn 3] columns =
      .ok [.row [.int 5, .int 1], .row [.int 5, .int 3]] := rfl
  have run : r.run leastOfPast ps = .ok t := run_of_inOrder nonempty one inOrder rfl slots outcomes
  have steady : r.Steady leastOfPast ps := by decide
  exact ⟨⟨run, steady⟩, run_alone run steady⟩

end QueryRun
end Hindsight
