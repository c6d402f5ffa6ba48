import Hindsight.Proofs.Query.Accounts
import Hindsight.Proofs.Query.Group

/-!
# A query point by point

The points of a group are evaluated together, in the order of their instants (`pointsOf`). If the
outcomes of the aggregates there are those of a function of the point (`QueryRun.Decides`), the
table is put together point by point (`QueryRun.run_of_decides`). A function that decides several
lists of points at once carries the outcomes of one list over to the others
(`QueryRun.exists_tabulate`).
-/

namespace Hindsight

/-- The points of a group in the order of their instants. -/
def pointsOf (ps : List ObservationPoint) (g : PointGroup) : List ObservationPoint :=
  (ps.filter fun p => decide (PointGroup.of p = g)).mergeSort fun p q =>
    decide (p.instant ≤ q.instant)

section PointsOf

variable {ps ps' : List ObservationPoint} {p : ObservationPoint} {g : PointGroup}

/-- The points of a group are those points that belong to it. -/
@[simp] theorem mem_pointsOf : p ∈ pointsOf ps g ↔ p ∈ ps ∧ PointGroup.of p = g := by
  rw [pointsOf, List.mem_mergeSort, List.mem_filter, decide_eq_true_eq]

/-- The points of a group are in the order of their instants. -/
theorem pairwise_pointsOf (ps : List ObservationPoint) (g : PointGroup) :
    (pointsOf ps g).Pairwise fun p q => p.instant ≤ q.instant :=
  pairwise_mergeSort_key ObservationPoint.instant _

/-- In whichever order the points come, a group has the same points; only points of one instant may
be in another order. -/
theorem pointsOf_perm (h : ps.Perm ps') (g : PointGroup) :
    (pointsOf ps g).Perm (pointsOf ps' g) :=
  ((List.mergeSort_perm _ _).trans (h.filter _)).trans (List.mergeSort_perm _ _).symm

/-- The groups are those of the points, each with the points that belong to it, in their order. -/
theorem mem_pointGroups_iff {ps : List PlacedPoint} {l : List PlacedPoint} :
    (g, l) ∈ pointGroups ps ↔
      (∃ p ∈ ps, PointGroup.of p.point = g) ∧
        l = ps.filter fun p => decide (PointGroup.of p.point = g) := by
  rw [pointGroups, List.mem_map]
  simp only [List.mem_mergeSort, List.mem_eraseDups, List.mem_map, Prod.mk.injEq]
  constructor
  · rintro ⟨_, there, rfl, rfl⟩
    exact ⟨there, rfl⟩
  · rintro ⟨there, rfl⟩
    exact ⟨g, there, rfl, rfl⟩

/-- In the order of their instants the placed points of a group are its points. So places play no
part in what a group comes to. -/
theorem map_point_inOrderOfInstants {l : List PlacedPoint} (h : (g, l) ∈ pointGroups (placed ps)) :
    (inOrderOfInstants l).map PlacedPoint.point = pointsOf ps g := by
  obtain ⟨-, rfl⟩ := mem_pointGroups_iff.1 h
  have sorted := List.map_mergeSort (f := PlacedPoint.point)
    (r := fun p q => decide (p.point.instant ≤ q.point.instant))
    (s := fun p q => decide (p.instant ≤ q.instant))
    (l := (placed ps).filter fun p => decide (PointGroup.of p.point = g)) fun _ _ _ _ => rfl
  have filtered := List.filter_map (f := PlacedPoint.point) (l := placed ps)
    (p := fun p => decide (PointGroup.of p = g))
  rw [map_point_placed] at filtered
  rw [inOrderOfInstants, sorted, pointsOf, filtered]
  rfl

end PointsOf

/-- **Columns of a function** give at each point the outcomes of the function there, by induction
along the points. From here on a column need not be looked at as a whole. -/
theorem PointOutcome.ofColumns_map {α : Type} (s : α → SourcedPoint) (F : Aggregate → α → Outcome)
    (fs : List Feature) (ps : List α) :
    ofColumns (ps.map s) (fs.map fun f => (f, f.aggregates.map fun a => ps.map (F a))) =
      ps.mapM fun p => ofSlots (s p).context (fs.map fun f => (f, f.aggregates.map (F · p))) := by
  induction ps with
  | nil => rfl
  | cons p ps ih =>
    have first : (fs.map fun f => (f, f.aggregates.map fun a => (p :: ps).map (F a))).map
        (fun c => (c.1, c.2.filterMap List.head?)) =
          fs.map fun f => (f, f.aggregates.map (F · p)) := by
      simp [Function.comp_def, List.filterMap_map]
    have rest : (fs.map fun f => (f, f.aggregates.map fun a => (p :: ps).map (F a))).map
        (fun c => (c.1, c.2.map List.tail)) =
          fs.map fun f => (f, f.aggregates.map fun a => ps.map (F a)) := by
      simp [Function.comp_def]
    rw [List.map_cons, ofColumns, first, rest, ih, List.mapM_cons]

/-- A placed point with what a function gives for it. -/
def PlacedPoint.answered (out : ObservationPoint → PointOutcome) (p : PlacedPoint) :
    PlacedOutcome :=
  ⟨p.place, p.point, out p.point⟩

/-- **The table of a function:** each point is listed once, in the order of the points, with its row
or as dropped. -/
def FeatureTable.tabulate (columns : List String) (out : ObservationPoint → PointOutcome)
    (ps : List ObservationPoint) : FeatureTable where
  columns
  rows := ps.filterMap fun p =>
    match out p with
    | .row values => some ⟨p, values⟩
    | .dropped _ _ => none
  dropped := ps.filterMap fun p =>
    match out p with
    | .row _ => none
    | .dropped feature reason => some ⟨p, feature, reason⟩

namespace QueryRun

variable {r : QueryRun} {q : FeatureSet} {ps : List ObservationPoint}
  {F : Aggregate → ObservationPoint → Outcome} {out : ObservationPoint → PointOutcome}

/-- **Answering each point by a function makes the table of that function**: the rows of the points
with an answer, and the others as drops. -/
theorem table_map_answered (q : FeatureSet) (out : ObservationPoint → PointOutcome)
    (ps : List ObservationPoint) :
    table q ((placed ps).map (PlacedPoint.answered out)) = .tabulate q.columns out ps := by
  rw [table, FeatureTable.tabulate, FeatureTable.mk.injEq]
  simp only [List.filterMap_map, placed, true_and]
  constructor
  · conv_rhs => rw [← List.zipIdx_map_fst 0 ps, List.filterMap_map]
    rfl
  · conv_rhs => rw [← List.zipIdx_map_fst 0 ps, List.filterMap_map]
    rfl

/-- An aggregate over the candidates of a group. -/
def windowed (r : QueryRun) (g : PointGroup) (a : Aggregate) : WindowedAggregate :=
  ⟨a, r.scope.candidates r.index g r.options.experiment, r.options.inclusive⟩

/-- A function decides a query at some points: at those of each group, every aggregate comes to its
values. -/
def Decides (r : QueryRun) (q : FeatureSet) (F : Aggregate → ObservationPoint → Outcome)
    (ps : List ObservationPoint) : Prop :=
  ∀ g, ∀ f ∈ q.features, ∀ a ∈ f.aggregates,
    (r.windowed g a).evaluate a.strategy ((pointsOf ps g).map r.sourced) =
      .ok ((pointsOf ps g).map (F a))

/-- What a query comes to at a point where the outcomes of its aggregates are given. -/
def pointOutcome (r : QueryRun) (q : FeatureSet) (p : ObservationPoint)
    (F : Aggregate → Outcome) : Except EvalError PointOutcome :=
  PointOutcome.ofSlots (r.sourced p).context (q.features.map fun f => (f, f.aggregates.map F))

/-- The slots of a feature are evaluated aggregate by aggregate over the candidates of the group. -/
theorem slots_eq (r : QueryRun) (g : PointGroup) (ps : List SourcedPoint) (f : Feature) :
    r.slots (r.scope.candidates r.index g r.options.experiment) ps f =
      (f.aggregates.mapM fun a => (r.windowed g a).evaluate a.strategy ps) >>= fun slots =>
        .ok (f, slots) := rfl

/-- The points of a group form one group together with their source events. -/
theorem oneGroup_pointsOf (r : QueryRun) (ps : List ObservationPoint) (g : PointGroup) :
    SourcedPoint.OneGroup ((pointsOf ps g).map r.sourced) := by
  have each : ∀ p ∈ (pointsOf ps g).map r.sourced, PointGroup.of p.point = g :=
    List.forall_mem_map.2 fun p hp => (mem_pointsOf.1 hp).2
  exact fun p hp p' hp' => (each p hp).trans (each p' hp').symm

/-- The run of a group, with its points instead of the placed ones: its columns first, and then one
outcome for each point. -/
theorem runGroup_eq {g : PointGroup} {l : List PlacedPoint} (h : (g, l) ∈ pointGroups (placed ps)) :
    r.runGroup q (g, l) =
      q.features.mapM (r.slots (r.scope.candidates r.index g r.options.experiment)
        ((pointsOf ps g).map r.sourced)) >>= fun columns =>
      (PointOutcome.ofColumns ((pointsOf ps g).map r.sourced) columns).mapError .eval >>=
        fun outcomes => .ok
          (List.zipWith (fun p o => ⟨p.place, p.point, o⟩) (inOrderOfInstants l) outcomes) := by
  have points : (inOrderOfInstants l).map (fun p => r.sourced p.point) =
      (pointsOf ps g).map r.sourced := by
    rw [← map_point_inOrderOfInstants h, List.map_map]
    rfl
  rw [← points]
  rfl

/-- Where a function decides the outcomes, the columns of a group are those of the function at its
points. -/
theorem columns_of_decides (decides : r.Decides q F ps) (g : PointGroup) :
    q.features.mapM (r.slots (r.scope.candidates r.index g r.options.experiment)
      ((pointsOf ps g).map r.sourced)) =
        .ok (q.features.map fun f =>
          (f, f.aggregates.map fun a => (pointsOf ps g).map (F a))) := by
  refine mapM_eq_ok_map fun f hf => ?_
  rw [slots_eq, mapM_eq_ok_map (decides g f hf), ok_bind]

/-- **A group that is decided** comes to the outcomes of its points, each of them computed from the
values of a function at the point. -/
theorem runGroup_of_decides (decides : r.Decides q F ps)
    (each : ∀ p ∈ ps, r.pointOutcome q p (F · p) = .ok (out p)) {g : PointGroup}
    {l : List PlacedPoint} (h : (g, l) ∈ pointGroups (placed ps)) :
    r.runGroup q (g, l) = .ok ((inOrderOfInstants l).map (PlacedPoint.answered out)) := by
  have outcomes : (pointsOf ps g).mapM (fun p => r.pointOutcome q p (F · p)) =
      .ok ((pointsOf ps g).map out) :=
    mapM_eq_ok_map fun p hp => each p (mem_pointsOf.1 hp).1
  rw [runGroup_eq h, columns_of_decides decides, ok_bind, PointOutcome.ofColumns_map]
  simp only [pointOutcome] at outcomes
  rw [outcomes, ← map_point_inOrderOfInstants h, List.map_map]
  show Except.ok _ = _
  rw [List.zipWith_map_right, List.zipWith_self]
  rfl

/-- **Outcomes of a query that is decided** stand at the places of the points, since each group
gives them and sorting by places puts them back. -/
theorem outcomes_of_decides (decides : r.Decides q F ps)
    (each : ∀ p ∈ ps, r.pointOutcome q p (F · p) = .ok (out p)) :
    r.outcomes q ps = .ok ((placed ps).map (PlacedPoint.answered out)) := by
  have groups : (pointGroups (placed ps)).mapM (r.runGroup q) =
      .ok ((pointGroups (placed ps)).map fun g =>
        (inOrderOfInstants g.2).map (PlacedPoint.answered out)) :=
    mapM_eq_ok_map fun g hg => runGroup_of_decides decides each hg
  rw [outcomes, groups, ok_bind]
  show Except.ok _ = _
  refine congrArg Except.ok ?_
  have perm : ((pointGroups (placed ps)).flatMap fun g => inOrderOfInstants g.2).Perm (placed ps) :=
    (List.Perm.flatMap_left _ fun g _ => List.mergeSort_perm _ _).trans
      (flatMap_pointGroups_perm _)
  have joined : ((pointGroups (placed ps)).map fun g =>
      (inOrderOfInstants g.2).map (PlacedPoint.answered out)).flatten =
        ((pointGroups (placed ps)).flatMap fun g => inOrderOfInstants g.2).map
          (PlacedPoint.answered out) := by
    rw [List.map_flatMap, List.flatMap_def]
  rw [joined]
  conv_rhs => rw [← mergeSort_eq_placed perm]
  symm
  exact List.map_mergeSort fun _ _ _ _ => rfl

/-- **A query that is decided** comes to the table of the outcomes of its points. So whatever is
known of the function is known of the table. -/
theorem run_of_decides (decides : r.Decides q F ps)
    (each : ∀ p ∈ ps, r.pointOutcome q p (F · p) = .ok (out p)) :
    r.run q ps = (r.check q).map fun _ => .tabulate q.columns out ps := by
  rw [run, outcomes_of_decides decides each]
  cases r.check q with
  | error e => rfl
  | ok _ => exact congrArg Except.ok (table_map_answered q out ps)

/-- **A query without aggregates** comes to the table of its formulas at the points. There is
nothing in it to be decided. -/
theorem run_of_bare (bare : ∀ f ∈ q.features, f.aggregates = [])
    (each : ∀ p ∈ ps, PointOutcome.ofSlots (r.sourced p).context (q.features.map (·, [])) =
      .ok (out p)) :
    r.run q ps = (r.check q).map fun _ => .tabulate q.columns out ps := by
  have decides : r.Decides q (fun _ _ => .value .null) ps := by
    intro g f hf a ha
    rw [bare f hf] at ha
    cases ha
  refine run_of_decides decides fun p hp => ?_
  rw [← each p hp, pointOutcome]
  congr 1
  exact List.map_congr_left fun f hf => by rw [bare f hf, List.map_nil]

/-- A group of a query that comes to outcomes does so: the fault of a group would have been that of
the query. -/
theorem exists_runGroup {os : List PlacedOutcome} (h : r.outcomes q ps = .ok os)
    {p : ObservationPoint} (hp : p ∈ ps) :
    ∃ l os', (PointGroup.of p, l) ∈ pointGroups (placed ps) ∧
      r.runGroup q (PointGroup.of p, l) = .ok os' := by
  obtain ⟨groups, hgroups, -⟩ := bind_eq_ok_iff.1 h
  rw [← map_point_placed ps] at hp
  obtain ⟨p', hp', rfl⟩ := List.mem_map.1 hp
  have member := mem_pointGroups_iff.2 ⟨⟨p', hp', rfl⟩, rfl⟩
  obtain ⟨os', -, hos'⟩ := exists_mem_of_forall₂ (mapM_eq_ok_iff.1 hgroups) member
  exact ⟨_, os', member, hos'⟩

/-- The aggregates of a query that comes to outcomes do so in each group, also in one without
points, which has nothing to evaluate. -/
theorem exists_evaluate {os : List PlacedOutcome} (h : r.outcomes q ps = .ok os) (g : PointGroup)
    {f : Feature} (hf : f ∈ q.features) {a : Aggregate} (ha : a ∈ f.aggregates) :
    ∃ outs, (r.windowed g a).evaluate a.strategy ((pointsOf ps g).map r.sourced) = .ok outs := by
  rcases Classical.em (pointsOf ps g = []) with none_there | some_there
  · rw [none_there]
    exact ⟨[], by cases a.strategy <;> rfl⟩
  · obtain ⟨p, hp⟩ := List.exists_mem_of_ne_nil _ some_there
    obtain ⟨here, rfl⟩ := mem_pointsOf.1 hp
    obtain ⟨l, os', member, group⟩ := exists_runGroup h here
    rw [runGroup_eq member] at group
    obtain ⟨columns, hcolumns, -⟩ := bind_eq_ok_iff.1 group
    obtain ⟨c, -, hc⟩ := exists_mem_of_forall₂ (mapM_eq_ok_iff.1 hcolumns) hf
    obtain ⟨slots, hslots, -⟩ := bind_eq_ok_iff.1 hc
    obtain ⟨outs, -, houts⟩ := exists_mem_of_forall₂ (mapM_eq_ok_iff.1 hslots) ha
    exact ⟨outs, houts⟩

/-- A query that is decided and comes to outcomes comes to one at each point. It is the one that the
function gives there. -/
theorem exists_pointOutcome {os : List PlacedOutcome} (h : r.outcomes q ps = .ok os)
    (decides : r.Decides q F ps) {p : ObservationPoint} (hp : p ∈ ps) :
    ∃ o, r.pointOutcome q p (F · p) = .ok o := by
  obtain ⟨l, os', member, group⟩ := exists_runGroup h hp
  rw [runGroup_eq member, columns_of_decides decides, ok_bind, PointOutcome.ofColumns_map] at group
  obtain ⟨outcomes, houtcomes, -⟩ := bind_eq_ok_iff.1 group
  have each := mapM_eq_ok_iff.1 (mapError_eq_ok_iff.1 houtcomes)
  obtain ⟨o, -, ho⟩ := exists_mem_of_forall₂ each (mem_pointsOf.2 ⟨hp, rfl⟩)
  exact ⟨o, ho⟩

/-- A query that is decided and comes to outcomes has an outcome for each point, as a function of
the point. -/
theorem exists_outcomes {os : List PlacedOutcome} (h : r.outcomes q ps = .ok os)
    (decides : r.Decides q F ps) :
    ∃ out : ObservationPoint → PointOutcome,
      ∀ p ∈ ps, r.pointOutcome q p (F · p) = .ok (out p) := by
  have each : ∀ p, ∃ o, p ∈ ps → r.pointOutcome q p (F · p) = .ok o := by
    intro p
    by_cases hp : p ∈ ps
    · exact (exists_pointOutcome h decides hp).imp fun o ho _ => ho
    · exact ⟨.row [], fun yes => absurd yes hp⟩
  choose out hout using each
  exact ⟨out, hout⟩

/-- A query is decided at several lists of points by one function, if each of its aggregates is so
at the points of each group. -/
theorem exists_decides {S : List ObservationPoint → Prop}
    (each : ∀ (g : PointGroup) (a : Aggregate), (∃ f ∈ q.features, a ∈ f.aggregates) →
      ∃ F : ObservationPoint → Outcome, ∀ ps, S ps →
        (r.windowed g a).evaluate a.strategy ((pointsOf ps g).map r.sourced) =
          .ok ((pointsOf ps g).map F)) :
    ∃ F, ∀ ps, S ps → r.Decides q F ps := by
  have choice : ∀ (g : PointGroup) (a : Aggregate), ∃ F : ObservationPoint → Outcome,
      (∃ f ∈ q.features, a ∈ f.aggregates) → ∀ ps, S ps →
        (r.windowed g a).evaluate a.strategy ((pointsOf ps g).map r.sourced) =
          .ok ((pointsOf ps g).map F) := by
    intro g a
    by_cases used : ∃ f ∈ q.features, a ∈ f.aggregates
    · exact (each g a used).imp fun F hF _ => hF
    · exact ⟨fun _ => .value .null, fun yes => absurd yes used⟩
  choose F hF using choice
  refine ⟨fun a p => F (.of p) a p, fun ps hps g f hf a ha => ?_⟩
  rw [hF g a ⟨f, hf, ha⟩ ps hps]
  refine congrArg Except.ok (List.map_congr_left fun p hp => ?_)
  obtain ⟨-, rfl⟩ := mem_pointsOf.1 hp
  rfl

/-- **From one list of points to others.** If each aggregate has, at the points of each group, the
outcomes of one function for several lists of points, then what a query comes to on one of them it
comes to on those that have no further points. -/
theorem exists_tabulate {S : List ObservationPoint → Prop} (here : S ps) {t : FeatureTable}
    (h : r.run q ps = .ok t)
    (each : ∀ (g : PointGroup) (a : Aggregate) (outs : List Outcome),
      (∃ f ∈ q.features, a ∈ f.aggregates) →
      (r.windowed g a).evaluate a.strategy ((pointsOf ps g).map r.sourced) = .ok outs →
        ∃ F : ObservationPoint → Outcome, ∀ ps', S ps' →
          (r.windowed g a).evaluate a.strategy ((pointsOf ps' g).map r.sourced) =
            .ok ((pointsOf ps' g).map F)) :
    ∃ F out, r.Decides q F ps ∧ t = .tabulate q.columns out ps ∧
      (∀ p ∈ ps, r.pointOutcome q p (F · p) = .ok (out p)) ∧
      ∀ ps', S ps' → ps' ⊆ ps → r.run q ps' = .ok (.tabulate q.columns out ps') := by
  obtain ⟨⟨⟩, checked, found⟩ := bind_eq_ok_iff.1 h
  obtain ⟨os, hos, -⟩ := bind_eq_ok_iff.1 found
  have hos := mapError_eq_ok_iff.1 hos
  obtain ⟨F, decides⟩ : ∃ F, ∀ ps', S ps' → r.Decides q F ps' :=
    exists_decides fun g a ⟨f, hf, ha⟩ =>
      let ⟨outs, houts⟩ := exists_evaluate hos g hf ha
      each g a outs ⟨f, hf, ha⟩ houts
  obtain ⟨out, hout⟩ := exists_outcomes hos (decides ps here)
  have tabulated (ps' : List ObservationPoint) (hps' : S ps') (sub : ps' ⊆ ps) :
      r.run q ps' = .ok (.tabulate q.columns out ps') := by
    rw [run_of_decides (decides ps' hps') fun p hp => hout p (sub hp), checked]
    rfl
  have whole := h.symm.trans (tabulated ps here (List.Subset.refl ps))
  exact ⟨F, out, decides ps here, Except.ok.inj whole, hout, tabulated⟩

end QueryRun
end Hindsight
