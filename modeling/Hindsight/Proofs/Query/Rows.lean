import Hindsight.Proofs.Query.Drops

/-!
# Where the values of a row come from

The outcome at a point is put together from what the columns hold at the place of the point
(`PointOutcome.ofSlots_of_ofColumns`), and the row of a point has for each feature the value of its
formula in the values of its aggregates there (`PointOutcome.forall₂_of_ofSlots`). So a row of a
successful query comes from one place in the evaluation of the group of its point
(`QueryRun.exists_columns_of_row`). It has the value of every feature
(`QueryRun.forall₂_values_of_row`), and where the formula of a feature is a single slot, the row
shows what the aggregate in that slot was found to be (`QueryRun.exists_value_of_slot`).
-/

namespace Hindsight

/-- What a list gives, if each of its items gives something, corresponds to the list. -/
theorem forall₂_filterMap {α β : Type} {f : α → Option β} {l : List α}
    (each : ∀ a ∈ l, ∃ b, f a = some b) :
    List.Forall₂ (fun a b => f a = some b) l (l.filterMap f) := by
  induction l with
  | nil => exact .nil
  | cons a l ih =>
    obtain ⟨⟨b, hb⟩, rest⟩ := List.forall_mem_cons.1 each
    rw [List.filterMap_cons_some hb]
    exact .cons hb (ih rest)

/-- The values of slots that all have one: without a failure among them the outcomes are values, one
for each slot. -/
theorem Outcome.eq_map_of_values {os : List Outcome} {vs : List Value}
    (h : Outcome.values os = .ok vs) : os = vs.map .value := by
  induction os generalizing vs with
  | nil =>
    cases h
    rfl
  | cons o os ih =>
    cases o with
    | value v =>
      obtain ⟨rest, hrest, rfl⟩ := map_eq_ok_iff.1 h
      rw [ih hrest, List.map_cons]
    | filterFailed reason => cases h

namespace PointOutcome

/-- What the columns hold at a place. -/
def columnsAt (n : Nat) (columns : List (Feature × List (List Outcome))) :
    List (Feature × List Outcome) :=
  columns.map fun c => (c.1, c.2.filterMap (·[n]?))

/-- **The outcome at a place** is that of what the columns hold there, by induction on the place. -/
theorem ofSlots_of_ofColumns {ps : List SourcedPoint}
    {columns : List (Feature × List (List Outcome))} {os : List PointOutcome}
    (h : ofColumns ps columns = .ok os) {n : Nat} {p : SourcedPoint} (hp : ps[n]? = some p)
    {o : PointOutcome} (ho : os[n]? = some o) :
    ofSlots p.context (columnsAt n columns) = .ok o := by
  induction ps generalizing columns os n with
  | nil => simp at hp
  | cons first ps ih =>
    obtain ⟨here, hhere, h⟩ := bind_eq_ok_iff.1 h
    obtain ⟨rest, hrest, h⟩ := bind_eq_ok_iff.1 h
    cases h
    cases n with
    | zero =>
      cases hp
      cases ho
      simpa only [columnsAt, List.head?_eq_getElem?] using hhere
    | succ n =>
      have later := ih hrest hp ho
      simpa only [columnsAt, List.map_map, Function.comp_def, List.filterMap_map,
        List.getElem?_tail] using later

/-- **A row has the value of each feature** in the values of its slots. No slot has failed, for then
there would be no row. -/
theorem forall₂_of_ofSlots {ctx : EvalContext} {slots : List (Feature × List Outcome)}
    {values : List Value} (h : ofSlots ctx slots = .ok (.row values)) :
    List.Forall₂ (fun c v => ∃ vs, c.2 = vs.map Outcome.value ∧
      c.1.formula.evaluate (ctx.withSlots vs) = .ok v) slots values := by
  induction slots generalizing values with
  | nil =>
    cases h
    exact .nil
  | cons c slots ih =>
    rw [ofSlots] at h
    split at h
    · cases h
    · next vs found =>
      obtain ⟨v, hv, h⟩ := bind_eq_ok_iff.1 h
      obtain ⟨rest, hrest, h⟩ := bind_eq_ok_iff.1 h
      cases rest with
      | row values' =>
        cases h
        exact .cons ⟨vs, Outcome.eq_map_of_values found, hv⟩ (ih hrest)
      | dropped feature reason => cases h

end PointOutcome

namespace QueryRun

variable {r : QueryRun} {q : FeatureSet} {ps : List ObservationPoint} {t : FeatureTable}
  {row : FeatureRow}

/-- A row of a table is the outcome of its point, at some place among the points. -/
theorem exists_outcome_of_row (h : r.run q ps = .ok t) (hrow : row ∈ t.rows) :
    ∃ os, r.outcomes q ps = .ok os ∧ ∃ place, ⟨place, row.point, .row row.values⟩ ∈ os := by
  obtain ⟨⟨⟩, -, h⟩ := bind_eq_ok_iff.1 h
  obtain ⟨os, hos, h⟩ := bind_eq_ok_iff.1 h
  cases h
  refine ⟨os, mapError_eq_ok_iff.1 hos, ?_⟩
  obtain ⟨⟨place, point, outcome⟩, ho, made⟩ := List.mem_filterMap.1 hrow
  cases outcome with
  | row values =>
    cases made
    exact ⟨place, ho⟩
  | dropped feature reason => cases made

/-- **A row comes from a place among the points of its group:** the columns of the group hold there
what the row was put together from. -/
theorem exists_columns_of_row (h : r.run q ps = .ok t) (hrow : row ∈ t.rows) :
    ∃ n columns, (pointsOf ps (.of row.point))[n]? = some row.point ∧
      q.features.mapM (r.slots (r.scope.candidates r.index (.of row.point) r.options.experiment)
        ((pointsOf ps (.of row.point)).map r.sourced)) = .ok columns ∧
      PointOutcome.ofSlots (r.sourced row.point).context (PointOutcome.columnsAt n columns) =
        .ok (.row row.values) := by
  obtain ⟨os, hos, place, ho⟩ := exists_outcome_of_row h hrow
  obtain ⟨groups, hgroups, made⟩ := bind_eq_ok_iff.1 hos
  cases made
  obtain ⟨os', hos', ho⟩ := List.mem_flatten.1 (List.mem_mergeSort.1 ho)
  obtain ⟨⟨g, l⟩, member, group⟩ :=
    exists_mem_of_forall₂ (mapM_eq_ok_iff.1 hgroups).flip hos'
  rw [runGroup_eq member] at group
  obtain ⟨columns, hcolumns, group⟩ := bind_eq_ok_iff.1 group
  obtain ⟨outcomes, houtcomes, group⟩ := bind_eq_ok_iff.1 group
  cases group
  obtain ⟨n, hn⟩ := List.mem_iff_getElem?.1 ho
  obtain ⟨p, o, hp, ho, made⟩ := List.getElem?_zipWith_eq_some.1 hn
  obtain ⟨rfl, point, rfl⟩ := (PlacedOutcome.mk.injEq ..).mp made
  have point_at : (pointsOf ps g)[n]? = some row.point := by
    rw [← map_point_inOrderOfInstants member, List.getElem?_map, hp, ← point]
    rfl
  obtain ⟨-, rfl⟩ := mem_pointsOf.1 (List.mem_of_getElem? point_at)
  have sourced_at : ((pointsOf ps (.of row.point)).map r.sourced)[n]? =
      some (r.sourced row.point) := by
    rw [List.getElem?_map, point_at]
    rfl
  exact ⟨n, columns, point_at, hcolumns,
    PointOutcome.ofSlots_of_ofColumns (mapError_eq_ok_iff.1 houtcomes) sourced_at ho⟩

/-- **The values of a row** are those of the formulas of the features at its point, each in some
values of the aggregates of its feature. -/
theorem forall₂_values_of_row (h : r.run q ps = .ok t) (hrow : row ∈ t.rows) :
    List.Forall₂ (fun f v => ∃ vs,
      f.formula.evaluate ((r.sourced row.point).context.withSlots vs) = .ok v)
      q.features row.values := by
  obtain ⟨n, columns, -, hcolumns, made⟩ := exists_columns_of_row h hrow
  have named : List.Forall₂ (fun f (c : Feature × List (List Outcome)) => f = c.1)
      q.features columns := by
    refine (mapM_eq_ok_iff.1 hcolumns).imp fun f c found => ?_
    obtain ⟨slots, -, made⟩ := bind_eq_ok_iff.1 found
    cases made
    rfl
  have features : q.features = (PointOutcome.columnsAt n columns).map Prod.fst := by
    rw [← List.forall₂_eq_eq_eq, PointOutcome.columnsAt, List.map_map,
      List.forall₂_map_right_iff]
    exact named
  rw [features, List.forall₂_map_left_iff]
  exact (PointOutcome.forall₂_of_ofSlots made).imp fun c v ⟨vs, _, shown⟩ => ⟨vs, shown⟩

/-- The columns of a table are those of the query, in their order, whatever the points come to. -/
theorem columns_of_run (h : r.run q ps = .ok t) : t.columns = q.columns := by
  obtain ⟨⟨⟩, -, h⟩ := bind_eq_ok_iff.1 h
  obtain ⟨os, -, h⟩ := bind_eq_ok_iff.1 h
  cases h
  rfl

/-- **A feature that is one slot** shows what the aggregate in the slot was found to be, among the
points of the group. -/
theorem exists_value_of_slot (h : r.run q ps = .ok t) (hrow : row ∈ t.rows) {i n : Nat}
    {f : Feature} (hf : q.features[i]? = some f) (formula : f.formula = .slot n) {a : Aggregate}
    (ha : f.aggregates[n]? = some a) :
    ∃ (v : Value) (outs : List Outcome) (place : Nat), row.values[i]? = some v ∧
      (r.windowed (.of row.point) a).evaluate a.strategy
        ((pointsOf ps (.of row.point)).map r.sourced) = .ok outs ∧
      (pointsOf ps (.of row.point))[place]? = some row.point ∧
      outs[place]? = some (.value v) := by
  obtain ⟨place, columns, point_at, hcolumns, made⟩ := exists_columns_of_row h hrow
  obtain ⟨c, hc, found⟩ := exists_getElem?_of_forall₂ (mapM_eq_ok_iff.1 hcolumns) hf
  obtain ⟨slots, hslots, found⟩ := bind_eq_ok_iff.1 found
  cases found
  obtain ⟨outs, houts, evaluated⟩ := exists_getElem?_of_forall₂ (mapM_eq_ok_iff.1 hslots) ha
  have column : (PointOutcome.columnsAt place columns)[i]? =
      some (f, slots.filterMap (·[place]?)) := by
    rw [PointOutcome.columnsAt, List.getElem?_map, hc]
    rfl
  obtain ⟨v, hv, vs, values, shown⟩ :=
    exists_getElem?_of_forall₂ (PointOutcome.forall₂_of_ofSlots made) column
  have complete : ∀ outs ∈ slots, ∃ o, outs[place]? = some o := by
    intro outs houts
    obtain ⟨b, -, evaluated⟩ := exists_mem_of_forall₂ (mapM_eq_ok_iff.1 hslots).flip houts
    have length := (WindowedAggregate.forall₂_failure?_evaluate
      (w := r.windowed (.of row.point) b) (oneGroup_pointsOf r ps _) evaluated).length_eq
    rw [List.length_map] at length
    have inside := (List.getElem?_eq_some_iff.1 point_at).1
    exact ⟨_, List.getElem?_eq_getElem (length ▸ inside)⟩
  obtain ⟨o, ho, here⟩ := exists_getElem?_of_forall₂ (forall₂_filterMap complete) houts
  dsimp only at values shown
  rw [values, List.getElem?_map, Option.map_eq_some_iff] at ho
  obtain ⟨v', hv', rfl⟩ := ho
  rw [formula, Formula.evaluate, EvalContext.withSlots] at shown
  simp only [hv'] at shown
  cases shown
  exact ⟨_, outs, place, hv, evaluated, point_at, here⟩

end QueryRun
end Hindsight
