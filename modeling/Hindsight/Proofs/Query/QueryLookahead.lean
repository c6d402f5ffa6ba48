import Hindsight.Proofs.Query.Accounts
import Hindsight.Proofs.Query.Candidates
import Hindsight.Proofs.Query.Lookahead
import Hindsight.Proofs.Query.Visits

/-!
# Queries do not look ahead

A query whose aggregates look back comes to the same at a point whether or not the index has events
that are later than the point. Columns of outcomes that agree at the first points give the same
outcomes there (`PointOutcome.ofColumns_take`), so a group comes to the same at its points up to an
instant (`QueryRun.sameUpTo_runGroup`), and so does the query.
-/

namespace Hindsight

open Time (Instant)

/-- Columns of one feature that agree at the first points. -/
structure AgreeAt (n : Nat) (c c' : Feature × List (List Outcome)) : Prop where
  feature : c.1 = c'.1
  slots : List.Forall₂ (fun s s' => s.take n = s'.take n) c.2 c'.2

namespace AgreeAt

variable {n : Nat} {c c' : Feature × List (List Outcome)}

/-- Columns that agree at the first points agree at the first one. -/
theorem head (h : AgreeAt (n + 1) c c') :
    (c.1, c.2.filterMap List.head?) = (c'.1, c'.2.filterMap List.head?) := by
  obtain ⟨f, slots⟩ := c
  obtain ⟨f', slots'⟩ := c'
  obtain ⟨rfl, agree⟩ := h
  refine congrArg (Prod.mk f) ?_
  dsimp only at agree ⊢
  induction agree with
  | nil => rfl
  | @cons s s' _ _ same _ ih =>
    have first : s.head? = s'.head? := by
      cases s <;> cases s' <;> simp_all
    rw [List.filterMap_cons, List.filterMap_cons, first, ih]

/-- Columns that agree at the first points agree behind the first one. -/
theorem tail (h : AgreeAt (n + 1) c c') :
    AgreeAt n (c.1, c.2.map List.tail) (c'.1, c'.2.map List.tail) := by
  refine ⟨h.feature, ?_⟩
  rw [List.forall₂_map_left_iff, List.forall₂_map_right_iff]
  refine h.slots.imp fun s s' same => ?_
  cases s <;> cases s' <;> simp_all

end AgreeAt

/-- **Columns that agree at the first points** give the same outcomes there, by induction on the
number of points: the outcome of a point is computed from what the columns hold at it. -/
theorem PointOutcome.ofColumns_take {ps : List SourcedPoint} {n : Nat}
    {columns columns' : List (Feature × List (List Outcome))} {os os' : List PointOutcome}
    (agree : List.Forall₂ (AgreeAt n) columns columns') (h : ofColumns ps columns = .ok os)
    (h' : ofColumns ps columns' = .ok os') : os.take n = os'.take n := by
  induction ps generalizing n columns columns' os os' with
  | nil =>
    cases h
    cases h'
    rfl
  | cons p ps ih =>
    cases n with
    | zero => rfl
    | succ n =>
      obtain ⟨o, ho, h⟩ := bind_eq_ok_iff.1 h
      obtain ⟨rest, hrest, h⟩ := bind_eq_ok_iff.1 h
      obtain ⟨o', ho', h'⟩ := bind_eq_ok_iff.1 h'
      obtain ⟨rest', hrest', h'⟩ := bind_eq_ok_iff.1 h'
      cases h
      cases h'
      have here : columns.map (fun c => (c.1, c.2.filterMap List.head?)) =
          columns'.map fun c => (c.1, c.2.filterMap List.head?) := by
        rw [← List.forall₂_eq_eq_eq, List.forall₂_map_left_iff, List.forall₂_map_right_iff]
        exact agree.imp fun c c' hc => hc.head
      have same : o = o' := by
        rw [here, ho', Except.ok.injEq] at ho
        exact ho.symm
      have behind : List.Forall₂ (AgreeAt n) (columns.map fun c => (c.1, c.2.map List.tail))
          (columns'.map fun c => (c.1, c.2.map List.tail)) := by
        rw [List.forall₂_map_left_iff, List.forall₂_map_right_iff]
        exact agree.imp fun c c' hc => hc.tail
      rw [List.take_succ_cons, List.take_succ_cons, same, ih behind hrest hrest']

/-- A set of features whose aggregates all look back. -/
def FeatureSet.LooksBack (q : FeatureSet) : Prop :=
  ∀ f ∈ q.features, ∀ a ∈ f.aggregates, a.window.LooksBack

instance (q : FeatureSet) : Decidable q.LooksBack :=
  inferInstanceAs (Decidable (∀ f ∈ q.features, ∀ a ∈ f.aggregates, a.window.LooksBack))

/-- Outcomes of one placed point, the same if the point is not later than an instant. -/
structure PlacedOutcome.SameUpTo (T : Instant) (o o' : PlacedOutcome) : Prop where
  placed : o.placed = o'.placed
  outcome : o.point.instant ≤ T → o = o'

/-- Sorted points stand in the order of their instants. -/
theorem pairwise_inOrderOfInstants (ps : List PlacedPoint) :
    (inOrderOfInstants ps).Pairwise fun p q => p.point.instant ≤ q.point.instant :=
  pairwise_mergeSort_key (fun p : PlacedPoint => p.point.instant) ps

/-- Outcomes at points in the order of their instants are the same up to an instant if they agree at
the first points, as long as these are not later. -/
theorem sameUpTo_zipWith {T : Instant} {ps : List PlacedPoint}
    (sorted : ps.Pairwise fun p q => p.point.instant ≤ q.point.instant)
    {os os' : List PointOutcome} (length : os.length = ps.length) (length' : os'.length = ps.length)
    (agree : ∀ n, (∀ p ∈ ps.take n, p.point.instant ≤ T) → os.take n = os'.take n) :
    List.Forall₂ (PlacedOutcome.SameUpTo T)
      (List.zipWith (fun p o => ⟨p.place, p.point, o⟩) ps os)
      (List.zipWith (fun p o => ⟨p.place, p.point, o⟩) ps os') := by
  induction ps generalizing os os' with
  | nil => exact .nil
  | cons p ps ih =>
    obtain _ | ⟨o, os⟩ := os
    · cases length
    obtain _ | ⟨o', os'⟩ := os'
    · cases length'
    obtain ⟨first, rest⟩ := List.pairwise_cons.1 sorted
    refine .cons ⟨rfl, fun early => ?_⟩ (ih rest (Nat.succ.inj length) (Nat.succ.inj length') ?_)
    · have here := agree 1 (by simpa using early)
      rw [List.take_succ_cons, List.take_succ_cons] at here
      rw [(List.cons.inj here).1]
    · intro n early
      cases ps with
      | nil =>
        rw [List.length_eq_zero_iff.1 (Nat.succ.inj length),
          List.length_eq_zero_iff.1 (Nat.succ.inj length')]
      | cons p' ps =>
        cases n with
        | zero => rfl
        | succ n =>
          -- The points behind the first are later than it, so it is early if one of them is.
          have early_p := (first p' List.mem_cons_self).trans
            (early p' (by rw [List.take_succ_cons]; exact List.mem_cons_self))
          have behind := agree (n + 1 + 1) (by
            rw [List.take_succ_cons]
            exact List.forall_mem_cons.2 ⟨early_p, early⟩)
          rw [List.take_succ_cons, List.take_succ_cons] at behind
          exact (List.cons.inj behind).2

namespace QueryRun

variable {r r' : QueryRun} {q : FeatureSet} {T : Instant}

/-- The slots of a feature agree at the first points, if these are not later than the instant up to
which the candidates are the same. -/
theorem agreeAt_slots (options : r.options = r'.options) {f : Feature}
    (looksBack : ∀ a ∈ f.aggregates, a.window.LooksBack) {t t' : Timeline}
    (agree : t.upTo T = t'.upTo T) {ps : List SourcedPoint}
    {c c' : Feature × List (List Outcome)} (h : r.slots t ps f = .ok c)
    (h' : r'.slots t' ps f = .ok c') {n : Nat}
    (early : ∀ p ∈ ps.take n, p.point.instant ≤ T) : AgreeAt n c c' := by
  obtain ⟨slots, hslots, h⟩ := bind_eq_ok_iff.1 h
  obtain ⟨slots', hslots', h'⟩ := bind_eq_ok_iff.1 h'
  cases h
  cases h'
  refine ⟨rfl, forall₂_of_common (fun a ha outs outs' houts houts' => ?_)
    (mapM_eq_ok_iff.1 hslots) (mapM_eq_ok_iff.1 hslots')⟩
  rw [options] at houts
  exact WindowedAggregate.evaluate_take_eq (looksBack a ha) agree houts houts' early

/-- **A group does not look ahead.** Over candidates that agree up to an instant, the columns agree
at the points that are not later, and these come first. -/
theorem sameUpTo_runGroup (options : r.options = r'.options) (looksBack : q.LooksBack)
    {g : PointGroup × List PlacedPoint}
    (agree : (r.scope.candidates r.index g.1 r.options.experiment).upTo T =
      (r'.scope.candidates r'.index g.1 r'.options.experiment).upTo T)
    (resolved : ∀ p ∈ g.2, r.sourced p.point = r'.sourced p.point) {os os' : List PlacedOutcome}
    (h : r.runGroup q g = .ok os) (h' : r'.runGroup q g = .ok os') :
    List.Forall₂ (PlacedOutcome.SameUpTo T) os os' := by
  obtain ⟨columns, hcolumns, h⟩ := bind_eq_ok_iff.1 h
  obtain ⟨outcomes, houtcomes, h⟩ := bind_eq_ok_iff.1 h
  obtain ⟨columns', hcolumns', h'⟩ := bind_eq_ok_iff.1 h'
  obtain ⟨outcomes', houtcomes', h'⟩ := bind_eq_ok_iff.1 h'
  cases h
  cases h'
  have points : (inOrderOfInstants g.2).map (fun p => r'.sourced p.point) =
      (inOrderOfInstants g.2).map fun p => r.sourced p.point :=
    List.map_congr_left fun p hp => (resolved p (List.mem_mergeSort.1 hp)).symm
  rw [inOrderOfInstants] at points
  rw [points] at hcolumns' houtcomes'
  have houtcomes := mapError_eq_ok_iff.1 houtcomes
  have houtcomes' := mapError_eq_ok_iff.1 houtcomes'
  refine sameUpTo_zipWith (pairwise_inOrderOfInstants g.2) ?_ ?_ fun n early => ?_
  · rw [PointOutcome.length_ofColumns houtcomes, List.length_map, inOrderOfInstants]
  · rw [PointOutcome.length_ofColumns houtcomes', List.length_map, inOrderOfInstants]
  refine PointOutcome.ofColumns_take (forall₂_of_common (fun f hf c c' hc hc' => ?_)
    (mapM_eq_ok_iff.1 hcolumns) (mapM_eq_ok_iff.1 hcolumns')) houtcomes houtcomes'
  refine agreeAt_slots options (looksBack f hf) agree hc hc' fun s hs => ?_
  rw [← List.map_take] at hs
  obtain ⟨p, hp, rfl⟩ := List.mem_map.1 hs
  exact early p hp

/-- Sorting by places keeps outcomes of the same points side by side, since the places are the same
on both sides. -/
theorem sameUpTo_mergeSort {os os' : List PlacedOutcome}
    (h : List.Forall₂ (PlacedOutcome.SameUpTo T) os os') :
    List.Forall₂ (PlacedOutcome.SameUpTo T)
      (os.mergeSort fun o p => decide (o.place ≤ p.place))
      (os'.mergeSort fun o p => decide (o.place ≤ p.place)) := by
  obtain ⟨length, each⟩ := List.forall₂_iff_zip.1 h
  let pairs := os.zip os'
  let sorted := pairs.mergeSort fun a b => decide (a.1.place ≤ b.1.place)
  have place (a : PlacedOutcome × PlacedOutcome) (ha : a ∈ pairs) : a.1.place = a.2.place :=
    congrArg PlacedPoint.place (each ha).placed
  have first : sorted.map Prod.fst = os.mergeSort fun o p => decide (o.place ≤ p.place) := by
    rw [← List.map_fst_zip (Nat.le_of_eq length)]
    exact List.map_mergeSort fun _ _ _ _ => rfl
  have second : sorted.map Prod.snd = os'.mergeSort fun o p => decide (o.place ≤ p.place) := by
    rw [← List.map_snd_zip (Nat.le_of_eq length.symm)]
    refine List.map_mergeSort fun a ha b hb => ?_
    rw [place a ha, place b hb]
  rw [← first, ← second, List.forall₂_map_left_iff, List.forall₂_map_right_iff, List.forall₂_same]
  exact fun a ha => each (List.mem_mergeSort.1 ha)

/-- **The outcomes of a query do not look ahead.** The groups are the same over both indexes, and
none of them looks ahead. -/
theorem sameUpTo_outcomes {x y : EventIndex} (reachable : x.Reachable)
    (grows : EventIndex.GrowsAfter T x y) {scope : EventScope} {options : QueryOptions}
    (looksBack : q.LooksBack) {ps : List ObservationPoint}
    (resolved : ∀ p ∈ ps, p.eventId.bind x.find? = p.eventId.bind y.find?)
    {os os' : List PlacedOutcome} (h : (mk x scope options).outcomes q ps = .ok os)
    (h' : (mk y scope options).outcomes q ps = .ok os') :
    List.Forall₂ (PlacedOutcome.SameUpTo T) os os' := by
  obtain ⟨groups, hgroups, h⟩ := bind_eq_ok_iff.1 h
  obtain ⟨groups', hgroups', h'⟩ := bind_eq_ok_iff.1 h'
  cases h
  cases h'
  refine sameUpTo_mergeSort (List.rel_flatten (forall₂_of_common (fun g hg os os' hos hos' => ?_)
    (mapM_eq_ok_iff.1 hgroups) (mapM_eq_ok_iff.1 hgroups')))
  have options_eq : (mk x scope options).options = (mk y scope options).options := rfl
  refine sameUpTo_runGroup options_eq looksBack ?_ (fun p hp => ?_) hos hos'
  · exact (EventScope.upTo_candidates grows reachable.consistent
      (grows.reachable reachable).consistent options.experiment).symm
  · have member : p ∈ placed ps :=
      (flatMap_pointGroups_perm _).mem_iff.1 (List.mem_flatMap.2 ⟨g, hg, hp⟩)
    have given := List.mem_of_getElem? (mem_placed_iff.1 member)
    exact congrArg (SourcedPoint.mk p.point) (resolved p.point given)

end QueryRun

namespace FeatureTable

/-- A table without the points that are later than an instant. -/
def upTo (T : Instant) (t : FeatureTable) : FeatureTable where
  columns := t.columns
  rows := t.rows.filter fun r => decide (r.point.instant ≤ T)
  dropped := t.dropped.filter fun d => decide (d.point.instant ≤ T)

/-- What is read off outcomes that are the same up to an instant is the same up to it. Rows and
drops are read off in this way. -/
theorem filter_filterMap_eq {α : Type} {T : Instant} {read : PlacedOutcome → Option α}
    {point : α → ObservationPoint} (points : ∀ o a, read o = some a → point a = o.point)
    {os os' : List PlacedOutcome} (h : List.Forall₂ (PlacedOutcome.SameUpTo T) os os') :
    (os.filterMap read).filter (fun a => decide ((point a).instant ≤ T)) =
      (os'.filterMap read).filter fun a => decide ((point a).instant ≤ T) := by
  induction h with
  | nil => rfl
  | @cons o o' os os' same _ ih =>
    by_cases early : o.point.instant ≤ T
    · rw [← same.outcome early, List.filterMap_cons, List.filterMap_cons]
      split
      · exact ih
      · rw [List.filter_cons, List.filter_cons, ih]
    · have late (o'' : PlacedOutcome) (at_point : o''.point = o.point) (os : List PlacedOutcome) :
          ((o'' :: os).filterMap read).filter (fun a => decide ((point a).instant ≤ T)) =
            (os.filterMap read).filter fun a => decide ((point a).instant ≤ T) := by
        rw [List.filterMap_cons]
        split
        · rfl
        · next a ha =>
          rw [List.filter_cons, points o'' a ha, at_point, if_neg (by simpa using early)]
      rw [late o rfl, late o' (congrArg PlacedPoint.point same.placed).symm, ih]

/-- **Tables of outcomes that are the same up to an instant** are the same up to it, in their rows
as well as in their drops. -/
theorem upTo_table {T : Instant} (q : FeatureSet) {os os' : List PlacedOutcome}
    (h : List.Forall₂ (PlacedOutcome.SameUpTo T) os os') :
    (QueryRun.table q os).upTo T = (QueryRun.table q os').upTo T := by
  rw [upTo, upTo, mk.injEq]
  refine ⟨rfl, ?_, ?_⟩
  · refine filter_filterMap_eq (fun o a ha => ?_) h
    split at ha <;> cases ha
    rfl
  · refine filter_filterMap_eq (fun o a ha => ?_) h
    split at ha <;> cases ha
    rfl

end FeatureTable

namespace QueryRun

/-- **A query that looks back does not look ahead.** If an index grows by events that are later than
an instant, the table is the same up to the instant, and each point that is not later has the same
outcome, wherever it stands in the list of points. The fronts of all timelines are the same, and no
window of such a point reaches past them. -/
theorem run_upTo_eq {T : Instant} {x y : EventIndex} (reachable : x.Reachable)
    (grows : EventIndex.GrowsAfter T x y) {scope : EventScope} {options : QueryOptions}
    {q : FeatureSet} (looksBack : q.LooksBack) {ps : List ObservationPoint}
    (resolved : ∀ p ∈ ps, p.eventId.bind x.find? = p.eventId.bind y.find?)
    {t t' : FeatureTable} (h : (mk x scope options).run q ps = .ok t)
    (h' : (mk y scope options).run q ps = .ok t') :
    t.upTo T = t'.upTo T ∧
      ∃ os os', (mk x scope options).outcomes q ps = .ok os ∧
        (mk y scope options).outcomes q ps = .ok os' ∧ t = table q os ∧ t' = table q os' ∧
        ∀ (i : Nat) (p : ObservationPoint), ps[i]? = some p → p.instant ≤ T →
          ∃ o, o.place = i ∧ o.point = p ∧ os[i]? = some o ∧ os'[i]? = some o := by
  obtain ⟨-, -, h⟩ := bind_eq_ok_iff.1 h
  obtain ⟨os, hos, h⟩ := bind_eq_ok_iff.1 h
  obtain ⟨-, -, h'⟩ := bind_eq_ok_iff.1 h'
  obtain ⟨os', hos', h'⟩ := bind_eq_ok_iff.1 h'
  cases h
  cases h'
  have hos := mapError_eq_ok_iff.1 hos
  have hos' := mapError_eq_ok_iff.1 hos'
  have same := sameUpTo_outcomes reachable grows looksBack resolved hos hos'
  refine ⟨FeatureTable.upTo_table q same, os, os', hos, hos', rfl, rfl, fun i p hp early => ?_⟩
  have accounted : (os.map PlacedOutcome.placed)[i]? = some ⟨i, p⟩ := by
    rw [map_placed_outcomes hos, placed, List.getElem?_map, List.getElem?_zipIdx, hp]
    simp
  rw [List.getElem?_map, Option.map_eq_some_iff] at accounted
  obtain ⟨o, ho, at_place⟩ := accounted
  obtain ⟨o', ho', same⟩ := exists_getElem?_of_forall₂ same ho
  have point : o.point = p := congrArg PlacedPoint.point at_place
  have equal := same.outcome (point ▸ early)
  exact ⟨o, congrArg PlacedPoint.place at_place, point, ho, equal ▸ ho'⟩

/-- The sum over the past, before and after a visit comes in that is later than the first point but
not than the second. -/
theorem upTo_run_of_later_visit :
    let x := visitsIndex [.int 3, .int 4]
    let y := visitsIndex [.int 3, .int 4, .int 5]
    let T := midnightOf 1
    let ps := [(patientOn 1).point, (patientOn 3).point]
    let t (sum : Int) : FeatureTable :=
      ⟨["sum"], [⟨(patientOn 1).point, [.int 3]⟩, ⟨(patientOn 3).point, [.int sum]⟩], []⟩
    (x.Reachable ∧ EventIndex.GrowsAfter T x y ∧ sumOfPast.LooksBack ∧
      (∀ p ∈ ps, p.eventId.bind x.find? = p.eventId.bind y.find?) ∧
      (mk x .allEvents {}).run sumOfPast ps = .ok (t 7) ∧
      (mk y .allEvents {}).run sumOfPast ps = .ok (t 12)) ∧ (t 7).upTo T = (t 12).upTo T := by
  intro x y T ps t
  have reachable : x.Reachable := (EventIndex.Reachable.empty true).insertMany _
  have later : ∀ e ∈ ((visits [.int 3, .int 4, .int 5]).drop 2).map StoredEvent.event,
      T < e.time := by decide
  have grows : EventIndex.GrowsAfter T x y := EventIndex.GrowsAfter.refl.insertMany later
  have looksBack : sumOfPast.LooksBack := by decide
  have resolved : ∀ p ∈ ps, p.eventId.bind x.find? = p.eventId.bind y.find? := by
    have unsourced : ∀ p ∈ ps, p.eventId = none := by decide
    intro p hp
    rw [unsourced p hp]
    rfl
  have nonempty : ps ≠ [] := List.cons_ne_nil _ _
  have one : ∀ p ∈ ps, PointGroup.of p = PointGroup.of (patientOn 1).point := by decide
  have inOrder : ps.Pairwise fun p q => p.instant ≤ q.instant := by decide
  let columns (sum : Int) : List (Feature × List (List Outcome)) :=
    sumOfPast.features.map fun f => (f, [[.value (.int 3), .value (.int sum)]])
  have outcomes (sum : Int) : PointOutcome.ofColumns [patientOn 1, patientOn 3] (columns sum) =
      .ok [.row [.int 3], .row [.int sum]] := rfl
  have run : (mk x .allEvents {}).run sumOfPast ps = .ok (t 7) := by
    have slots : sumOfPast.features.mapM ((mk x .allEvents {}).slots (visits [.int 3, .int 4])
        [patientOn 1, patientOn 3]) = .ok (columns 7) := rfl
    exact run_of_inOrder nonempty one inOrder rfl slots (outcomes 7)
  have run' : (mk y .allEvents {}).run sumOfPast ps = .ok (t 12) := by
    have slots : sumOfPast.features.mapM ((mk y .allEvents {}).slots
        (visits [.int 3, .int 4, .int 5]) [patientOn 1, patientOn 3]) = .ok (columns 12) := rfl
    exact run_of_inOrder nonempty one inOrder rfl slots (outcomes 12)
  exact ⟨⟨reachable, grows, looksBack, resolved, run, run'⟩,
    (run_upTo_eq reachable grows looksBack resolved run run').1⟩

end QueryRun
end Hindsight
