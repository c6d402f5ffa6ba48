import Hindsight.Proofs.Except
import Hindsight.Proofs.Observation.Order
import Hindsight.Proofs.Time.Instant
import Hindsight.Query.Run
import Mathlib.Data.List.Perm.Basic
import Mathlib.Order.Lattice
import Mathlib.Order.Nat

/-!
# Every point is accounted for

The points of a query are divided into groups without loss or repetition
(`flatMap_pointGroups_perm`), each group yields one outcome for each of its points
(`QueryRun.map_placed_runGroup`), and the outcomes of all groups are put back in the order of the
points (`QueryRun.map_placed_outcomes`).
-/

namespace Hindsight

/-- Sorted by a key, items are in the order of the key. -/
theorem pairwise_mergeSort_key {α κ : Type} [LinearOrder κ] (key : α → κ) (l : List α) :
    (l.mergeSort fun a b => decide (key a ≤ key b)).Pairwise fun a b => key a ≤ key b := by
  have sorted : (l.mergeSort fun a b => decide (key a ≤ key b)).Pairwise fun a b =>
      decide (key a ≤ key b) = true := by
    refine List.pairwise_mergeSort (fun a b c h h' => ?_) (fun a b => ?_) l
    · simp only [decide_eq_true_eq] at h h' ⊢
      exact h.trans h'
    · simp only [Bool.or_eq_true, decide_eq_true_eq]
      exact le_total _ _
  simpa only [decide_eq_true_eq] using sorted

section Division

variable {α κ : Type} [DecidableEq κ]

/-- Divided by different keys, the items of these keys are all there, each once. The keys have to
differ, or the items of one would come twice. -/
theorem flatMap_filter_perm (key : α → κ) {ks : List κ} (nodup : ks.Nodup) (l : List α) :
    (ks.flatMap fun k => l.filter fun a => decide (key a = k)).Perm
      (l.filter fun a => decide (key a ∈ ks)) := by
  induction ks with
  | nil => simp
  | cons k ks ih =>
    obtain ⟨new, rest⟩ := List.nodup_cons.1 nodup
    let here := l.filter fun a => decide (key a ∈ k :: ks)
    have first : (here.filter fun a => decide (key a = k)) =
        l.filter fun a => decide (key a = k) := by
      rw [List.filter_filter]
      refine List.filter_congr fun a _ => ?_
      by_cases h : key a = k <;> simp [h]
    have others : (here.filter fun a => !decide (key a = k)) =
        l.filter fun a => decide (key a ∈ ks) := by
      rw [List.filter_filter]
      refine List.filter_congr fun a _ => ?_
      by_cases h : key a = k
      · simp [h, new]
      · simp [h]
    have whole := List.filter_append_perm (fun a => decide (key a = k)) here
    rw [first, others] at whole
    rw [List.flatMap_cons]
    exact ((ih rest).append_left _).trans whole

end Division

/-- **The groups hold all points,** each once. So evaluating group by group neither loses a point
nor answers one twice. -/
theorem flatMap_pointGroups_perm (ps : List PlacedPoint) :
    ((pointGroups ps).flatMap Prod.snd).Perm ps := by
  let groups := ((ps.map fun p => PointGroup.of p.point).eraseDups.mergeSort fun g h =>
    (g.order h).isLE)
  have nodup : groups.Nodup := (List.mergeSort_perm _ _).nodup_iff.2 (nodup_eraseDups _)
  have covered : ps.filter (fun p => decide (PointGroup.of p.point ∈ groups)) = ps := by
    refine List.filter_eq_self.2 fun p hp => decide_eq_true ?_
    rw [List.mem_mergeSort, List.mem_eraseDups]
    exact List.mem_map_of_mem hp
  have divided := flatMap_filter_perm (fun p : PlacedPoint => PointGroup.of p.point) nodup ps
  rw [covered] at divided
  rw [pointGroups, List.flatMap_map]
  exact divided

/-- Points that all belong to one group make this group, with all of them in their order. -/
theorem pointGroups_of_forall {ps : List PlacedPoint} {g : PointGroup} (nonempty : ps ≠ [])
    (one : ∀ p ∈ ps, PointGroup.of p.point = g) : pointGroups ps = [(g, ps)] := by
  have keys : (ps.map fun p => PointGroup.of p.point).eraseDups = [g] := by
    obtain ⟨p, rest, rfl⟩ := List.exists_cons_of_ne_nil nonempty
    obtain ⟨first, others⟩ := List.forall_mem_cons.1 one
    have none_left : ((rest.map fun p => PointGroup.of p.point).filter fun h => !h == g) = [] := by
      refine List.filter_eq_nil_iff.2 fun h hh => ?_
      obtain ⟨p', hp', rfl⟩ := List.mem_map.1 hh
      simp [others p' hp']
    rw [List.map_cons, first, List.eraseDups_cons, none_left, List.eraseDups_nil]
  have all : ps.filter (fun p => decide (PointGroup.of p.point = g)) = ps :=
    List.filter_eq_self.2 fun p hp => decide_eq_true (one p hp)
  rw [pointGroups, keys, List.mergeSort_singleton, List.map_singleton, all]

/-- The points with their places are the points. -/
theorem map_point_placed (ps : List ObservationPoint) : (placed ps).map PlacedPoint.point = ps := by
  rw [placed, List.map_map]
  exact List.zipIdx_map_fst 0 ps

/-- The place and the point of an outcome. -/
def PlacedOutcome.placed (o : PlacedOutcome) : PlacedPoint := ⟨o.place, o.point⟩

/-- There is one outcome for each point. -/
theorem PointOutcome.length_ofColumns {ps : List SourcedPoint}
    {columns : List (Feature × List (List Outcome))} {os : List PointOutcome}
    (h : ofColumns ps columns = .ok os) : os.length = ps.length := by
  induction ps generalizing columns os with
  | nil => cases h; rfl
  | cons p ps ih =>
    obtain ⟨o, -, h⟩ := bind_eq_ok_iff.1 h
    obtain ⟨rest, hrest, h⟩ := bind_eq_ok_iff.1 h
    cases h
    rw [List.length_cons, List.length_cons, ih hrest]

/-- The points of a group in the order of their instants. -/
def inOrderOfInstants (ps : List PlacedPoint) : List PlacedPoint :=
  ps.mergeSort fun p q => decide (p.point.instant ≤ q.point.instant)

namespace QueryRun

variable {r : QueryRun} {q : FeatureSet}

/-- **A group yields one outcome for each point**, in the order of the instants in which it is
evaluated, and each still carries the place of its point. -/
theorem map_placed_runGroup {g : PointGroup × List PlacedPoint} {os : List PlacedOutcome}
    (h : r.runGroup q g = .ok os) : os.map PlacedOutcome.placed = inOrderOfInstants g.2 := by
  obtain ⟨columns, -, h⟩ := bind_eq_ok_iff.1 h
  obtain ⟨outcomes, houtcomes, h⟩ := bind_eq_ok_iff.1 h
  cases h
  have length := PointOutcome.length_ofColumns (mapError_eq_ok_iff.1 houtcomes)
  rw [List.length_map] at length
  rw [List.map_zipWith]
  calc _ = (List.zip (inOrderOfInstants g.2) outcomes).map Prod.fst := by
        rw [List.zip, List.map_zipWith]
        rfl
    _ = inOrderOfInstants g.2 := List.map_fst_zip (Nat.le_of_eq length.symm)

/-- A point is found at its place, so that points which are equal are told apart by where they
stand. -/
theorem mem_placed_iff {ps : List ObservationPoint} {p : PlacedPoint} :
    p ∈ placed ps ↔ ps[p.place]? = some p.point := by
  rw [placed, List.mem_map]
  constructor
  · rintro ⟨⟨point, place⟩, member, rfl⟩
    exact List.mk_mem_zipIdx_iff_getElem?.1 member
  · intro found
    exact ⟨(p.point, p.place), List.mk_mem_zipIdx_iff_getElem?.2 found, rfl⟩

/-- Places increase along the points. -/
theorem pairwise_placed (ps : List ObservationPoint) :
    (placed ps).Pairwise fun p q => p.place ≤ q.place := by
  have places : (placed ps).map PlacedPoint.place = List.range' 0 ps.length := by
    rw [placed, List.map_map, ← List.zipIdx_map_snd]
    rfl
  rw [← List.pairwise_map, places]
  exact List.pairwise_le_range'

/-- Points with their places, in any order, are put back by their places. Places do not repeat, so
there is one way only. -/
theorem mergeSort_eq_placed {ps : List ObservationPoint} {l : List PlacedPoint}
    (perm : l.Perm (placed ps)) :
    l.mergeSort (fun p q => decide (p.place ≤ q.place)) = placed ps := by
  have sorted := pairwise_mergeSort_key PlacedPoint.place l
  have perm' := (List.mergeSort_perm l fun p q => decide (p.place ≤ q.place)).trans perm
  refine perm'.eq_of_pairwise (fun a b ha hb le ge => ?_) sorted (pairwise_placed ps)
  have at_a := mem_placed_iff.1 (perm'.mem_iff.1 ha)
  have at_b := mem_placed_iff.1 hb
  obtain ⟨i, point⟩ := a
  obtain ⟨j, point'⟩ := b
  obtain rfl : i = j := Nat.le_antisymm le ge
  exact congrArg (PlacedPoint.mk i) (Option.some.inj (at_a.symm.trans at_b))

/-- **The outcomes stand in the order of the points,** one for each: the groups hold all points,
each group answers all of its own, and sorting by places puts the answers back. -/
theorem map_placed_outcomes {ps : List ObservationPoint} {outs : List PlacedOutcome}
    (h : r.outcomes q ps = .ok outs) : outs.map PlacedOutcome.placed = placed ps := by
  obtain ⟨groups, hgroups, h⟩ := bind_eq_ok_iff.1 h
  cases h
  have each : groups.map (List.map PlacedOutcome.placed) =
      (pointGroups (placed ps)).map fun g => inOrderOfInstants g.2 := by
    rw [eq_comm, ← List.forall₂_eq_eq_eq, List.forall₂_map_left_iff, List.forall₂_map_right_iff]
    exact (mapM_eq_ok_iff.1 hgroups).imp fun g os hos => (map_placed_runGroup hos).symm
  have perm : (groups.flatten.map PlacedOutcome.placed).Perm (placed ps) := by
    rw [List.map_flatten, each, ← List.flatMap_def]
    exact (List.Perm.flatMap_left _ fun g _ => List.mergeSort_perm _ _).trans
      (flatMap_pointGroups_perm _)
  rw [← mergeSort_eq_placed perm]
  exact List.map_mergeSort fun _ _ _ _ => rfl

/-- Points of one group that are in the order of their instants are evaluated as they stand, for
there is nothing to divide or to put in order. -/
theorem run_of_inOrder {ps : List ObservationPoint} {g : PointGroup} (nonempty : ps ≠ [])
    (one : ∀ p ∈ ps, PointGroup.of p = g) (inOrder : ps.Pairwise fun p q => p.instant ≤ q.instant)
    (checked : r.check q = .ok ()) {columns : List (Feature × List (List Outcome))}
    (hcolumns : q.features.mapM (r.slots (r.scope.candidates r.index g r.options.experiment)
      (ps.map r.sourced)) = .ok columns)
    {os : List PointOutcome} (hos : PointOutcome.ofColumns (ps.map r.sourced) columns = .ok os) :
    r.run q ps = .ok (table q
      (List.zipWith (fun p o => ⟨p.place, p.point, o⟩) (placed ps) os)) := by
  have points := map_point_placed ps
  have sourced_placed : (placed ps).map (fun p => r.sourced p.point) = ps.map r.sourced := by
    rw [← points, List.map_map, points]
    rfl
  have groups : pointGroups (placed ps) = [(g, placed ps)] := by
    refine pointGroups_of_forall (fun h => nonempty ?_) fun p hp => ?_
    · rw [← points, h, List.map_nil]
    · exact one p.point (List.mem_of_getElem? (mem_placed_iff.1 hp))
  have sorted : inOrderOfInstants (placed ps) = placed ps := by
    refine List.mergeSort_of_pairwise ?_
    simp only [decide_eq_true_eq]
    rw [← points, List.pairwise_map] at inOrder
    exact inOrder
  let outs := List.zipWith (fun p o => PlacedOutcome.mk p.place p.point o) (placed ps) os
  have group : r.runGroup q (g, placed ps) = .ok outs := by
    rw [inOrderOfInstants] at sorted
    simp only [runGroup, sorted, sourced_placed, hcolumns, hos, ok_bind]
    rfl
  have inPlace : outs.mergeSort (fun o p => decide (o.place ≤ p.place)) = outs := by
    refine List.mergeSort_of_pairwise ?_
    have places := pairwise_placed ps
    rw [← sorted, ← map_placed_runGroup group, List.pairwise_map] at places
    simpa only [decide_eq_true_eq, PlacedOutcome.placed] using places
  have outcomes : r.outcomes q ps = .ok outs := by
    rw [QueryRun.outcomes, groups, List.mapM_cons, group, List.mapM_nil]
    show Except.ok _ = _
    rw [List.flatten_singleton, inPlace]
  rw [run, checked, outcomes]
  rfl

end QueryRun
end Hindsight
