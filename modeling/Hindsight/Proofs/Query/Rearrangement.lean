import Hindsight.Proofs.Query.Candidates
import Hindsight.Proofs.Query.Drops
import Hindsight.Proofs.Query.Visits
import Hindsight.Proofs.Store.Selection
import Mathlib.Data.List.DropRight

/-!
# The order of points does not matter

The points of a group are visited in the order of their instants, so rearranged points differ only
in the order of those of one instant. A window that slides to a frame a second time stays as it is
(`SlidingWindow.slideTo_again`), so such points come to the same outcome
(`SlidingWindow.exists_outcome_of_instant`), and a query gives each point the same row or the same
drop, in whichever order the points are given. A point is dropped just if the filter of some feature
cannot be evaluated on an event in its window (`QueryRun.run_of_perm`).
-/

namespace Hindsight

open Time (Instant)

namespace Sliding

/-- Evicting again what was evicted changes nothing. -/
@[simp] theorem evictBefore_evictBefore (s : Sliding) (n : Nat) :
    (s.evictBefore n).evictBefore n = s.evictBefore n := by
  cases s with
  | accumulator a => rfl
  | deque d => simp [evictBefore, MonotoneDeque.evictBefore, List.dropWhile_idempotent]

/-- What slides is not changed by starting anew again, as it is empty already. -/
theorem evictBefore_reset_again (s : Sliding) (n : Nat) :
    (s.reset.evictBefore n).reset.evictBefore n = s.reset.evictBefore n := by
  cases s with
  | accumulator a => exact congrArg (fun f => accumulator (.empty f)) (Accumulator.function_empty _)
  | deque d => rfl

end Sliding

namespace SlidingWindow

variable {es : List Entry} {w w' : SlidingWindow} {f : Frame}

/-- A window that meets an empty frame starts anew there, with nothing in it, wherever it was
before. -/
theorem meet_of_stop_le (empty : f.stop ≤ f.start) (w : SlidingWindow) :
    w.meet f = ⟨w.content.reset, f.start, f.start⟩ := by
  rw [meet, if_pos]
  omega

/-- **A window that slides to its frame again** stays as it is: nothing enters and nothing
leaves. -/
theorem slideTo_again (h : w.slideTo es f = .ok w') : w'.slideTo es f = .ok w' := by
  rcases Nat.lt_or_ge f.start f.stop with nonempty | empty
  · obtain ⟨entered, -, h⟩ := bind_eq_ok_iff.1 h
    obtain ⟨left, -, h⟩ := bind_eq_ok_iff.1 h
    obtain rfl := Except.ok.inj h
    have stays : meet ⟨left.evictBefore f.start, f.start, f.stop⟩ f =
        ⟨left.evictBefore f.start, f.start, f.stop⟩ := by
      rw [meet, if_neg]
      dsimp only
      omega
    rw [slideTo, stays]
    simp [pure, Except.pure]
  · have same : f.stop = f.start := Nat.le_antisymm empty f.start_le_stop
    have anew (v : SlidingWindow) :
        v.slideTo es f = .ok ⟨v.content.reset.evictBefore f.start, f.start, f.stop⟩ := by
      rw [slideTo, meet_of_stop_le empty, same]
      simp [pure, Except.pure]
    rw [anew] at h ⊢
    obtain rfl := Except.ok.inj h
    rw [Sliding.evictBefore_reset_again]

/-- **Frames of one instant come to one outcome** in a slide through instants in their order, for at
an instant that is repeated the window stays as it is. So the outcomes are those of a function of
the instant. -/
theorem exists_outcome_of_instant {frameAt : Instant → Frame} {ts : List Instant}
    (sorted : ts.Pairwise (· ≤ ·)) {outs : List Outcome}
    (h : slide es w (ts.map frameAt) = .ok outs) : ∃ F : Instant → Outcome, outs = ts.map F := by
  induction ts generalizing w outs with
  | nil =>
    cases h
    exact ⟨fun _ => .value .null, rfl⟩
  | cons t ts ih =>
    obtain ⟨first, rest_sorted⟩ := List.pairwise_cons.1 sorted
    obtain ⟨w', step, h⟩ := bind_eq_ok_iff.1 h
    obtain ⟨rest, hrest, h⟩ := bind_eq_ok_iff.1 h
    cases h
    obtain ⟨F, hF⟩ := ih rest_sorted hrest
    by_cases again : t ∈ ts
    · -- Then the instant comes next, and the window has reached its frame already.
      refine ⟨F, ?_⟩
      obtain _ | ⟨t', ts⟩ := ts
      · cases again
      have next : t' = t := by
        rcases List.mem_cons.1 again with same | later
        · exact same.symm
        · exact le_antisymm ((List.pairwise_cons.1 rest_sorted).1 t later)
            (first t' List.mem_cons_self)
      subst next
      rw [List.map_cons, slide, slideTo_again step, ok_bind] at hrest
      obtain ⟨outs, -, hrest⟩ := bind_eq_ok_iff.1 hrest
      obtain rfl := Except.ok.inj hrest
      rw [List.map_cons, ← hF, (List.cons.inj hF).1]
    · refine ⟨Function.update F t (w'.outcome es (frameAt t)), ?_⟩
      rw [List.map_cons, Function.update_self, hF]
      refine congrArg _ (List.map_congr_left fun t' ht' => ?_)
      rw [Function.update_of_ne]
      rintro rfl
      exact again ht'

end SlidingWindow

namespace WindowedAggregate

variable {w : WindowedAggregate} {ps ps' : List SourcedPoint}

/-- Points in the order of their instants. -/
def InOrderOfInstants (ps : List SourcedPoint) : Prop :=
  ps.Pairwise fun p q => p.point.instant ≤ q.point.instant

/-- Rearranged points have the same instants if both are in the order of the instants, although
points of one instant may have changed places. -/
theorem map_instant_eq_of_perm (perm : ps'.Perm ps) (sorted : InOrderOfInstants ps)
    (sorted' : InOrderOfInstants ps') :
    ps'.map (fun p => p.point.instant) = ps.map fun p => p.point.instant := by
  refine (perm.map _).eq_of_pairwise (fun _ _ _ _ le ge => le_antisymm le ge) ?_ ?_
  · exact List.pairwise_map.2 sorted'
  · exact List.pairwise_map.2 sorted

/-- The frame of a point is that of its instant; nothing else of the point decides it. -/
theorem frames_eq_map_instant (w : WindowedAggregate) (ps : List SourcedPoint) :
    w.frames ps = (ps.map fun p => p.point.instant).map fun t =>
      w.candidates.frame (w.aggregate.window.bounds t w.inclusive) := by
  rw [frames, List.map_map]
  rfl

/-- **Rearranged points** come to the same outcomes if they are visited in the order of their
instants. -/
theorem exists_evaluate_of_perm (group : SourcedPoint.OneGroup ps) (sorted : InOrderOfInstants ps)
    {outs : List Outcome} (h : w.evaluate w.aggregate.strategy ps = .ok outs) :
    ∃ F : SourcedPoint → Outcome, ∀ ps', ps'.Perm ps → InOrderOfInstants ps' →
      w.evaluate w.aggregate.strategy ps' = .ok (ps'.map F) := by
  rcases w.evaluate_cases with rescans | ⟨free, content, slides⟩
  · rw [rescans, mapError_eq_ok_iff] at h
    obtain ⟨F, hF⟩ := exists_rescan_of_subset h
    refine ⟨F, fun ps' perm _ => ?_⟩
    rw [rescans, hF ps' perm.subset]
    rfl
  · rw [slides] at h
    obtain ⟨es, serves, slid⟩ := exists_serves free group h
    rw [frames_eq_map_instant] at slid
    obtain ⟨F, rfl⟩ := SlidingWindow.exists_outcome_of_instant (List.pairwise_map.2 sorted) slid
    refine ⟨fun p => F p.point.instant, fun ps' perm sorted' => ?_⟩
    have instants := map_instant_eq_of_perm perm sorted sorted'
    rw [slides, serves.slide_eq_of_subset perm.subset, frames_eq_map_instant, instants, slid,
      ← instants, List.map_map]
    rfl

end WindowedAggregate

namespace QueryRun

variable {r : QueryRun} {q : FeatureSet} {ps : List ObservationPoint} {t : FeatureTable}

/-- What a query that is decided comes to at a point: a row with a value for each column, or a drop
for the first feature whose filter cannot be evaluated there. -/
structure Accounts (r : QueryRun) (q : FeatureSet) (p : ObservationPoint) (o : PointOutcome) :
    Prop where
  length : ∀ values, o = .row values → values.length = q.columns.length
  dropped_iff : (∃ feature reason, o = .dropped feature reason) ↔
    ∃ f ∈ q.features, ∃ reason, r.FilterFails p f reason
  first : ∀ feature reason, o = .dropped feature reason →
    ∃ before f after, q.features = before ++ f :: after ∧ f.name = feature ∧
      r.FilterFails p f reason ∧ ∀ f' ∈ before, ∀ reason', ¬r.FilterFails p f' reason'

/-- What a function of the point decides is accounted for by the windows of that point alone: a row
if no filter fails in one of them, and a drop with the reason if one does. -/
theorem accounts_of_decides (reachable : r.index.Reachable)
    {F : Aggregate → ObservationPoint → Outcome} (decides : r.Decides q F ps)
    {p : ObservationPoint} (hp : p ∈ ps) {o : PointOutcome}
    (h : r.pointOutcome q p (F · p) = .ok o) : r.Accounts q p o := by
  have reported := dropped?_of_decides decides hp h
  refine ⟨fun values row => ?_, ?_, fun feature reason drop => ?_⟩
  · rw [row] at h
    rw [PointOutcome.length_of_ofSlots h, FeatureSet.columns, List.length_map, List.length_map]
  · constructor
    · rintro ⟨feature, reason, rfl⟩
      obtain ⟨f, hf, found⟩ := List.exists_of_findSome?_eq_some reported.symm
      obtain ⟨reason', found, -⟩ := Option.map_eq_some_iff.1 found
      exact ⟨f, hf, reason', filterFails_of_filterError? reachable found⟩
    · rintro ⟨f, hf, reason, fails⟩
      cases o with
      | dropped feature reason => exact ⟨feature, reason, rfl⟩
      | row values =>
        have none_found := List.findSome?_eq_none_iff.1 reported.symm f hf
        have sound := (filterError?_eq_none_iff reachable).1 (Option.map_eq_none_iff.1 none_found)
        exact absurd fails (sound reason)
  · rw [drop] at reported
    obtain ⟨before, f, after, features, found, none_before⟩ :=
      List.findSome?_eq_some_iff.1 reported.symm
    obtain ⟨reason', found, same⟩ := Option.map_eq_some_iff.1 found
    cases same
    exact ⟨before, f, after, features, rfl, filterFails_of_filterError? reachable found,
      fun f' hf' => (filterError?_eq_none_iff reachable).1
        (Option.map_eq_none_iff.1 (none_before f' hf'))⟩

/-- **The order of the points does not matter.** A query lists each point once, in the order of the
points, with a value for each column or as dropped for the first feature whose filter fails on an
event in its window. Rearranged points succeed as well, and each has the same row or drop. Points
that occur twice are two points here, and each of them has its place. -/
theorem run_of_perm (reachable : r.index.Reachable) (h : r.run q ps = .ok t) :
    ∃ out : ObservationPoint → PointOutcome,
      t = .tabulate q.columns out ps ∧ (∀ p ∈ ps, r.Accounts q p (out p)) ∧
        ∀ ps', ps'.Perm ps → r.run q ps' = .ok (.tabulate q.columns out ps') := by
  obtain ⟨F, out, decides, whole, each, rearranged⟩ :=
    exists_tabulate (S := (List.Perm · ps)) (List.Perm.refl ps) h fun g a outs _ found => by
      have sorted (ps : List ObservationPoint) :
          WindowedAggregate.InOrderOfInstants ((pointsOf ps g).map r.sourced) :=
        List.pairwise_map.2 (pairwise_pointsOf ps g)
      obtain ⟨F, hF⟩ := WindowedAggregate.exists_evaluate_of_perm (oneGroup_pointsOf r ps g)
        (sorted ps) found
      refine ⟨fun p => F (r.sourced p), fun ps' perm => ?_⟩
      exact (hF _ ((pointsOf_perm perm g).map _) (sorted ps')).trans
        (congrArg Except.ok (List.map_map ..))
  exact ⟨out, whole, fun p hp => accounts_of_decides reachable decides hp (each p hp),
    fun ps' perm => rearranged ps' perm perm.subset⟩

/-- The number of earlier visits, and of those of the day before whose text ends in a word. The text
has to be long enough to have such an end. -/
def countOfEndings : FeatureSet where
  features :=
    [{ name := "seen"
       raw := "count(value) over past as seen"
       formula := .slot 0
       aggregates := [⟨.count, .attr "value", .past, none, none, none, none⟩] },
     { name := "endings"
       raw := "count(value) over last 1 days where substr(value, 3) = \"def\" as endings"
       formula := .slot 0
       aggregates := [{
         function := .count
         argument := .attr "value"
         window := .last 1 .day
         filter := some <| .binary (.call .substr [.attr "value", .literal (.int 3)])
           (.compare .eq) (.literal (.text "def"))
         groupBy := none
         having := none
         eventTypes := none }] }]

/-- The text of the first day is too short, so the point after it is dropped. The points come in
another order, and each has the same answer. -/
theorem run_of_perm_visits :
    let r : QueryRun := ⟨visitsIndex [.text "ab", .text "abcdef"], .allEvents, {}⟩
    let ps := [(patientOn 1).point, (patientOn 2).point]
    let t : FeatureTable :=
      ⟨["seen", "endings"], [⟨(patientOn 2).point, [.int 2, .int 1]⟩],
        [⟨(patientOn 1).point, "endings", .outOfBounds 3 (-1) 2⟩]⟩
    (r.index.Reachable ∧ r.run countOfEndings ps = .ok t) ∧
      ∃ out : ObservationPoint → PointOutcome,
        t = .tabulate countOfEndings.columns out ps ∧
          (∀ p ∈ ps, r.Accounts countOfEndings p (out p)) ∧
          ∀ ps', ps'.Perm ps →
            r.run countOfEndings ps' = .ok (.tabulate countOfEndings.columns out ps') := by
  intro r ps t
  have reachable : r.index.Reachable := (EventIndex.Reachable.empty true).insertMany _
  have nonempty : ps ≠ [] := List.cons_ne_nil _ _
  have one : ∀ p ∈ ps, PointGroup.of p = PointGroup.of (patientOn 1).point := by decide
  have inOrder : ps.Pairwise fun p q => p.instant ≤ q.instant := by decide
  let columns : List (Feature × List (List Outcome)) :=
    countOfEndings.features.zip
      [[[.value (.int 1), .value (.int 2)]],
        [[.filterFailed (.outOfBounds 3 (-1) 2), .value (.int 1)]]]
  have slots : countOfEndings.features.mapM (r.slots (visits [.text "ab", .text "abcdef"])
      [patientOn 1, patientOn 2]) = .ok columns := rfl
  have outcomes : PointOutcome.ofColumns [patientOn 1, patientOn 2] columns =
      .ok [.dropped "endings" (.outOfBounds 3 (-1) 2), .row [.int 2, .int 1]] := rfl
  have run : r.run countOfEndings ps = .ok t :=
    run_of_inOrder nonempty one inOrder rfl slots outcomes
  exact ⟨⟨reachable, run⟩, run_of_perm reachable run⟩

end QueryRun
end Hindsight
