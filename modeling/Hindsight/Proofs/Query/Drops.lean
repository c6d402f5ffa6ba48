import Hindsight.Proofs.Query.Candidates
import Hindsight.Proofs.Query.Pointwise
import Hindsight.Proofs.Store.Selection

/-!
# Why a point is dropped

A point is dropped if a filter cannot be evaluated on an event in its window. Reading the window
stops at the first such event (`WindowedAggregate.failure?_read`), and sliding looks for it in the
frame of the point (`WindowedAggregate.forall₂_failure?_slide`), so both report its error. Of the
features of a point the first one that has such an event is reported
(`PointOutcome.dropped?_ofSlots`).
-/

namespace Hindsight

/-- The first element that gives something gives the same by two functions that agree on all
elements. -/
theorem findSome?_congr {α β : Type} {f g : α → Option β} {l : List α}
    (h : ∀ a ∈ l, f a = g a) : l.findSome? f = l.findSome? g := by
  rw [← List.head?_filterMap, ← List.head?_filterMap, List.filterMap_congr h]

/-- Why the filter failed on an event, if it did. -/
def Contribution.failure? : Contribution → Option EvalError
  | filterFailed reason => some reason
  | _ => none

/-- Why an aggregate has no value at a point, if it has none. -/
def Outcome.failure? : Outcome → Option EvalError
  | filterFailed reason => some reason
  | value _ => none

/-- The feature for which a point is dropped and why, if it is. -/
def PointOutcome.dropped? : PointOutcome → Option (String × EvalError)
  | row _ => none
  | dropped feature reason => some (feature, reason)

/-- Why an entry failed is told by its contribution. -/
theorem Entry.failure?_eq (e : Entry) : e.failure? = e.contribution.failure? := by
  rw [failure?]
  cases e.contribution <;> rfl

/-- Why the filter of an aggregate cannot be evaluated on an event, if it is asked and cannot. -/
def Aggregate.filterError? (a : Aggregate) (point : EvalContext) (e : Event) : Option EvalError :=
  if a.permitsType e.type then
    match a.accepts (point.withEvent e) with
    | .error reason => some reason
    | .ok _ => none
  else none

/-- An event is the reason of a drop if its type is not passed over and the filter fails on it. -/
theorem Aggregate.filterError?_eq_some_iff {a : Aggregate} {point : EvalContext} {e : Event}
    {reason : EvalError} :
    a.filterError? point e = some reason ↔
      a.permitsType e.type = true ∧ a.accepts (point.withEvent e) = .error reason := by
  rw [filterError?]
  split
  · split <;> simp_all
  · simp_all

/-- What becomes of an event shows whether the filter could be evaluated on it: its failure is the
error of the filter, and any other contribution means that there was none. -/
theorem Aggregate.filterError?_of_contribution {a : Aggregate} {point : EvalContext} {e : Event}
    {c : Contribution} (h : a.contribution point e = .ok c) :
    a.filterError? point e = c.failure? := by
  rw [filterError?]
  rcases a.contribution_cases point e with ⟨barred, given⟩ |
    ⟨permitted, ⟨refused, given⟩ | ⟨accepted, given⟩ | ⟨reason, failed, given⟩⟩
  · rw [given] at h
    cases h
    rw [barred]
    rfl
  · rw [given] at h
    cases h
    rw [permitted, refused]
    rfl
  · rw [given] at h
    obtain ⟨s, -, rfl⟩ := map_eq_ok_iff.1 h
    rw [permitted, accepted]
    rfl
  · rw [given] at h
    cases h
    rw [permitted, failed]
    rfl

namespace WindowedAggregate

variable {w : WindowedAggregate} {ps : List SourcedPoint} {es : List Entry}

/-- The error of the filter on the first event in the window of a point on which it cannot be
evaluated. -/
def filterError? (w : WindowedAggregate) (p : SourcedPoint) : Option EvalError :=
  ((w.frame p.point).of w.candidates).findSome? fun x => w.aggregate.filterError? p.context x.event

/-- **Reading a window** ends with the first error of the filter, by induction on the events. Events
behind it are not looked at. -/
theorem failure?_read {a : Aggregate} {point : EvalContext} {xs : Timeline} {r : WindowReading}
    {o : Outcome} (h : read a point r xs = .ok o) :
    o.failure? = xs.findSome? fun x => a.filterError? point x.event := by
  induction xs generalizing r with
  | nil =>
    obtain ⟨v, -, rfl⟩ := map_eq_ok_iff.1 h
    rfl
  | cons x xs ih =>
    obtain ⟨c, hc, h⟩ := bind_eq_ok_iff.1 h
    rw [List.findSome?_cons, Aggregate.filterError?_of_contribution hc]
    cases c with
    | passed => exact ih h
    | filterFailed reason =>
      cases h
      rfl
    | counted s =>
      obtain ⟨r', -, h⟩ := bind_eq_ok_iff.1 h
      exact ih h

/-- A slide reports at each frame the first failure among its entries, whatever the content of the
window is at that moment. -/
theorem forall₂_failure?_slide {v : SlidingWindow} {frames : List Frame} {outs : List Outcome}
    (h : SlidingWindow.slide es v frames = .ok outs) :
    List.Forall₂ (fun f o => o.failure? = (f.of es).findSome? Entry.failure?) frames outs := by
  induction frames generalizing v outs with
  | nil =>
    cases h
    exact .nil
  | cons f frames ih =>
    obtain ⟨v', -, h⟩ := bind_eq_ok_iff.1 h
    obtain ⟨rest, hrest, h⟩ := bind_eq_ok_iff.1 h
    cases h
    refine .cons ?_ (ih hrest)
    rw [SlidingWindow.outcome]
    cases (f.of es).findSome? Entry.failure? <;> rfl

/-- The first failure in the frame of a point is the first error of the filter in its window, since
the entries hold what the events give. -/
theorem Serves.findSome?_failure? (serves : w.Serves ps es) {p : SourcedPoint} (hp : p ∈ ps) :
    ((w.frame p.point).of es).findSome? Entry.failure? = w.filterError? p := by
  rw [filterError?, ← List.head?_filterMap, ← List.head?_filterMap]
  refine congrArg List.head? (filterMap_eq_of_forall₂ (fun x e holds => ?_)
    (serves.holds_frame hp)).symm
  rw [Aggregate.filterError?_of_contribution holds.contribution, Entry.failure?_eq]

/-- **An aggregate has no value at a point** just if its filter cannot be evaluated on an event in
the window. -/
theorem forall₂_failure?_evaluate (group : SourcedPoint.OneGroup ps) {outs : List Outcome}
    (h : w.evaluate w.aggregate.strategy ps = .ok outs) :
    List.Forall₂ (fun p o => o.failure? = w.filterError? p) ps outs := by
  rcases w.evaluate_cases with rescans | ⟨free, content, slides⟩
  · rw [rescans, mapError_eq_ok_iff] at h
    exact (mapM_eq_ok_iff.1 h).imp fun p o ho => failure?_read ho
  · rw [slides] at h
    obtain ⟨es, serves, slid⟩ := exists_serves free group h
    have reported := forall₂_failure?_slide slid
    rw [frames, List.forall₂_map_left_iff] at reported
    refine ((List.forall₂_and_left ps outs).2 ⟨fun p hp => hp, reported⟩).imp ?_
    rintro p o ⟨hp, failure⟩
    rw [failure, serves.findSome?_failure? hp]

end WindowedAggregate

/-- The values of the slots are there just if each slot has one, and what is reported otherwise is
the first failure. -/
theorem Outcome.values_eq_error_iff {os : List Outcome} {reason : EvalError} :
    values os = .error reason ↔ os.findSome? failure? = some reason := by
  induction os with
  | nil => simp [values]
  | cons o os ih =>
    cases o with
    | value v =>
      rw [values, List.findSome?_cons, failure?, ← ih]
      cases values os <;> simp [Except.map]
    | filterFailed reason' =>
      rw [values, List.findSome?_cons, failure?]
      simp

namespace PointOutcome

variable {ctx : EvalContext} {slots : List (Feature × List Outcome)}

/-- **A point is dropped** for the first feature with a slot that has no value, and reports the
first such slot of it. -/
theorem dropped?_ofSlots {o : PointOutcome} (h : ofSlots ctx slots = .ok o) :
    o.dropped? =
      slots.findSome? fun c => (c.2.findSome? Outcome.failure?).map (c.1.name, ·) := by
  induction slots generalizing o with
  | nil =>
    cases h
    rfl
  | cons c slots ih =>
    rw [ofSlots] at h
    rw [List.findSome?_cons]
    cases hv : Outcome.values c.2 with
    | error reason =>
      rw [hv] at h
      cases h
      rw [Outcome.values_eq_error_iff.1 hv]
      rfl
    | ok vs =>
      have no_failure : c.2.findSome? Outcome.failure? = none := by
        refine Option.eq_none_iff_forall_ne_some.2 fun reason failed => ?_
        rw [Outcome.values_eq_error_iff.2 failed] at hv
        cases hv
      rw [hv] at h
      obtain ⟨v, -, h⟩ := bind_eq_ok_iff.1 h
      obtain ⟨rest, hrest, h⟩ := bind_eq_ok_iff.1 h
      rw [no_failure, Option.map_none, ← ih hrest]
      cases rest <;> cases h <;> rfl

/-- A row has a value for each feature. -/
theorem length_of_ofSlots {values : List Value} (h : ofSlots ctx slots = .ok (.row values)) :
    values.length = slots.length := by
  induction slots generalizing values with
  | nil =>
    cases h
    rfl
  | cons c slots ih =>
    rw [ofSlots] at h
    split at h
    · cases h
    · obtain ⟨v, -, h⟩ := bind_eq_ok_iff.1 h
      obtain ⟨rest, hrest, h⟩ := bind_eq_ok_iff.1 h
      cases rest with
      | row values' =>
        cases h
        exact congrArg (· + 1) (ih hrest)
      | dropped feature reason => cases h

end PointOutcome

namespace QueryRun

variable {r : QueryRun} {q : FeatureSet} {ps : List ObservationPoint} {p : ObservationPoint}
  {f : Feature}

/-- The error for which a feature drops a point: that of its first aggregate that has one. -/
def filterError? (r : QueryRun) (p : ObservationPoint) (f : Feature) : Option EvalError :=
  f.aggregates.findSome? fun a => (r.windowed (.of p) a).filterError? (r.sourced p)

/-- The filter of an aggregate of a feature cannot be evaluated on an event of a type that it does
not exclude, which counts at a point and lies in the window there. -/
def FilterFails (r : QueryRun) (p : ObservationPoint) (f : Feature) (reason : EvalError) : Prop :=
  ∃ a ∈ f.aggregates, ∃ x ∈ r.scope.candidates r.index (.of p) r.options.experiment,
    (a.window.bounds p.instant r.options.inclusive).contains x.event.time = true ∧
      a.permitsType x.event.type = true ∧
        a.accepts ((r.sourced p).context.withEvent x.event) = .error reason

/-- The window of an aggregate holds the candidates that its bounds contain. Candidates are in the
order of time, so the frame cuts out exactly these. -/
theorem mem_window_iff (reachable : r.index.Reachable) {a : Aggregate} {x : StoredEvent} :
    x ∈ ((r.windowed (.of p) a).frame p).of (r.windowed (.of p) a).candidates ↔
      x ∈ r.scope.candidates r.index (.of p) r.options.experiment ∧
        (a.window.bounds p.instant r.options.inclusive).contains x.event.time = true := by
  have inOrder := (r.scope.lists_candidates (g := .of p) reachable.consistent
    r.options.experiment).inOrder
  show x ∈ Timeline.slice (r.scope.candidates r.index (.of p) r.options.experiment)
    (a.window.bounds p.instant r.options.inclusive) ↔ _
  rw [Timeline.slice_eq_filter inOrder, List.mem_filter]

/-- The error that a point is dropped for is one of a feature, an aggregate of it and an event in
its window. -/
theorem filterFails_of_filterError? (reachable : r.index.Reachable) {reason : EvalError}
    (h : r.filterError? p f = some reason) : r.FilterFails p f reason := by
  obtain ⟨a, ha, h⟩ := List.exists_of_findSome?_eq_some h
  obtain ⟨x, hx, h⟩ := List.exists_of_findSome?_eq_some h
  obtain ⟨candidate, inside⟩ := (mem_window_iff reachable).1 hx
  exact ⟨a, ha, x, candidate, inside, Aggregate.filterError?_eq_some_iff.1 h⟩

/-- **A point is not dropped just if no filter fails on an event in the window of its
aggregate**. -/
theorem filterError?_eq_none_iff (reachable : r.index.Reachable) :
    r.filterError? p f = none ↔ ∀ reason, ¬r.FilterFails p f reason := by
  constructor
  · rintro none_fails reason ⟨a, ha, x, candidate, inside, asked⟩
    have here := List.findSome?_eq_none_iff.1 (List.findSome?_eq_none_iff.1 none_fails a ha) x
      ((mem_window_iff reachable).2 ⟨candidate, inside⟩)
    have there := Aggregate.filterError?_eq_some_iff.2 asked
    cases here.symm.trans there
  · intro none_fails
    refine Option.eq_none_iff_forall_ne_some.2 fun reason h => ?_
    exact none_fails reason (filterFails_of_filterError? reachable h)

/-- **The feature that is reported** at a point is the first one that drops it, and the reason is
the error of its filter on the first such event. Neither depends on how the windows are
evaluated. -/
theorem dropped?_of_decides {F : Aggregate → ObservationPoint → Outcome}
    (decides : r.Decides q F ps) (hp : p ∈ ps) {o : PointOutcome}
    (h : r.pointOutcome q p (F · p) = .ok o) :
    o.dropped? = q.features.findSome? fun f => (r.filterError? p f).map (f.name, ·) := by
  have failures : ∀ f ∈ q.features, ∀ a ∈ f.aggregates,
      (F a p).failure? = (r.windowed (.of p) a).filterError? (r.sourced p) := by
    intro f hf a ha
    have each := WindowedAggregate.forall₂_failure?_evaluate (oneGroup_pointsOf r ps (.of p))
      (decides (.of p) f hf a ha)
    rw [List.forall₂_map_left_iff, List.forall₂_map_right_iff, List.forall₂_same] at each
    exact each p (mem_pointsOf.2 ⟨hp, rfl⟩)
  rw [PointOutcome.dropped?_ofSlots h, List.findSome?_map]
  refine findSome?_congr fun f hf => ?_
  have slots : (f.aggregates.map (F · p)).findSome? Outcome.failure? = r.filterError? p f := by
    rw [List.findSome?_map]
    exact findSome?_congr (failures f hf)
  exact congrArg (Option.map _) slots

end QueryRun
end Hindsight
