import Hindsight.Proofs.Aggregate.FirstRun
import Hindsight.Proofs.Query.Group
import Hindsight.Proofs.Query.Visits

/-!
# Least and greatest values by sliding

Among values of kinds that are linearly ordered, a rescan comes to the best of all values that
compare with the first one in the window. A slide comes to the best of the first run of them
(`WindowedAggregate.slide_extreme`). The two agree just if no later value is better
(`WindowedAggregate.evaluate_eq_rescan_iff`), which is so if the values are of one kind.
-/

namespace Hindsight
namespace WindowedAggregate

open MonotoneDeque (values)
open Value (firstRun)

variable {w : WindowedAggregate} {ps : List SourcedPoint} {es : List Entry} {p : SourcedPoint}
  {x : Extreme}

/-- A function that a deque serves is decided by the values that can still win. -/
theorem isSelective_of_retention? {f : AggregateFunction} {r : Retention}
    (h : f.retention? = some r) : f.isSelective = true := by
  rw [← f.isSome_retention?, h]
  rfl

/-- The value that an event counts with at a point, if it has one that is not null. -/
def valueAt? (w : WindowedAggregate) (p : SourcedPoint) (e : StoredEvent) : Option Value :=
  match w.aggregate.contribution p.context e.event with
  | .ok (.counted s) => if s.value.isNull then none else some s.value
  | _ => none

/-- The values that are not null in the window of a point. -/
def windowValues (w : WindowedAggregate) (p : SourcedPoint) : List Value :=
  ((w.frame p.point).of w.candidates).filterMap (w.valueAt? p)

/-- No filter fails in the window of a point. -/
def Unfailing (w : WindowedAggregate) (p : SourcedPoint) : Prop :=
  ∀ e ∈ (w.frame p.point).of w.candidates, w.aggregate.failsFilter p.context e = false

/-- The values in the windows of some points are of kinds that are linearly ordered. -/
def OrdinalOver (w : WindowedAggregate) (ps : List SourcedPoint) : Prop :=
  ∀ p ∈ ps, ∀ e ∈ w.candidates, ∀ v ∈ w.valueAt? p e, v.isOrdinal = true

instance (w : WindowedAggregate) (ps : List SourcedPoint) : Decidable (w.OrdinalOver ps) :=
  inferInstanceAs (Decidable (∀ p ∈ ps, ∀ e ∈ w.candidates, ∀ v ∈ w.valueAt? p e, _))

/-- Over candidates with values of ordered kinds, the values of a window are of ordered kinds, since
they are some of these. -/
theorem OrdinalOver.windowValues (ordinal : w.OrdinalOver ps) (hp : p ∈ ps) :
    Ordinals (w.windowValues p) := by
  intro v hv
  obtain ⟨e, he, value⟩ := List.mem_filterMap.1 hv
  exact ordinal p hp e (mem_of_mem_segment he) v value

namespace Serves

/-- The values in a window are those that a deque takes of the entries in its frame. In this way
rescan and slide are told by one list of values. -/
theorem windowValues (serves : w.Serves ps es) (hp : p ∈ ps) :
    w.windowValues p = values (Entry.pushes ((w.frame p.point).of es)) := by
  rw [values, Entry.pushes, List.map_filterMap, WindowedAggregate.windowValues]
  refine filterMap_eq_of_forall₂ (fun y e holds => ?_) (serves.holds_frame hp)
  rw [valueAt?, holds.contribution, Entry.push?, Entry.input?]
  cases e.contribution with
  | counted s => cases h : s.value.isNull <;> simp [h, Option.filter]
  | _ => rfl

/-- No filter fails in a window just if no entry in its frame holds a failure, so both evaluations
report alike there. -/
theorem unfailing_iff (serves : w.Serves ps es) (hp : p ∈ ps) :
    w.Unfailing p ↔ ((w.frame p.point).of es).findSome? Entry.failure? = none := by
  have same (y : StoredEvent) (e : Entry) (holds : e.Holds w.aggregate p.context y) :
      w.aggregate.failsFilter p.context y = false ↔ e.failure? = none := by
    rw [Aggregate.failsFilter, holds.contribution, Entry.failure?]
    cases e.contribution <;> simp
  rw [List.findSome?_eq_none_iff]
  constructor
  · intro unfailing e he
    obtain ⟨y, hy, holds⟩ := serves.exists_holds hp he
    exact (same y e holds).1 (unfailing y hy)
  · intro sound y hy
    obtain ⟨e, he, holds⟩ := serves.exists_entry hp hy
    exact (same y e holds).2 (sound e he)

/-- Entries come to the same outcome with two values if the values are the same or a filter
fails. -/
theorem outcome_eq_iff (serves : w.Serves ps es) (hp : p ∈ ps) {u v : Value} :
    Entry.outcome ((w.frame p.point).of es) u = Entry.outcome ((w.frame p.point).of es) v ↔
      (w.Unfailing p → u = v) := by
  rw [serves.unfailing_iff hp, Entry.outcome, Entry.outcome]
  cases ((w.frame p.point).of es).findSome? Entry.failure? with
  | none => simp
  | some reason => simp

end Serves

/-- The outcome at a point whose entries have a value. -/
def outcomeWith (es : List Entry) (w : WindowedAggregate) (p : SourcedPoint) (v : Option Value) :
    Outcome :=
  Entry.outcome ((w.frame p.point).of es) (v.getD .null)

/-- **A rescan comes to the best value** of each window, in the order in which the events stand. -/
theorem Serves.rescan_extreme (serves : w.Serves ps es) (plain : w.aggregate.IsPlain)
    (hf : w.aggregate.function.retention? = some (.best x)) :
    w.rescan ps = .ok (ps.map fun p => outcomeWith es w p (x.best (w.windowValues p))) := by
  have selective := isSelective_of_retention? hf
  rw [rescan, mapM_eq_ok_iff, List.forall₂_map_right_iff, List.forall₂_same]
  intro p hp
  rw [serves.rescanAt plain hp fun e _ => e.not_refused_of_isSelective selective,
    Accumulator.value_ofInputs_best hf, ← Entry.map_input_pushes, List.map_map, outcomeWith,
    serves.windowValues hp]
  rfl

/-- **A slide comes to the best value of the first run** of each window, whatever lay in the windows
before it. -/
theorem Serves.slide_extreme (serves : w.Serves ps es)
    (hf : w.aggregate.function.retention? = some (.best x)) (ordinal : w.OrdinalOver ps) :
    SlidingWindow.slide es ⟨.deque ⟨w.aggregate.function, .best x, []⟩, 0, 0⟩ (w.frames ps) =
      .ok (ps.map fun p => outcomeWith es w p (x.best (firstRun (w.windowValues p)))) := by
  have selective := isSelective_of_retention? hf
  have nothing : Sliding.HasPushes w.aggregate.function (.best x)
      (.deque ⟨w.aggregate.function, .best x, []⟩) [] := rfl
  obtain ⟨outs, slid, outcomes⟩ := serves.slide_of_accepted
    (Sliding.follows_pushes selective (.best x)) nothing
    fun p _ e _ => ⟨trivial, e.not_refused_of_isSelective selective⟩
  rw [slid, Except.ok.injEq, eq_comm, ← List.forall₂_eq_eq_eq, List.forall₂_map_left_iff]
  refine outcomes.imp ?_
  rintro p o ⟨hp, s, rfl, rfl⟩
  rw [outcomeWith, serves.windowValues hp, Sliding.value, MonotoneDeque.value_pushAll_best hf]
  rw [← serves.windowValues hp]
  exact ordinal.windowValues hp

/-- **Sliding and rescanning agree on the least or greatest value** just if, in every window where
no filter fails, no value is better than the best of the first run. A run ends at a value that does
not compare with the one before, and what comes behind it drives nothing out of the run. -/
theorem evaluate_eq_rescan_iff (slides : w.aggregate.strategy = .deque)
    (hf : w.aggregate.function.retention? = some (.best x)) (group : SourcedPoint.OneGroup ps)
    (ordinal : w.OrdinalOver ps) {outs outs' : List Outcome}
    (h : w.evaluate w.aggregate.strategy ps = .ok outs) (h' : w.rescan ps = .ok outs') :
    outs = outs' ↔ ∀ p ∈ ps, w.Unfailing p →
      ∀ b ∈ x.best (firstRun (w.windowValues p)), ∀ v ∈ w.windowValues p, x.wins v b = false := by
  obtain ⟨⟨plain, free⟩, -⟩ := w.aggregate.strategy_cases.resolve_left (by rw [slides]; decide)
  rw [slides, evaluate, dequeContent_of_retention? hf] at h
  rcases slide_cases free group (.deque ⟨w.aggregate.function, .best x, []⟩) with
    ⟨⟨reason, fails⟩, -⟩ | ⟨es, serves, slid⟩
  · rw [fails] at h
    cases h
  rw [slid, serves.slide_extreme hf ordinal, Except.ok.injEq] at h
  rw [serves.rescan_extreme plain hf, Except.ok.injEq] at h'
  rw [← h, ← h', List.map_inj_left]
  refine forall₂_congr fun p hp => ?_
  rw [outcomeWith, outcomeWith, serves.outcome_eq_iff hp]
  exact imp_congr_right fun _ =>
    Extreme.getD_best_firstRun_eq_iff (ordinal.windowValues hp)

/-- A text between integers does no harm where the least comes first. The three of the first run is
better than the five behind the text. -/
theorem first_run_of_visits_decides :
    let w := overVisits .min (.attr "value") .past [.int 3, .text "x", .int 5]
    let ps := [patientOn 3, patientOn 1]
    (w.aggregate.strategy = .deque ∧ SourcedPoint.OneGroup ps ∧ w.OrdinalOver ps) ∧
      ∀ p ∈ ps, w.Unfailing p →
        ∀ b ∈ Extreme.min.best (firstRun (w.windowValues p)), ∀ v ∈ w.windowValues p,
          Extreme.min.wins v b = false := by
  intro w ps
  have group : SourcedPoint.OneGroup ps := by decide
  have ordinal : w.OrdinalOver ps := by decide
  exact ⟨⟨rfl, group, ordinal⟩,
    (evaluate_eq_rescan_iff (x := .min) rfl rfl group ordinal rfl rfl).1 rfl⟩

/-- A text hides a smaller integer behind it from the slide, not from the rescan. The slide comes to
five, and the rescan to three. -/
theorem evaluate_ne_rescan_of_visits :
    let w := overVisits .min (.attr "value") .past [.int 5, .text "x", .int 3]
    w.aggregate.strategy = .deque ∧
      w.evaluate w.aggregate.strategy [patientOn 3] = .ok [.value (.int 5)] ∧
      w.rescan [patientOn 3] = .ok [.value (.int 3)] :=
  ⟨rfl, rfl, rfl⟩

end WindowedAggregate
end Hindsight
