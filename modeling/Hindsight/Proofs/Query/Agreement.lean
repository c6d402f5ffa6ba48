import Hindsight.Proofs.Aggregate.Positional
import Hindsight.Proofs.Query.Entries
import Hindsight.Proofs.Query.Group
import Hindsight.Proofs.Query.Visits
import Hindsight.Proofs.Store.Reachable

/-!
# Sliding agrees with rescanning

Where giving back is exact, and for functions that pick an event by its time, a slide comes to the
same outcomes as a rescan, whatever the frames are (`WindowedAggregate.rescan_eq_of_evaluate`). It
then fails only with an error of evaluation, and reads no place past the candidates.
-/

namespace Hindsight

namespace Entry

/-- Entries in the order of time have inputs in the order of time, as the time of an input is that
of its entry. -/
theorem inOrderOfTime_inputs {es : List Entry}
    (ordered : es.Pairwise fun e e' => e.time ≤ e'.time) : InOrderOfTime (inputs es) := by
  refine ordered.filterMap _ fun e e' le i hi j hj => ?_
  obtain ⟨s, -, rfl⟩ := input?_eq_some_iff.1 hi
  obtain ⟨t, -, rfl⟩ := input?_eq_some_iff.1 hj
  exact le

end Entry

namespace WindowedAggregate

variable {w : WindowedAggregate} {ps : List SourcedPoint} {es : List Entry}

/-- The entries of a frame are in the order of time as the candidates are, since each entry has the
time of its candidate. -/
theorem Serves.ordered (serves : w.Serves ps es) {p : SourcedPoint} (hp : p ∈ ps)
    (ordered : w.candidates.InOrder) (f : Frame) :
    (f.of es).Pairwise fun e e' => e.time ≤ e'.time := by
  have times : w.candidates.map (fun x => x.event.time) = es.map Entry.time := by
    rw [← List.forall₂_eq_eq_eq, List.forall₂_map_left_iff, List.forall₂_map_right_iff]
    exact (serves.holds p hp).imp fun x e he => he.time.symm
  have all : es.Pairwise fun e e' => e.time ≤ e'.time := by
    rw [← List.pairwise_map (R := fun s t : Time.Instant => s ≤ t), ← times, List.pairwise_map]
    exact ordered
  exact all.sublist ((List.drop_sublist _ _).trans (List.take_sublist _ _))

/-- What the candidates count with is such that giving back is exact. -/
def ExactOver (w : WindowedAggregate) (ps : List SourcedPoint) : Prop :=
  ∀ p ∈ ps, ∀ x ∈ w.candidates, ∀ s : Share,
    w.aggregate.contribution p.context x.event = .ok (.counted s) →
      w.aggregate.function.isExactOn s.value = true

/-- Whether giving back what an event counts with is exact. -/
def isExactAt (w : WindowedAggregate) (p : SourcedPoint) (x : StoredEvent) : Bool :=
  match w.aggregate.contribution p.context x.event with
  | .ok (.counted s) => w.aggregate.function.isExactOn s.value
  | _ => true

/-- Giving back is exact over some points if it is exact at each of them on every candidate. -/
theorem exactOver_iff : w.ExactOver ps ↔ ∀ p ∈ ps, ∀ x ∈ w.candidates, w.isExactAt p x = true := by
  refine forall₄_congr fun p _ x _ => ?_
  rw [isExactAt]
  constructor
  · intro exact
    split
    · next s counted => exact exact s counted
    · rfl
  · intro exact s counted
    rwa [counted] at exact

instance (w : WindowedAggregate) (ps : List SourcedPoint) : Decidable (w.ExactOver ps) :=
  decidable_of_iff _ exactOver_iff.symm

/-- Where giving back is exact over the points, it is exact on the entries of every frame: each of
them holds what some candidate gives. -/
theorem Serves.exactOn (serves : w.Serves ps es) (exact : w.ExactOver ps) {p : SourcedPoint}
    (hp : p ∈ ps) {e : Entry} (he : e ∈ (w.frame p.point).of es) :
    Sliding.ExactOn w.aggregate.function e := by
  intro i hi
  obtain ⟨x, hx, holds⟩ := serves.exists_holds hp he
  obtain ⟨s, counted, rfl⟩ := Entry.input?_eq_some_iff.1 hi
  exact exact p hp x (mem_of_mem_segment hx) s (counted ▸ holds.contribution)

/-- A slide that follows a relation comes to what rescanning comes to, if the relation fixes the
value at each frame to that of the accumulator of the inputs in the frame. -/
theorem Serves.slide_agrees (serves : w.Serves ps es) (plain : w.aggregate.IsPlain)
    {P : Entry → Prop} {R : Sliding → List Entry → Prop}
    (follows : Sliding.Follows w.aggregate.function P R) {content : Sliding} (start : R content [])
    (each : ∀ p ∈ ps, ∀ e ∈ (w.frame p.point).of es, P e ∧ ¬e.Refused w.aggregate.function)
    (value : ∀ p ∈ ps, ∀ s, R s ((w.frame p.point).of es) → s.value =
      (Accumulator.ofInputs w.aggregate.function
        (Entry.inputs ((w.frame p.point).of es))).value) :
    ∃ outs, SlidingWindow.slide es ⟨content, 0, 0⟩ (w.frames ps) = .ok outs ∧
      w.rescan ps = .ok outs := by
  obtain ⟨outs, slid, outcomes⟩ := serves.slide_of_accepted follows start each
  refine ⟨outs, slid, ?_⟩
  rw [rescan, mapM_eq_ok_iff]
  refine outcomes.imp ?_
  rintro p o ⟨hp, s, hs, rfl⟩
  rw [serves.rescanAt plain hp fun e he => (each p hp e he).2, value p hp s hs]

/-- **A deque of exact entries has the value of the accumulator of their inputs**, whatever its
function. For positions the order of time is enough; of best values no entry is exact, and then
there is nothing to compare. -/
theorem value_of_hasPushes {f : AggregateFunction} {r : Retention} (hr : f.retention? = some r)
    (selective : f.isSelective = true) {es : List Entry}
    (ordered : es.Pairwise fun e e' => e.time ≤ e'.time)
    (exact : ∀ e ∈ es, Sliding.ExactOn f e) {s : Sliding} (h : Sliding.HasPushes f r s es) :
    s.value = (Accumulator.ofInputs f (Entry.inputs es)).value := by
  cases h
  have inputs := Entry.map_input_pushes es
  by_cases positional : f.isPositional = true
  · have sorted : InOrderOfTime ((Entry.pushes es).map DequeEntry.input) := by
      rw [inputs]
      exact (Entry.inOrderOfTime_inputs ordered).filter _
    rw [Accumulator.ofInputs, ← inputs]
    exact MonotoneDeque.value_pushAll_positional positional hr sorted
  · -- The other functions that a deque decides are exact on no value, so there is no input.
    have none_exact : ∀ v, f.isExactOn v = false := by
      intro v
      cases f <;> simp_all [AggregateFunction.isSelective, AggregateFunction.isPositional,
        AggregateFunction.isExactOn]
    have no_input : Entry.inputs es = [] := by
      refine List.eq_nil_iff_forall_not_mem.2 fun i hi => ?_
      obtain ⟨e, he, input⟩ := List.mem_filterMap.1 hi
      exact absurd (exact e he i input) (by simp [none_exact])
    rw [no_input] at inputs ⊢
    rw [List.map_eq_nil_iff.1 inputs, Accumulator.ofInputs_nil]
    cases f <;> cases selective <;> cases hr <;> rfl

/-- An evaluation that is exact fails as an evaluation of a formula does, or agrees with a
rescan. -/
theorem evaluate_agrees (ordered : w.candidates.InOrder)
    (group : SourcedPoint.OneGroup ps) (exact : w.ExactOver ps) :
    (∃ reason, w.evaluate w.aggregate.strategy ps = .error (.eval reason)) ∨
      ∃ outs, w.evaluate w.aggregate.strategy ps = .ok outs ∧ w.rescan ps = .ok outs := by
  rcases w.aggregate.strategy_cases with rescans | ⟨⟨plain, free⟩, slides⟩
  · rw [rescans, evaluate]
    rcases fails_or_eq_ok (w.rescan ps) with ⟨reason, h⟩ | ⟨outs, h⟩
    · exact .inl ⟨reason, by rw [h]; rfl⟩
    · exact .inr ⟨outs, by rw [h]; rfl, h⟩
  rcases slides with ⟨incremental, subtractable⟩ | ⟨deque, selective⟩
  · rw [incremental, evaluate]
    rcases slide_cases free group (.accumulator (.empty w.aggregate.function)) with
      ⟨fails, -⟩ | ⟨es, serves, slid⟩
    · exact .inl fails
    · rw [slid]
      refine .inr (serves.slide_agrees plain (Sliding.follows_inputs subtractable) ⟨rfl, by simp⟩
        (fun p hp e he => ?_) fun p hp s hs => ?_)
      · have exactOn := serves.exactOn exact hp he
        exact ⟨exactOn, exactOn.not_refused⟩
      · rw [hs.accumulator]
        rfl
  · obtain ⟨r, hr, content⟩ := dequeContent_of_isSelective selective
    rw [deque, evaluate, content]
    rcases slide_cases free group (.deque ⟨w.aggregate.function, r, []⟩) with
      ⟨fails, -⟩ | ⟨es, serves, slid⟩
    · exact .inl fails
    · rw [slid]
      refine .inr (serves.slide_agrees plain (Sliding.follows_pushes selective r) rfl
        (fun p hp e he => ⟨trivial, (serves.exactOn exact hp he).not_refused⟩)
        fun p hp s hs => ?_)
      exact value_of_hasPushes hr selective (serves.ordered hp ordered _)
        (fun e he => serves.exactOn exact hp he) hs

/-- **A slide that is exact agrees with a rescan.** Whatever the windows of the points are, a slide
that comes to outcomes comes to those of the rescan. It never lacks a way to give back, and it reads
no place past the candidates. The windows may jump in any direction: what one of them left is given
back before the next is taken in. -/
theorem rescan_eq_of_evaluate (ordered : w.candidates.Pairwise StoredEvent.Precedes)
    (group : SourcedPoint.OneGroup ps) (exact : w.ExactOver ps) :
    (∀ outs, w.evaluate w.aggregate.strategy ps = .ok outs → w.rescan ps = .ok outs) ∧
      (∀ f, w.evaluate w.aggregate.strategy ps ≠ .error (.notSubtractable f)) ∧
      ∀ content, ∀ n ∈ SlidingWindow.places ⟨content, 0, 0⟩ (w.frames ps),
        n < w.candidates.length := by
  have inOrder : w.candidates.InOrder := ordered.imp fun h => h.time_le
  refine ⟨fun outs h => ?_, fun f h => ?_, fun content n hn => ?_⟩
  · rcases evaluate_agrees inOrder group exact with ⟨reason, fails⟩ | ⟨outs', found, rescanned⟩
    · rw [fails] at h
      cases h
    · rw [found] at h
      cases h
      exact rescanned
  · rcases evaluate_agrees inOrder group exact with ⟨reason, fails⟩ | ⟨outs', found, -⟩
    · rw [fails] at h
      cases h
    · rw [found] at h
      cases h
  · obtain ⟨f, hf, before⟩ := SlidingWindow.exists_lt_stop hn
    obtain ⟨p, -, rfl⟩ := List.mem_map.1 hf
    exact Nat.lt_of_lt_of_le before (w.candidates.stop_frame_le _)

/-- The sum of integers over two days, at points that are not in the order of time. The slide starts
anew where a window goes back, and comes to the sums of the rescan. -/
theorem rescan_sum_of_visits :
    let w := overVisits .sum (.attr "value") (.last 2 .day) [.int 3, .int 4, .null, .int 5]
    let ps := [patientOn 2, patientOn 4, patientOn 1]
    (w.candidates.Pairwise StoredEvent.Precedes ∧ SourcedPoint.OneGroup ps ∧ w.ExactOver ps) ∧
      w.rescan ps = .ok [.value (.int 7), .value (.int 5), .value (.int 3)] := by
  intro w ps
  have ordered : w.candidates.Pairwise StoredEvent.Precedes := by decide
  have group : SourcedPoint.OneGroup ps := by decide
  have exact : w.ExactOver ps := by decide
  exact ⟨⟨ordered, group, exact⟩, (rescan_eq_of_evaluate ordered group exact).1 _ rfl⟩

end WindowedAggregate
end Hindsight
