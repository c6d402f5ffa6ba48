import Hindsight.Proofs.Eval.ContextFree
import Hindsight.Proofs.Query.Following
import Hindsight.Proofs.Query.Reading
import Hindsight.Proofs.Query.Visits
import Hindsight.Query.Slide

/-!
# Sliding over the points of a group

An aggregate slides only if it is plain and free of context (`Aggregate.strategy_cases`). Then the
entries that are found at one point of a group hold at all of its points
(`WindowedAggregate.slide_cases`), and reading a window at any of them comes to what the entries in
its frame come to (`WindowedAggregate.Serves.rescanAt`). A slide that follows a relation which fixes
the value in each frame comes to these values, over whichever of the points it goes
(`WindowedAggregate.Serves.slide_eq_map`). One pass over the candidates, at any of the points, is
all that a slide needs (`Aggregate.one_pass_serves_group`).
-/

namespace Hindsight

/-- **The aggregates that slide** are plain and free of context, and their function can give back
or is decided by a deque. -/
theorem Aggregate.strategy_cases (a : Aggregate) :
    a.strategy = .rescan ∨
      (a.IsPlain ∧ a.isContextFree = true) ∧
        (a.strategy = .incremental ∧ a.function.isSubtractable = true ∨
          a.strategy = .deque ∧ a.function.isSelective = true) := by
  rw [strategy]
  split
  · exact .inl rfl
  · next slides =>
    simp only [Bool.or_eq_true, not_or, Option.not_isSome_iff_eq_none, Bool.not_eq_true',
      Bool.not_eq_false] at slides
    have plain : a.IsPlain ∧ a.isContextFree = true := ⟨⟨slides.1.1, slides.1.2⟩, slides.2⟩
    split
    · next subtractable => exact .inr ⟨plain, .inl ⟨rfl, subtractable⟩⟩
    · split
      · next selective => exact .inr ⟨plain, .inr ⟨rfl, selective⟩⟩
      · exact .inl rfl

/-- Points of one group, which share their own entity and their context. -/
def SourcedPoint.OneGroup (ps : List SourcedPoint) : Prop :=
  ∀ p ∈ ps, ∀ q ∈ ps, PointGroup.of p.point = PointGroup.of q.point

instance (ps : List SourcedPoint) : Decidable (SourcedPoint.OneGroup ps) :=
  inferInstanceAs (Decidable (∀ p ∈ ps, ∀ q ∈ ps, _))

namespace WindowedAggregate

variable {w : WindowedAggregate} {ps : List SourcedPoint} {es : List Entry}

/-- The deque strategy slides the deque of the function, which is empty at first. -/
theorem dequeContent_of_retention? {f : AggregateFunction} {r : Retention}
    (h : f.retention? = some r) : dequeContent f = .deque ⟨f, r, []⟩ := by
  rw [dequeContent, MonotoneDeque.empty?, h]
  rfl

/-- A function that is decided by the values that can still win slides with a deque, which is empty
at first. -/
theorem dequeContent_of_isSelective {f : AggregateFunction} (selective : f.isSelective = true) :
    ∃ r, f.retention? = some r ∧ dequeContent f = .deque ⟨f, r, []⟩ := by
  rw [← f.isSome_retention?] at selective
  obtain ⟨r, hr⟩ := Option.isSome_iff_exists.1 selective
  exact ⟨r, hr, dequeContent_of_retention? hr⟩

/-- Entries that hold what the candidates give at each of some points, and carry their places. -/
structure Serves (w : WindowedAggregate) (ps : List SourcedPoint) (es : List Entry) : Prop where
  holds : ∀ p ∈ ps, List.Forall₂ (Entry.Holds w.aggregate p.context) w.candidates es
  numbered : Entry.Numbered es

/-- The frames of some points. -/
def frames (w : WindowedAggregate) (ps : List SourcedPoint) : List Frame :=
  ps.map fun p => w.frame p.point

/-- A slide takes the entries of its first point and goes through the frames of all points. -/
theorem slide_cons (w : WindowedAggregate) (content : Sliding) (p : SourcedPoint)
    (ps : List SourcedPoint) :
    w.slide content (p :: ps) = (w.entries p).mapError .eval >>= fun es =>
      SlidingWindow.slide es ⟨content, 0, 0⟩ (w.frames (p :: ps)) := rfl

/-- **A slide over a group** fails since a candidate gives nothing, or goes through the frames with
entries that serve all points. -/
theorem slide_cases (free : w.aggregate.isContextFree = true) (group : SourcedPoint.OneGroup ps)
    (content : Sliding) :
    (∃ reason, w.slide content ps = .error (.eval reason)) ∧
        (∃ p ∈ ps, ∃ x ∈ w.candidates, Fails (w.aggregate.contribution p.context x.event)) ∨
      ∃ es, w.Serves ps es ∧
        w.slide content ps = SlidingWindow.slide es ⟨content, 0, 0⟩ (w.frames ps) := by
  cases ps with
  | nil => exact .inr ⟨[], ⟨by simp, by simp [Entry.Numbered]⟩, rfl⟩
  | cons first rest =>
    rcases fails_or_eq_ok (w.entries first) with fails | ⟨es, hes⟩
    · obtain ⟨x, hx, gives_nothing⟩ := fails_entries_iff.1 fails
      obtain ⟨reason, hreason⟩ := fails
      refine .inl ⟨⟨reason, ?_⟩, first, List.mem_cons_self, x, hx, gives_nothing⟩
      rw [slide_cons, hreason]
      rfl
    · obtain ⟨holds, numbered⟩ := entries_spec hes
      have everywhere : ∀ p ∈ first :: rest,
          List.Forall₂ (Entry.Holds w.aggregate p.context) w.candidates es := by
        intro p hp
        refine holds.imp fun x e he => ⟨?_, he.time⟩
        rw [Aggregate.contribution_eq_of_group free (group p hp first List.mem_cons_self)]
        exact he.contribution
      refine .inr ⟨es, ⟨everywhere, numbered⟩, ?_⟩
      rw [slide_cons, hes]
      rfl

/-- A slide over a group that comes to outcomes goes through the frames with entries that serve all
points. -/
theorem exists_serves (free : w.aggregate.isContextFree = true) (group : SourcedPoint.OneGroup ps)
    {content : Sliding} {outs : List Outcome} (h : w.slide content ps = .ok outs) :
    ∃ es, w.Serves ps es ∧
      SlidingWindow.slide es ⟨content, 0, 0⟩ (w.frames ps) = .ok outs := by
  rcases slide_cases free group content with ⟨⟨reason, fails⟩, -⟩ | ⟨es, serves, slid⟩
  · rw [fails] at h
    cases h
  · exact ⟨es, serves, slid ▸ h⟩

/-- **An aggregate rescans or slides,** at all points alike. It slides only if it is free of
context, and then with a content that does not depend on the points. -/
theorem evaluate_cases (w : WindowedAggregate) :
    (∀ ps, w.evaluate w.aggregate.strategy ps = (w.rescan ps).mapError .eval) ∨
      w.aggregate.isContextFree = true ∧
        ∃ content, ∀ ps, w.evaluate w.aggregate.strategy ps = w.slide content ps := by
  rcases w.aggregate.strategy_cases with rescans | ⟨⟨-, free⟩, ⟨slides, -⟩ | ⟨slides, -⟩⟩
  · exact .inl fun ps => by rw [rescans, evaluate]
  · exact .inr ⟨free, _, fun ps => by rw [slides, evaluate]⟩
  · exact .inr ⟨free, _, fun ps => by rw [slides, evaluate]⟩

/-- What a rescan comes to at some points it comes to at each part of them, since it reads each
window anew. -/
theorem exists_rescan_of_subset {outs : List Outcome} (h : w.rescan ps = .ok outs) :
    ∃ F : SourcedPoint → Outcome, ∀ ps' ⊆ ps, w.rescan ps' = .ok (ps'.map F) :=
  have : Nonempty Outcome := ⟨.value .null⟩
  exists_mapM_eq_ok_map h

namespace Serves

/-- Two lists that correspond give the same items as far as corresponding items do. It carries
statements about events over to their entries. -/
theorem filterMap_eq_of_forall₂ {α β γ : Type} {R : α → β → Prop} {f : α → Option γ}
    {g : β → Option γ} (same : ∀ a b, R a b → f a = g b) {as : List α} {bs : List β}
    (h : List.Forall₂ R as bs) : as.filterMap f = bs.filterMap g := by
  induction h with
  | nil => rfl
  | cons hab _ ih => rw [List.filterMap_cons, List.filterMap_cons, same _ _ hab, ih]

/-- **A slide over some of the points** goes through their frames with the same entries, whichever
point the entries were found at. -/
theorem slide_eq_of_subset (serves : w.Serves ps es) {ps' : List SourcedPoint} (sub : ps' ⊆ ps)
    (content : Sliding) :
    w.slide content ps' = SlidingWindow.slide es ⟨content, 0, 0⟩ (w.frames ps') := by
  cases ps' with
  | nil => rfl
  | cons first rest =>
    have holds := serves.holds first (sub List.mem_cons_self)
    rw [slide_cons, entries_eq_of_holds holds serves.numbered]
    rfl

/-- Entries that serve some points serve each part of them, as what they are asked at each point
stays the same. -/
theorem of_subset (serves : w.Serves ps es) {ps' : List SourcedPoint} (sub : ps' ⊆ ps) :
    w.Serves ps' es :=
  ⟨fun p hp => serves.holds p (sub hp), serves.numbered⟩

/-- Every candidate gives something at each of the points, because the entries were found and hold
it. -/
theorem not_fails (serves : w.Serves ps es) {p : SourcedPoint} (hp : p ∈ ps) {x : StoredEvent}
    (hx : x ∈ w.candidates) : ¬Fails (w.aggregate.contribution p.context x.event) := by
  obtain ⟨e, -, holds⟩ := exists_mem_of_forall₂ (serves.holds p hp) hx
  exact not_fails_of_eq_ok holds.contribution

/-- The entries in the frame of a point hold what the events in its window give, one by one in the
same order. -/
theorem holds_frame (serves : w.Serves ps es) {p : SourcedPoint} (hp : p ∈ ps) :
    List.Forall₂ (Entry.Holds w.aggregate p.context)
      ((w.frame p.point).of w.candidates) ((w.frame p.point).of es) :=
  forall₂_segment (serves.holds p hp) _ _

/-- An entry in the frame of a point holds what some event in its window gives. -/
theorem exists_holds (serves : w.Serves ps es) {p : SourcedPoint} (hp : p ∈ ps) {e : Entry}
    (he : e ∈ (w.frame p.point).of es) :
    ∃ x ∈ (w.frame p.point).of w.candidates, Entry.Holds w.aggregate p.context x e :=
  exists_mem_of_forall₂ (serves.holds_frame hp).flip he

/-- An event in the window of a point has an entry in the frame, at the same place. -/
theorem exists_entry (serves : w.Serves ps es) {p : SourcedPoint} (hp : p ∈ ps) {x : StoredEvent}
    (hx : x ∈ (w.frame p.point).of w.candidates) :
    ∃ e ∈ (w.frame p.point).of es, Entry.Holds w.aggregate p.context x e :=
  exists_mem_of_forall₂ (serves.holds_frame hp) hx

/-- **The aggregate at a point** is what the entries in its frame come to, if none is refused. This
is what slides are compared with. -/
theorem rescanAt (serves : w.Serves ps es) (plain : w.aggregate.IsPlain) {p : SourcedPoint}
    (hp : p ∈ ps) (accepted : ∀ e ∈ (w.frame p.point).of es, ¬e.Refused w.aggregate.function) :
    w.rescanAt p =
      .ok (Entry.outcome ((w.frame p.point).of es)
        (Accumulator.ofInputs w.aggregate.function
          (Entry.inputs ((w.frame p.point).of es))).value) :=
  read_eq_of_accepted plain (serves.holds_frame hp) accepted
    (r := .start w.aggregate.function) (Accumulator.ofInputs_nil _).symm

/-- **The outcomes of a slide that follows a relation,** point by point: at each of them the content
has the relation to the entries of the frame, and the outcome is read off it. -/
theorem slide_of_accepted (serves : w.Serves ps es) {P : Entry → Prop}
    {R : Sliding → List Entry → Prop} {content : Sliding}
    (follows : Sliding.Follows w.aggregate.function P R) (start : R content [])
    (each : ∀ p ∈ ps, ∀ e ∈ (w.frame p.point).of es, P e ∧ ¬e.Refused w.aggregate.function) :
    ∃ outs, SlidingWindow.slide es ⟨content, 0, 0⟩ (w.frames ps) = .ok outs ∧
      List.Forall₂ (fun p o => p ∈ ps ∧ ∃ s, R s ((w.frame p.point).of es) ∧
        o = Entry.outcome ((w.frame p.point).of es) s.value) ps outs := by
  obtain ⟨outs, slid, outcomes⟩ := SlidingWindow.slide_of_accepted follows serves.numbered
    (SlidingWindow.tracks_start start es) (List.forall_mem_map.2 each)
  rw [List.forall₂_map_left_iff] at outcomes
  exact ⟨outs, slid, (List.forall₂_and_left ps outs).2 ⟨fun p hp => hp, outcomes⟩⟩

/-- **A slide over some of the points,** if the relation that it follows fixes the value in each
frame. -/
theorem slide_eq_map (serves : w.Serves ps es) {P : Entry → Prop} {R : Sliding → List Entry → Prop}
    {content : Sliding} (follows : Sliding.Follows w.aggregate.function P R) (start : R content [])
    {V : List Entry → Value} (value : ∀ {s : Sliding} {es : List Entry}, R s es → s.value = V es)
    (each : ∀ p ∈ ps, ∀ e ∈ (w.frame p.point).of es, P e ∧ ¬e.Refused w.aggregate.function)
    {ps' : List SourcedPoint} (sub : ps' ⊆ ps) :
    w.slide content ps' = .ok (ps'.map fun p =>
      Entry.outcome ((w.frame p.point).of es) (V ((w.frame p.point).of es))) := by
  obtain ⟨outs, slid, outcomes⟩ := (serves.of_subset sub).slide_of_accepted follows start
    fun p hp => each p (sub hp)
  rw [serves.slide_eq_of_subset sub, slid, Except.ok.injEq, eq_comm, ← List.forall₂_eq_eq_eq,
    List.forall₂_map_left_iff]
  refine outcomes.imp ?_
  rintro p o ⟨-, s, hs, rfl⟩
  rw [value hs]

end Serves

/-- What the candidates give at one point of a group they give at all of its points, if the
aggregate is free of context. So they are found once. -/
theorem entries_eq_of_group (free : w.aggregate.isContextFree = true) {p q : SourcedPoint}
    (h : PointGroup.of p.point = PointGroup.of q.point) : w.entries p = w.entries q :=
  entries_congr fun e => Aggregate.contribution_eq_of_group free h e

end WindowedAggregate

/-- **One pass serves a group.** At points with the same own entity and the same context, whatever
their instants, events and sources, an event gives the same to an aggregate that is free of context,
failures and all. So a slide over a group may find what the candidates give at any of its points,
and the candidates are evaluated once for all of them. -/
theorem Aggregate.one_pass_serves_group {a : Aggregate} (free : a.isContextFree = true) :
    (∀ p q : SourcedPoint, PointGroup.of p.point = PointGroup.of q.point →
      ∀ e : Event, a.contribution p.context e = a.contribution q.context e) ∧
    ∀ (w : WindowedAggregate) (ps : List SourcedPoint), w.aggregate = a →
      SourcedPoint.OneGroup ps → ∀ p ∈ ps, ∀ content : Sliding,
        w.slide content ps = (w.entries p).mapError .eval >>= fun es =>
          SlidingWindow.slide es ⟨content, 0, 0⟩ (w.frames ps) := by
  refine ⟨fun p q h e => contribution_eq_of_group free h e, ?_⟩
  rintro w ps rfl group p hp content
  cases ps with
  | nil => cases hp
  | cons first rest =>
    rw [WindowedAggregate.slide_cons,
      WindowedAggregate.entries_eq_of_group free (group first List.mem_cons_self p hp)]

section Visits

/-- The sum over all earlier visits of the patient that is observed. -/
def sumOfOwn : WindowedAggregate where
  aggregate :=
    ⟨.sum, .attr "value", .past,
      some (.binary (.entity .event "patient") (.compare .eq) (.entity .observation "patient")),
      none, none, none⟩
  candidates := visits [.int 2, .int 3, .int 4]
  inclusive := false

/-- The patient at the visit of a day, taken from the visit. -/
def patientAtVisit (day : Nat) : SourcedPoint where
  point := (patientOn day).point.withEventId "visit"
  source := (sumOfOwn.candidates[day]?).map StoredEvent.event

/-- The visits are tried at the last point, which has an event, and serve the first, which has
none. -/
theorem Aggregate.one_pass_serves_visits :
    let p := patientOn 1
    let q := patientAtVisit 2
    let content := Sliding.accumulator (.empty .sum)
    sumOfOwn.aggregate.isContextFree = true ∧
      (PointGroup.of p.point = PointGroup.of q.point ∧
        ∀ e, sumOfOwn.aggregate.contribution p.context e =
          sumOfOwn.aggregate.contribution q.context e) ∧
        SourcedPoint.OneGroup [p, q] ∧
          sumOfOwn.slide content [p, q] = (sumOfOwn.entries q).mapError .eval >>= fun es =>
            SlidingWindow.slide es ⟨content, 0, 0⟩ (sumOfOwn.frames [p, q]) := by
  intro p q content
  have free : sumOfOwn.aggregate.isContextFree = true := rfl
  have alike : PointGroup.of p.point = PointGroup.of q.point := by decide
  have group : SourcedPoint.OneGroup [p, q] := by decide
  have serves := one_pass_serves_group free
  exact ⟨free, ⟨alike, serves.1 p q alike⟩, group,
    serves.2 sumOfOwn [p, q] rfl group q (List.mem_cons_of_mem _ List.mem_cons_self) content⟩

end Visits

end Hindsight
