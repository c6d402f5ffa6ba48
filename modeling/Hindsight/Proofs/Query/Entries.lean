import Hindsight.Proofs.Aggregate.Accumulator
import Hindsight.Proofs.Except
import Hindsight.Proofs.Store.Segment
import Hindsight.Query.Slide

/-!
# Entries of a slide, and those it reads

A slide starts with one entry for each candidate: what the candidate gives at the first point, its
time and its place (`WindowedAggregate.entries_spec`), and there are no other such entries
(`WindowedAggregate.entries_eq_of_holds`). Finding the entries fails just if some candidate gives
nothing, wherever it stands (`WindowedAggregate.fails_entries_iff`).

A slide reads entries that enter the window, entries that leave it, and the entries of each frame
(`SlidingWindow.places`). It depends on no other entry (`SlidingWindow.slide_congr`), and all of
them lie before the end of some frame (`SlidingWindow.exists_lt_stop`).
-/

namespace Hindsight

/-- An entry holds what an aggregate makes of an event at a point. -/
structure Entry.Holds (a : Aggregate) (point : EvalContext) (x : StoredEvent) (e : Entry) :
    Prop where
  contribution : a.contribution point x.event = .ok e.contribution
  time : e.time = x.event.time

/-- The input of an entry is the value of what it counts with, at its time. Other entries have none:
those passed over and those on which the filter failed. -/
theorem Entry.input?_eq_some_iff {e : Entry} {i : Input} :
    e.input? = some i ↔ ∃ s, e.contribution = .counted s ∧ i = ⟨e.time, s.value⟩ := by
  rw [input?]
  constructor
  · intro h
    split at h
    · next s counted => exact ⟨s, counted, (Option.some.inj h).symm⟩
    · cases h
  · rintro ⟨s, counted, rfl⟩
    rw [counted]

/-- The function refuses the value that an entry counts with. -/
def Entry.Refused (f : AggregateFunction) (e : Entry) : Prop :=
  ∃ i ∈ e.input?, Accumulator.Refuses f i.value

/-- The inputs of entries that are counted. -/
def Entry.inputs (es : List Entry) : List Input := es.filterMap input?

/-- No entries have no inputs. -/
theorem Entry.inputs_nil : inputs [] = [] := rfl

/-- The inputs of two lists of entries are those of the first and then those of the second. -/
theorem Entry.inputs_append (es es' : List Entry) : inputs (es ++ es') = inputs es ++ inputs es' :=
  List.filterMap_append

/-- An entry that is not counted has no input. -/
theorem Entry.inputs_cons_none {e : Entry} (h : e.input? = none) (es : List Entry) :
    inputs (e :: es) = inputs es :=
  List.filterMap_cons_none h

/-- An entry that is counted has one input, before those of the entries behind it. -/
theorem Entry.inputs_cons_some {e : Entry} {i : Input} (h : e.input? = some i)
    (es : List Entry) : inputs (e :: es) = i :: inputs es :=
  List.filterMap_cons_some h

/-- What entries come to: the reason of the first filter that failed on one, or a value. -/
def Entry.outcome (es : List Entry) (v : Value) : Outcome :=
  match es.findSome? failure? with
  | some reason => .filterFailed reason
  | none => .value v

/-- Entries carry their places as numbers. -/
def Entry.Numbered (es : List Entry) : Prop :=
  ∀ (n : Nat) (e : Entry), es[n]? = some e → e.number = n

namespace WindowedAggregate

variable {w : WindowedAggregate} {p q : SourcedPoint} {es : List Entry}

/-- The entries are the same at two points at which every event gives the same, as they are found
one by one. -/
theorem entries_congr
    (h : ∀ e, w.aggregate.contribution p.context e = w.aggregate.contribution q.context e) :
    w.entries p = w.entries q := by
  rw [entries, entries]
  refine congrArg (List.mapM · _) (funext fun x => ?_)
  rw [h]

/-- **The entries hold what the candidates give,** and carry their places. There is one for each
candidate, in the same order, so a frame of candidates is a frame of entries. -/
theorem entries_spec (h : w.entries p = .ok es) :
    List.Forall₂ (Entry.Holds w.aggregate p.context) w.candidates es ∧ Entry.Numbered es := by
  have each := mapM_eq_ok_iff.1 h
  have same (x : StoredEvent × Nat) (e : Entry)
      (hx : (w.aggregate.contribution p.context x.1.event).map
        (fun c => (⟨x.2, x.1.event.time, c⟩ : Entry)) = .ok e) :
      Entry.Holds w.aggregate p.context x.1 e ∧ e.number = x.2 := by
    obtain ⟨c, hc, rfl⟩ := map_eq_ok_iff.1 hx
    exact ⟨⟨hc, rfl⟩, rfl⟩
  constructor
  · rw [← List.zipIdx_map_fst 0 w.candidates, List.forall₂_map_left_iff]
    exact each.imp fun x e hx => (same x e hx).1
  · intro n e he
    obtain ⟨inside, rfl⟩ := List.getElem?_eq_some_iff.1 he
    have place : n < w.candidates.zipIdx.length := each.length_eq ▸ inside
    have number := (same _ _ (List.forall₂_iff_get.1 each |>.2 n place inside)).2
    simpa using number

/-- There are no other entries that hold what the candidates give and carry their places. So what is
known of entries determines them. -/
theorem entries_eq_of_holds
    (holds : List.Forall₂ (Entry.Holds w.aggregate p.context) w.candidates es)
    (numbered : Entry.Numbered es) : w.entries p = .ok es := by
  obtain ⟨length, each⟩ := List.forall₂_iff_get.1 holds
  rw [entries, mapM_eq_ok_iff, List.forall₂_iff_get]
  refine ⟨by rw [List.length_zipIdx, length], fun n inside inside' => ?_⟩
  have candidate : n < w.candidates.length := length ▸ inside'
  obtain ⟨contribution, time⟩ := each n candidate inside'
  have number := numbered n _ (List.getElem?_eq_getElem inside')
  simp only [List.get_eq_getElem, List.getElem_zipIdx, Nat.zero_add] at contribution time ⊢
  rw [contribution, ← time]
  exact congrArg (fun i => Except.ok (Entry.mk i es[n].time es[n].contribution)) number.symm

/-- **Finding the entries fails** just if some candidate gives nothing, wherever it stands. No
window has to contain it. -/
theorem fails_entries_iff :
    Fails (w.entries p) ↔
      ∃ x ∈ w.candidates, Fails (w.aggregate.contribution p.context x.event) := by
  rw [entries, fails_mapM_iff]
  simp only [fails_map_iff]
  constructor
  · rintro ⟨⟨x, n⟩, hx, fails⟩
    exact ⟨x, List.fst_mem_of_mem_zipIdx hx, fails⟩
  · rintro ⟨x, hx, fails⟩
    rw [← List.zipIdx_map_fst 0 w.candidates] at hx
    obtain ⟨y, hy, rfl⟩ := List.mem_map.1 hx
    exact ⟨y, hy, fails⟩

end WindowedAggregate

/-- The places from one on that lie before another. -/
def placesBetween (i j : Nat) : List Nat := List.range' i (j - i)

/-- The places between two bounds are those from the first one on and before the second one. -/
theorem mem_placesBetween {i j n : Nat} : n ∈ placesBetween i j ↔ i ≤ n ∧ n < j := by
  rw [placesBetween, List.mem_range'_1]
  omega

namespace SlidingWindow

variable {entries entries' : List Entry} {w : SlidingWindow} {f : Frame} {frames : List Frame}

/-- The places that are read on the way to a frame: those of the entries that enter, of those that
leave, and of those in the frame, where a failed filter is looked for. -/
def placesTo (w : SlidingWindow) (f : Frame) : List Nat :=
  placesBetween (w.meet f).stop f.stop ++ placesBetween (w.meet f).start f.start ++
    placesBetween f.start f.stop

/-- The places that are read from frame to frame. -/
def places (w : SlidingWindow) : List Frame → List Nat
  | [] => []
  | f :: rest => w.placesTo f ++ places ⟨w.content, f.start, f.stop⟩ rest

/-- Where a window starts anew does not depend on its content, but on its bounds and on those of the
next frame. -/
theorem placesTo_content (s s' : Sliding) (i j : Nat) (f : Frame) :
    placesTo ⟨s, i, j⟩ f = placesTo ⟨s', i, j⟩ f := by
  simp only [placesTo, meet]
  split <;> rfl

/-- Which places a slide reads is told by its bounds and its frames, and not by what it holds. -/
theorem places_content (s s' : Sliding) (i j : Nat) (frames : List Frame) :
    places ⟨s, i, j⟩ frames = places ⟨s', i, j⟩ frames := by
  induction frames generalizing i j with
  | nil => rfl
  | cons f frames ih => rw [places, places, placesTo_content s s', ih]

/-- Entries with the same at each place between two bounds have the same segment there. -/
theorem segment_congr_places {i j : Nat}
    (h : ∀ n ∈ placesBetween i j, entries[n]? = entries'[n]?) :
    segment i j entries = segment i j entries' :=
  segment_congr fun n start stop => h n (mem_placesBetween.2 ⟨start, stop⟩)

/-- A step of a slide depends only on the entries at the places that it reads: those that enter,
those that leave, and those of the frame. -/
theorem slideTo_congr (h : ∀ n ∈ w.placesTo f, entries[n]? = entries'[n]?) :
    w.slideTo entries f = w.slideTo entries' f := by
  simp only [placesTo, List.mem_append] at h
  have enter := segment_congr_places fun n hn => h n (.inl (.inl hn))
  have leave := segment_congr_places fun n hn => h n (.inl (.inr hn))
  rw [slideTo, slideTo, enter, leave]

/-- A window that slides to a frame ends up there, with the bounds of the frame, so the next step
starts from it. -/
theorem exists_content_of_slideTo {w' : SlidingWindow} (h : w.slideTo entries f = .ok w') :
    ∃ s, w' = ⟨s, f.start, f.stop⟩ := by
  obtain ⟨entered, -, h⟩ := bind_eq_ok_iff.1 h
  obtain ⟨left, -, h⟩ := bind_eq_ok_iff.1 h
  exact ⟨_, (Except.ok.inj h).symm⟩

/-- **A slide depends only on the entries at the places that it reads**, by induction on the frames:
each step leaves the same window on both sides. -/
theorem slide_congr (h : ∀ n ∈ w.places frames, entries[n]? = entries'[n]?) :
    slide entries w frames = slide entries' w frames := by
  induction frames generalizing w with
  | nil => rfl
  | cons f frames ih =>
    simp only [places, List.mem_append] at h
    have here : f.of entries = f.of entries' := by
      refine segment_congr_places fun n hn => h n (.inl ?_)
      exact List.mem_append_right _ hn
    have step := slideTo_congr fun n hn => h n (.inl hn)
    rw [slide, slide, step]
    cases slid : w.slideTo entries' f with
    | error e => rfl
    | ok w' =>
      obtain ⟨s, rfl⟩ := exists_content_of_slideTo slid
      have rest := ih (w := ⟨s, f.start, f.stop⟩) fun n hn =>
        h n (.inr (places_content s w.content _ _ frames ▸ hn))
      rw [ok_bind, ok_bind, rest, outcome, outcome, here]

/-- **A slide to the first frames** comes to the first outcomes. What comes later has no effect on
what was reported. -/
theorem slide_take {outs : List Outcome} (h : slide entries w frames = .ok outs) (n : Nat) :
    slide entries w (frames.take n) = .ok (outs.take n) := by
  induction frames generalizing w n outs with
  | nil =>
    cases h
    rw [List.take_nil, List.take_nil]
    rfl
  | cons f frames ih =>
    cases n with
    | zero => rfl
    | succ n =>
      obtain ⟨w', slid, h⟩ := bind_eq_ok_iff.1 h
      obtain ⟨rest, slid_on, h⟩ := bind_eq_ok_iff.1 h
      cases h
      rw [List.take_succ_cons, List.take_succ_cons, slide, slid, ok_bind, ih slid_on n, ok_bind]
      rfl

/-- **All places that a slide reads** lie before the end of a frame, by induction on the frames. So
entries behind all windows are never looked at. -/
theorem exists_lt_stop {n : Nat} (h : n ∈ w.places frames) : ∃ f ∈ frames, n < f.stop := by
  induction frames generalizing w with
  | nil => simp [places] at h
  | cons f frames ih =>
    rw [places, List.mem_append] at h
    rcases h with here | later
    · refine ⟨f, List.mem_cons_self, ?_⟩
      have ordered := f.start_le_stop
      simp only [placesTo, List.mem_append, mem_placesBetween] at here
      omega
    · obtain ⟨f', hf', before⟩ := ih later
      exact ⟨f', List.mem_cons_of_mem _ hf', before⟩

end SlidingWindow

end Hindsight
