import Hindsight.Proofs.Aggregate.Deque
import Hindsight.Proofs.Aggregate.TakingBack
import Hindsight.Proofs.Query.Entries
import Hindsight.Proofs.Store.Segment

/-!
# What slides follows the window

A relation between what slides and the entries in the window is followed if it survives each of the
steps of a slide: starting anew, an entry that enters, and entries that leave (`Sliding.Follows`).
Then it holds at every frame of the slide (`SlidingWindow.slide_of_accepted`), unless the function
refuses an entry of some frame; then the slide fails with the refusal
(`SlidingWindow.slide_of_refused`).

An accumulator that gives back never fails to do so (`Sliding.follows_function`), and where giving
back is exact it is at each frame the accumulator of the inputs in the frame
(`Sliding.follows_inputs`). A deque is at each frame the one of the entries in the frame
(`Sliding.follows_pushes`).
-/

namespace Hindsight

/-- **A relation that a slide keeps.** The entries that enter may be assumed to have a property, and
entries leave from the front, those with a number less than that of the others. -/
structure Sliding.Follows (f : AggregateFunction) (P : Entry → Prop)
    (R : Sliding → List Entry → Prop) : Prop where
  reset {s : Sliding} {es : List Entry} : R s es → R s.reset []
  add {s : Sliding} {es : List Entry} {e : Entry} : R s es → P e → ¬e.Refused f →
    ∃ s', s.add e = .ok s' ∧ R s' (es ++ [e])
  refuse {s : Sliding} {es : List Entry} {e : Entry} : R s es → e.Refused f →
    ∃ reason, s.add e = .error (.eval reason)
  leave {s : Sliding} {old new : List Entry} {n : Nat} : R s (old ++ new) →
    (∀ e ∈ old, e.number < n) → (∀ e ∈ new, n ≤ e.number) →
    ∃ s', old.foldlM Sliding.remove s = .ok s' ∧ R (s'.evictBefore n) new
  accepted {s : Sliding} {es : List Entry} : R s es → ∀ e ∈ es, ¬e.Refused f

namespace Sliding.Follows

variable {f : AggregateFunction} {P : Entry → Prop} {R : Sliding → List Entry → Prop}
  {s : Sliding} {es : List Entry}

/-- Entries that are not refused enter one after the other, by induction on them, and each step
keeps the relation. -/
theorem foldlM_add (follows : Follows f P R) {entered : List Entry} (h : R s es)
    (each : ∀ e ∈ entered, P e ∧ ¬e.Refused f) :
    ∃ s', entered.foldlM Sliding.add s = .ok s' ∧ R s' (es ++ entered) := by
  induction entered generalizing s es with
  | nil => exact ⟨s, rfl, by rwa [List.append_nil]⟩
  | cons e entered ih =>
    obtain ⟨holds, accepted⟩ := each e List.mem_cons_self
    obtain ⟨s₁, added, h₁⟩ := follows.add h holds accepted
    obtain ⟨s₂, rest, h₂⟩ := ih h₁ fun e' he' => each e' (List.mem_cons_of_mem _ he')
    refine ⟨s₂, ?_, by rwa [List.append_cons]⟩
    rw [List.foldlM_cons, added, ok_bind, rest]

/-- The first entry that is refused ends the slide. Those before it have entered, so the relation
still holds when it comes. -/
theorem foldlM_add_of_refused (follows : Follows f P R) {entered : List Entry} (h : R s es)
    (each : ∀ e ∈ entered, P e) (refused : ∃ e ∈ entered, e.Refused f) :
    ∃ reason, entered.foldlM Sliding.add s = .error (.eval reason) := by
  induction entered generalizing s es with
  | nil => simp at refused
  | cons e entered ih =>
    rw [List.foldlM_cons]
    by_cases here : e.Refused f
    · obtain ⟨reason, added⟩ := follows.refuse h here
      exact ⟨reason, by rw [added, error_bind]⟩
    · obtain ⟨s', added, h'⟩ := follows.add h (each e List.mem_cons_self) here
      rw [added, ok_bind]
      refine ih h' (fun e' he' => each e' (List.mem_cons_of_mem _ he')) ?_
      exact (List.exists_mem_cons_iff _ _ _).1 refused |>.resolve_left here

end Sliding.Follows

namespace SlidingWindow

open Sliding (Follows)

variable {f : AggregateFunction} {P : Entry → Prop} {R : Sliding → List Entry → Prop}
  {entries : List Entry} {w : SlidingWindow} {frame : Frame} {frames : List Frame}

/-- The content of a window follows the entries from its start to its stop. -/
def Tracks (w : SlidingWindow) (R : Sliding → List Entry → Prop) (entries : List Entry) : Prop :=
  R w.content (segment w.start w.stop entries)

/-- A window that starts with nothing follows its entries, for there are none in it. -/
theorem tracks_start {content : Sliding} (start : R content []) (entries : List Entry) :
    Tracks ⟨content, 0, 0⟩ R entries := by
  rwa [Tracks, segment_self]

/-- A window that meets a frame still follows its entries, and can slide to the frame by moving both
ends forward. -/
theorem tracks_meet (follows : Follows f P R) (h : w.Tracks R entries) (frame : Frame) :
    (w.meet frame).Tracks R entries ∧ (w.meet frame).start ≤ frame.start ∧
      frame.start ≤ (w.meet frame).stop ∧ (w.meet frame).stop ≤ frame.stop := by
  rw [meet]
  split
  · refine ⟨?_, Nat.le_refl _, Nat.le_refl _, frame.start_le_stop⟩
    rw [Tracks, segment_self]
    exact follows.reset h
  · exact ⟨h, by omega, by omega, by omega⟩

/-- The entries of a segment have numbers inside it, since the number of an entry is its place. -/
theorem number_of_mem_segment (numbered : Entry.Numbered entries) {i j : Nat} {e : Entry}
    (h : e ∈ segment i j entries) : i ≤ e.number ∧ e.number < j := by
  obtain ⟨n, start, stop, he⟩ := mem_segment.1 h
  rw [numbered n e he]
  exact ⟨start, stop⟩

/-- **A step of a slide.** The content follows the entries of the frame if none is refused. The step
starts anew, or takes what enters and lets go what leaves, and the relation survives both. -/
theorem slideTo_of_accepted (follows : Follows f P R) (numbered : Entry.Numbered entries)
    (h : w.Tracks R entries) (each : ∀ e ∈ frame.of entries, P e ∧ ¬e.Refused f) :
    ∃ s, w.slideTo entries frame = .ok ⟨s, frame.start, frame.stop⟩ ∧ R s (frame.of entries) := by
  obtain ⟨tracks, start, between, stop⟩ := tracks_meet follows h frame
  obtain ⟨s₁, entered, h₁⟩ := follows.foldlM_add tracks
    fun e he => each e (segment_subset between he)
  rw [segment_append (Nat.le_trans start between) stop,
    ← segment_append start frame.start_le_stop] at h₁
  obtain ⟨s₂, left, h₂⟩ := follows.leave h₁
    (fun e he => (number_of_mem_segment numbered he).2)
    (fun e he => (number_of_mem_segment numbered he).1)
  refine ⟨s₂.evictBefore frame.start, ?_, h₂⟩
  rw [slideTo, entered, ok_bind, left, ok_bind]
  rfl

/-- A step of a slide fails if an entry of the frame is refused: it is among those that enter, for
one that was there before would have been refused before. -/
theorem slideTo_of_refused (follows : Follows f P R) (h : w.Tracks R entries)
    (each : ∀ e ∈ frame.of entries, P e) (refused : ∃ e ∈ frame.of entries, e.Refused f) :
    ∃ reason, w.slideTo entries frame = .error (.eval reason) := by
  obtain ⟨tracks, start, between, stop⟩ := tracks_meet follows h frame
  -- The entries that stay in the window were accepted when they entered it.
  have new : ∃ e ∈ segment (w.meet frame).stop frame.stop entries, e.Refused f := by
    obtain ⟨e, he, refusal⟩ := refused
    rw [Frame.of, ← segment_append between stop] at he
    rcases List.mem_append.1 he with old | new
    · exact absurd refusal (follows.accepted tracks e (segment_subset start old))
    · exact ⟨e, new, refusal⟩
  obtain ⟨reason, entered⟩ := follows.foldlM_add_of_refused tracks
    (fun e he => each e (segment_subset between he)) new
  refine ⟨reason, ?_⟩
  rw [slideTo, entered, error_bind]

/-- **A slide without refusals** comes, at each frame, to the value of what follows the entries of
the frame. -/
theorem slide_of_accepted (follows : Follows f P R) (numbered : Entry.Numbered entries)
    (h : w.Tracks R entries)
    (each : ∀ frame ∈ frames, ∀ e ∈ frame.of entries, P e ∧ ¬e.Refused f) :
    ∃ outs, slide entries w frames = .ok outs ∧
      List.Forall₂ (fun frame o => ∃ s, R s (frame.of entries) ∧
        o = Entry.outcome (frame.of entries) s.value) frames outs := by
  induction frames generalizing w with
  | nil => exact ⟨[], rfl, .nil⟩
  | cons frame frames ih =>
    obtain ⟨s, step, hs⟩ := slideTo_of_accepted follows numbered h (each frame List.mem_cons_self)
    obtain ⟨outs, rest, houts⟩ := ih (w := ⟨s, frame.start, frame.stop⟩) hs
      fun frame' h' => each frame' (List.mem_cons_of_mem _ h')
    refine ⟨_, ?_, .cons ⟨s, hs, rfl⟩ houts⟩
    rw [slide, step, ok_bind, rest, ok_bind]
    rfl

/-- **A slide with a refusal** fails with it, by induction on the frames: each one is reached with
the relation kept, or the slide has failed already. -/
theorem slide_of_refused (follows : Follows f P R) (numbered : Entry.Numbered entries)
    (h : w.Tracks R entries) (each : ∀ frame ∈ frames, ∀ e ∈ frame.of entries, P e)
    (refused : ∃ frame ∈ frames, ∃ e ∈ frame.of entries, e.Refused f) :
    ∃ reason, slide entries w frames = .error (.eval reason) := by
  induction frames generalizing w with
  | nil => simp at refused
  | cons frame frames ih =>
    have here := each frame List.mem_cons_self
    rw [slide]
    by_cases now : ∃ e ∈ frame.of entries, e.Refused f
    · obtain ⟨reason, step⟩ := slideTo_of_refused follows h here now
      exact ⟨reason, by rw [step, error_bind]⟩
    · have accepted : ∀ e ∈ frame.of entries, P e ∧ ¬e.Refused f := fun e he =>
        ⟨here e he, fun refusal => now ⟨e, he, refusal⟩⟩
      obtain ⟨s, step, hs⟩ := slideTo_of_accepted follows numbered h accepted
      obtain ⟨reason, rest⟩ := ih (w := ⟨s, frame.start, frame.stop⟩) hs
        (fun frame' h' => each frame' (List.mem_cons_of_mem _ h'))
        ((List.exists_mem_cons_iff _ _ _).1 refused |>.resolve_left now)
      exact ⟨reason, by rw [step, ok_bind, rest, error_bind]⟩

/-- **A slide fails** just if the function refuses an entry of some frame. Entries outside of all
frames may be refused without harm. -/
theorem fails_slide_iff (follows : Follows f P R) (numbered : Entry.Numbered entries)
    (h : w.Tracks R entries) (each : ∀ frame ∈ frames, ∀ e ∈ frame.of entries, P e) :
    Fails (slide entries w frames) ↔ ∃ frame ∈ frames, ∃ e ∈ frame.of entries, e.Refused f := by
  constructor
  · intro fails
    by_contra accepted
    push Not at accepted
    obtain ⟨outs, slid, -⟩ := slide_of_accepted follows numbered h
      fun frame hframe e he => ⟨each frame hframe e he, accepted frame hframe e he⟩
    exact not_fails_of_eq_ok slid fails
  · intro refused
    obtain ⟨reason, slid⟩ := slide_of_refused follows numbered h each refused
    exact ⟨_, slid⟩

end SlidingWindow

variable {f : AggregateFunction}

namespace Sliding

/-- An accumulator takes an entry that is not refused, and one that is not counted changes
nothing. -/
theorem add_accumulator {a : Accumulator} {e : Entry} (accepted : ¬e.Refused a.function) :
    (accumulator a).add e = .ok (accumulator (e.input?.elim a a.extend)) := by
  rw [add.eq_def]
  cases h : e.input? with
  | none => rfl
  | some i =>
    have taken := Accumulator.add_of_not_refuses (a := a) (i := i)
      fun refuses => accepted ⟨i, h, refuses⟩
    dsimp only
    rw [taken]
    rfl

/-- An entry that is refused is refused with a reason when it enters, and the slide ends with it. -/
theorem add_accumulator_of_refused {a : Accumulator} {e : Entry} (refused : e.Refused a.function) :
    ∃ reason, (accumulator a).add e = .error (.eval reason) := by
  obtain ⟨i, hi, refuses⟩ := refused
  obtain ⟨reason, fails⟩ := Accumulator.fails_add_iff.2 refuses
  refine ⟨reason, ?_⟩
  rw [add.eq_def, Option.mem_def.1 hi]
  dsimp only
  rw [fails]
  rfl

/-- An entry that leaves gives back its input, and one that was not counted leaves the accumulator
as it is. -/
theorem remove_accumulator (a : Accumulator) (e : Entry) :
    (accumulator a).remove e =
      e.input?.elim (.ok (accumulator a)) fun i => (a.subtract i).map accumulator := by
  rw [remove.eq_def]
  cases e.input? <;> rfl

/-- What slides is an accumulator of the function, and no entry in the window is refused. -/
structure HasFunction (f : AggregateFunction) (s : Sliding) (es : List Entry) : Prop where
  accumulator : ∃ a, s = .accumulator a ∧ a.function = f
  accepted : ∀ e ∈ es, ¬e.Refused f

/-- An accumulator of a subtractable function gives back all entries that it took, by induction on
them. Whether what is left is exact is another question. -/
theorem HasFunction.foldlM_remove (subtractable : f.isSubtractable = true) {s : Sliding}
    {old new : List Entry} (h : HasFunction f s (old ++ new)) :
    ∃ s', old.foldlM Sliding.remove s = .ok s' ∧ HasFunction f s' new := by
  induction old generalizing s with
  | nil => exact ⟨s, rfl, h⟩
  | cons e old ih =>
    obtain ⟨⟨a, rfl, rfl⟩, accepted⟩ := h
    have rest : ∀ e' ∈ old ++ new, ¬e'.Refused a.function := fun e' he' =>
      accepted e' (List.mem_cons_of_mem _ he')
    rw [List.foldlM_cons, remove_accumulator]
    cases hi : e.input? with
    | none => exact ih ⟨⟨a, rfl, rfl⟩, rest⟩
    | some i =>
      obtain ⟨b, taken, same⟩ := Accumulator.subtract_of_not_refuses subtractable
        fun refuses => accepted e List.mem_cons_self ⟨i, hi, refuses⟩
      rw [Option.elim_some, taken]
      exact ih ⟨⟨b, rfl, same⟩, rest⟩

/-- **A subtractable accumulator** slides as long as no entry is refused. This relation says nothing
of values, so it holds without any exactness, and decides when a slide fails. -/
theorem follows_function (subtractable : f.isSubtractable = true) :
    Follows f (fun _ => True) (HasFunction f) where
  reset := by
    rintro s es ⟨⟨a, rfl, rfl⟩, -⟩
    exact ⟨⟨_, rfl, Accumulator.function_empty _⟩, by simp⟩
  add := by
    rintro s es e ⟨⟨a, rfl, rfl⟩, accepted⟩ - here
    refine ⟨_, add_accumulator here, ⟨_, rfl, ?_⟩, ?_⟩
    · cases e.input? with
      | none => rfl
      | some i => exact Accumulator.function_extend a i
    · intro e' he'
      rcases List.mem_append.1 he' with old | new
      · exact accepted e' old
      · rwa [List.mem_singleton.1 new]
  refuse := by
    rintro s es e ⟨⟨a, rfl, rfl⟩, -⟩ refused
    exact add_accumulator_of_refused refused
  leave := by
    intro s old new n h _ _
    obtain ⟨s', removed, h'⟩ := h.foldlM_remove subtractable
    obtain ⟨⟨a, rfl, same⟩, accepted⟩ := h'
    exact ⟨_, removed, ⟨⟨a, rfl, same⟩, accepted⟩⟩
  accepted h := h.accepted

/-- Taking the entry back is exact. -/
def ExactOn (f : AggregateFunction) (e : Entry) : Prop :=
  ∀ i ∈ e.input?, f.isExactOn i.value = true

/-- An entry on which giving back is exact is not refused. -/
theorem ExactOn.not_refused {e : Entry} (h : ExactOn f e) : ¬e.Refused f := by
  rintro ⟨i, hi, refuses⟩
  exact Accumulator.not_refuses_of_isExactOn (h i hi) refuses

/-- What slides is the accumulator of the inputs in the window, on which giving back is exact. -/
structure HasInputs (f : AggregateFunction) (s : Sliding) (es : List Entry) : Prop where
  accumulator : s = .accumulator (.ofInputs f (Entry.inputs es))
  exact : ∀ e ∈ es, ExactOn f e

/-- What has the inputs of some entries has the value that its function makes of these inputs. -/
theorem HasInputs.value {s : Sliding} {es : List Entry} (h : HasInputs f s es) :
    s.value = (Accumulator.ofInputs f (Entry.inputs es)).value := by
  rw [h.accumulator]
  rfl

/-- **Entries leave from the front without a trace**, by induction on them: each one that is counted
is the oldest of the inputs at that moment, and giving back the oldest is exact here. -/
theorem HasInputs.foldlM_remove (subtractable : f.isSubtractable = true) {s : Sliding}
    {old new : List Entry} (h : HasInputs f s (old ++ new)) :
    ∃ s', old.foldlM Sliding.remove s = .ok s' ∧ HasInputs f s' new := by
  induction old generalizing s with
  | nil => exact ⟨s, rfl, h⟩
  | cons e old ih =>
    obtain ⟨rfl, exact⟩ := h
    have rest : ∀ e' ∈ old ++ new, ExactOn f e' := fun e' he' =>
      exact e' (List.mem_cons_of_mem _ he')
    rw [List.foldlM_cons, remove_accumulator, List.cons_append]
    cases hi : e.input? with
    | none =>
      rw [Entry.inputs_cons_none hi]
      exact ih ⟨rfl, rest⟩
    | some i =>
      have all : ∀ j ∈ i :: Entry.inputs (old ++ new), f.isExactOn j.value = true := by
        intro j hj
        rcases List.mem_cons.1 hj with rfl | hj
        · exact exact e List.mem_cons_self j hi
        · obtain ⟨e', he', input⟩ := List.mem_filterMap.1 hj
          exact rest e' he' j input
      rw [Option.elim_some, Entry.inputs_cons_some hi,
        Accumulator.subtract_ofInputs subtractable all]
      exact ih ⟨rfl, rest⟩

/-- **An exact accumulator** is at each frame the one of the inputs in the frame. What enters is
fed, and what leaves is given back without a trace. -/
theorem follows_inputs (subtractable : f.isSubtractable = true) :
    Follows f (ExactOn f) (HasInputs f) where
  reset := by
    rintro s es ⟨rfl, -⟩
    refine ⟨?_, by simp⟩
    rw [reset, Accumulator.function_ofInputs]
    rfl
  add := by
    rintro s es e ⟨rfl, exact⟩ here accepted
    have taken := add_accumulator (a := .ofInputs f (Entry.inputs es)) (e := e)
      (by rwa [Accumulator.function_ofInputs])
    refine ⟨_, taken, ?_, ?_⟩
    · rw [Entry.inputs_append]
      cases hi : e.input? with
      | none =>
        rw [Entry.inputs_cons_none hi, Entry.inputs_nil, List.append_nil]
        rfl
      | some i =>
        rw [Entry.inputs_cons_some hi, Entry.inputs_nil, Accumulator.ofInputs_concat]
        rfl
    · intro e' he'
      rcases List.mem_append.1 he' with old | new
      · exact exact e' old
      · rwa [List.mem_singleton.1 new]
  refuse := by
    rintro s es e ⟨rfl, -⟩ refused
    exact add_accumulator_of_refused (by rwa [Accumulator.function_ofInputs])
  leave := by
    intro s old new n h _ _
    obtain ⟨s', removed, h'⟩ := h.foldlM_remove subtractable
    obtain ⟨rfl, exact⟩ := h'
    exact ⟨_, removed, ⟨rfl, exact⟩⟩
  accepted h e he := (h.exact e he).not_refused

end Sliding

/-- A function that a deque decides refuses no entry, as it refuses no value. -/
theorem Entry.not_refused_of_isSelective (selective : f.isSelective = true) (e : Entry) :
    ¬e.Refused f := by
  rintro ⟨i, -, refuses⟩
  exact Accumulator.not_refuses_of_isSelective selective i.value refuses

/-- What a deque takes of an entry: its number and its input, if it has one that is not null. -/
def Entry.push? (e : Entry) : Option DequeEntry :=
  (e.input?.filter fun i => !i.value.isNull).map (⟨e.number, ·⟩)

/-- What a deque takes of some entries. -/
def Entry.pushes (es : List Entry) : List DequeEntry := es.filterMap push?

/-- What a deque takes carries the number of its entry, so that it can be evicted with it. -/
theorem Entry.exists_number_eq {es : List Entry} {d : DequeEntry} (h : d ∈ pushes es) :
    ∃ e ∈ es, d.number = e.number := by
  obtain ⟨e, he, push⟩ := List.mem_filterMap.1 h
  obtain ⟨i, -, rfl⟩ := Option.map_eq_some_iff.1 push
  exact ⟨e, he, rfl⟩

/-- A deque takes the inputs that are not null, in their order, as an accumulator does. -/
theorem Entry.map_input_pushes (es : List Entry) :
    (pushes es).map DequeEntry.input = Accumulator.counted (inputs es) := by
  rw [pushes, inputs, Accumulator.counted, List.map_filterMap, List.filter_filterMap]
  congr 1
  funext e
  cases h : e.input? with
  | none => simp [push?, h]
  | some i => simp [push?, h, Option.filter]

namespace Sliding

/-- What slides is the deque of the entries in the window. -/
def HasPushes (f : AggregateFunction) (r : Retention) (s : Sliding) (es : List Entry) : Prop :=
  s = .deque ((⟨f, r, []⟩ : MonotoneDeque).pushAll (Entry.pushes es))

/-- What has the pushes of some entries has the value of the deque of these pushes. -/
theorem HasPushes.value {r : Retention} {s : Sliding} {es : List Entry} (h : HasPushes f r s es) :
    s.value = ((⟨f, r, []⟩ : MonotoneDeque).pushAll (Entry.pushes es)).value := by
  rw [h]
  rfl

/-- An entry that enters a deque is pushed if it is counted, and a deque refuses nothing. -/
theorem add_deque (d : MonotoneDeque) (e : Entry) :
    (deque d).add e = .ok (deque (d.pushAll e.push?.toList)) := by
  rw [add.eq_def, Entry.push?]
  cases e.input? with
  | none => rfl
  | some i =>
    dsimp only
    cases h : i.value.isNull <;> simp [h, Option.filter, MonotoneDeque.pushAll]

/-- Entries that leave do not touch a deque: it is cut by their numbers afterwards. -/
theorem foldlM_remove_deque (d : MonotoneDeque) (es : List Entry) :
    es.foldlM Sliding.remove (deque d) = .ok (deque d) := by
  induction es with
  | nil => rfl
  | cons e es ih =>
    have unchanged : (deque d).remove e = .ok (deque d) := by
      rw [remove.eq_def]
      cases e.input? <;> rfl
    rw [List.foldlM_cons, unchanged, ok_bind, ih]

/-- **A deque** is at each frame the one of the entries in the frame, for all values. What was
pushed before the frame is gone once it is evicted. -/
theorem follows_pushes (selective : f.isSelective = true) (r : Retention) :
    Follows f (fun _ => True) (HasPushes f r) where
  reset := by
    rintro s es rfl
    simp only [reset, HasPushes]
    exact congrArg deque (MonotoneDeque.ext_entries (MonotoneDeque.function_pushAll _ _)
      (MonotoneDeque.retention_pushAll _ _) rfl)
  add := by
    rintro s es e rfl - -
    refine ⟨_, add_deque _ e, ?_⟩
    rw [HasPushes, ← MonotoneDeque.pushAll_append, Entry.pushes, Entry.pushes,
      List.filterMap_append]
    cases h : e.push? <;> simp [h]
  refuse := by
    intro s es e _ refused
    exact absurd refused (e.not_refused_of_isSelective selective)
  leave := by
    rintro s old new n rfl before since
    refine ⟨_, foldlM_remove_deque _ old, ?_⟩
    rw [HasPushes, evictBefore, Entry.pushes, List.filterMap_append]
    refine congrArg deque (MonotoneDeque.evictBefore_pushAll_append ⟨f, r, []⟩ ?_ ?_)
    · intro d hd
      obtain ⟨e, he, number⟩ := Entry.exists_number_eq hd
      exact number ▸ before e he
    · intro d hd
      obtain ⟨e, he, number⟩ := Entry.exists_number_eq hd
      exact number ▸ since e he
  accepted _ e _ := e.not_refused_of_isSelective selective

end Sliding
end Hindsight
