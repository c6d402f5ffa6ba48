import Hindsight.Proofs.Query.Group
import Hindsight.Proofs.Query.Visits

/-!
# When an evaluation fails

A slide asks every candidate once what it gives, so it fails if one of them gives nothing, also one
that lies in no window. It takes in every entry of a window, so it fails if the function refuses
one, also one behind a filter failure that decides the outcome (`WindowedAggregate.Upsets`). A
rescan reads only the windows, and each of them up to its first filter failure.
-/

namespace Hindsight

/-- An entry is refused just if its event spoils the query, so refusals can be spoken of without
entries. -/
theorem Entry.Holds.refused_iff {a : Aggregate} {point : EvalContext} {x : StoredEvent} {e : Entry}
    (h : e.Holds a point x) : e.Refused a.function ↔ a.Spoils point x := by
  constructor
  · rintro ⟨i, hi, refuses⟩
    obtain ⟨s, counted, rfl⟩ := input?_eq_some_iff.1 hi
    exact .inr ⟨s, counted ▸ h.contribution, refuses⟩
  · rintro (fails | ⟨s, counted, refuses⟩)
    · exact absurd fails (not_fails_of_eq_ok h.contribution)
    · rw [h.contribution] at counted
      exact ⟨_, input?_eq_some_iff.2 ⟨s, Except.ok.inj counted, rfl⟩, refuses⟩

namespace WindowedAggregate

variable {w : WindowedAggregate} {ps : List SourcedPoint}

/-- An event upsets a slide at a point: it gives nothing, or it lies in the window of the point and
spoils the query. -/
def Upsets (w : WindowedAggregate) (p : SourcedPoint) (x : StoredEvent) : Prop :=
  Fails (w.aggregate.contribution p.context x.event) ∨
    x ∈ (w.frame p.point).of w.candidates ∧ w.aggregate.Spoils p.context x

/-- A slide over entries at hand fails just if the function refuses an entry in the frame of some
point. -/
theorem Serves.fails_slide_iff {es : List Entry} (serves : w.Serves ps es)
    {R : Sliding → List Entry → Prop} {content : Sliding}
    (follows : Sliding.Follows w.aggregate.function (fun _ => True) R) (start : R content []) :
    Fails (SlidingWindow.slide es ⟨content, 0, 0⟩ (w.frames ps)) ↔
      ∃ p ∈ ps, ∃ x ∈ w.candidates, w.Upsets p x := by
  rw [SlidingWindow.fails_slide_iff follows serves.numbered (SlidingWindow.tracks_start start es)
    fun _ _ _ _ => trivial]
  constructor
  · rintro ⟨frame, hframe, e, he, refused⟩
    obtain ⟨p, hp, rfl⟩ := List.mem_map.1 hframe
    obtain ⟨x, hx, holds⟩ := serves.exists_holds hp he
    exact ⟨p, hp, x, mem_of_mem_segment hx, .inr ⟨hx, holds.refused_iff.1 refused⟩⟩
  · rintro ⟨p, hp, x, hx, gives_nothing | ⟨inside, spoils⟩⟩
    · exact absurd gives_nothing (serves.not_fails hp hx)
    · obtain ⟨e, he, holds⟩ := serves.exists_entry hp inside
      exact ⟨_, List.mem_map_of_mem hp, e, he, holds.refused_iff.2 spoils⟩

/-- **An evaluation by sliding fails** just if a candidate upsets it at some point: one that gives
nothing, wherever it is, or one in a window that the function refuses. -/
theorem fails_evaluate_iff (slides : w.aggregate.strategy ≠ .rescan)
    (group : SourcedPoint.OneGroup ps) :
    Fails (w.evaluate w.aggregate.strategy ps) ↔ ∃ p ∈ ps, ∃ x ∈ w.candidates, w.Upsets p x := by
  obtain ⟨⟨-, free⟩, strategy⟩ := w.aggregate.strategy_cases.resolve_left slides
  -- Entries that cannot be found end the slide before its first step.
  have reduce (content : Sliding)
      (run : ∀ es, w.Serves ps es →
        (Fails (SlidingWindow.slide es ⟨content, 0, 0⟩ (w.frames ps)) ↔
          ∃ p ∈ ps, ∃ x ∈ w.candidates, w.Upsets p x)) :
      Fails (w.slide content ps) ↔ ∃ p ∈ ps, ∃ x ∈ w.candidates, w.Upsets p x := by
    rcases slide_cases free group content with
      ⟨⟨reason, fails⟩, p, hp, x, hx, gives_nothing⟩ | ⟨es, serves, slid⟩
    · exact iff_of_true ⟨_, fails⟩ ⟨p, hp, x, hx, .inl gives_nothing⟩
    · rw [slid]
      exact run es serves
  rcases strategy with ⟨incremental, subtractable⟩ | ⟨deque, selective⟩
  · rw [incremental, evaluate]
    refine reduce _ fun es serves =>
      serves.fails_slide_iff (Sliding.follows_function subtractable) ?_
    exact ⟨⟨_, rfl, Accumulator.function_empty _⟩, by simp⟩
  · obtain ⟨r, -, content⟩ := dequeContent_of_isSelective selective
    rw [deque, evaluate, content]
    exact reduce _ fun es serves => serves.fails_slide_iff (Sliding.follows_pushes selective r) rfl

/-- A rescan spoils at an event that also upsets the slide. So the slide fails wherever the rescan
does. -/
theorem upsets_of_mem_untilFailure {p : SourcedPoint} {x : StoredEvent}
    (h : x ∈ w.aggregate.untilFailure p.context ((w.frame p.point).of w.candidates))
    (spoils : w.aggregate.Spoils p.context x) : x ∈ w.candidates ∧ w.Upsets p x := by
  have inside := (List.takeWhile_sublist _).subset h
  exact ⟨mem_of_mem_segment inside, .inr ⟨inside, spoils⟩⟩

/-- **When a slide fails and a rescan does not.** A rescan that fails makes the slide fail. The two
fail together just if a candidate that upsets the slide comes with one that spoils the query before
the first filter failure of some window. A slide evaluates every candidate at once, a rescan only
those in a window. -/
theorem fails_evaluate_iff_fails_rescan_iff (slides : w.aggregate.strategy ≠ .rescan)
    (group : SourcedPoint.OneGroup ps) :
    (Fails (w.rescan ps) → Fails (w.evaluate w.aggregate.strategy ps)) ∧
      ((Fails (w.evaluate w.aggregate.strategy ps) ↔ Fails (w.rescan ps)) ↔
        ((∃ p ∈ ps, ∃ x ∈ w.candidates, w.Upsets p x) →
          ∃ p ∈ ps,
            ∃ x ∈ w.aggregate.untilFailure p.context ((w.frame p.point).of w.candidates),
              w.aggregate.Spoils p.context x)) := by
  have plain := (w.aggregate.strategy_cases.resolve_left slides).1.1
  rw [fails_evaluate_iff slides group, fails_rescan_iff plain]
  have spoilt : (∃ p ∈ ps,
      ∃ x ∈ w.aggregate.untilFailure p.context ((w.frame p.point).of w.candidates),
        w.aggregate.Spoils p.context x) → ∃ p ∈ ps, ∃ x ∈ w.candidates, w.Upsets p x := by
    rintro ⟨p, hp, x, hx, spoils⟩
    exact ⟨p, hp, x, upsets_of_mem_untilFailure hx spoils⟩
  exact ⟨spoilt, Iff.mp, fun upset => ⟨upset, spoilt⟩⟩

/-- A text in the window has no sum, in either evaluation. So the two fail together here. -/
theorem fails_sum_of_text :
    let w := overVisits .sum (.attr "value") (.last 2 .day) [.text "ab"]
    (w.aggregate.strategy ≠ .rescan ∧ SourcedPoint.OneGroup [patientOn 1]) ∧
      Fails (w.evaluate w.aggregate.strategy [patientOn 1]) := by
  intro w
  have slides : w.aggregate.strategy ≠ .rescan := by decide
  have group : SourcedPoint.OneGroup [patientOn 1] := by decide
  exact ⟨⟨slides, group⟩, (fails_evaluate_iff_fails_rescan_iff slides group).1 ⟨_, rfl⟩⟩

/-- A visit before the window whose text is too short makes the slide fail. The rescan does not ask
it. -/
theorem fails_evaluate_of_visit_before_window :
    let w := overVisits .count (.call .substr [.attr "value", .literal (.int 3)])
      (.last 2 .day) [.text "ab", .text "abcdef"]
    w.aggregate.strategy = .incremental ∧
      Fails (w.evaluate w.aggregate.strategy [patientOn 3]) ∧
      w.rescan [patientOn 3] = .ok [.value (.int 1)] :=
  ⟨rfl, ⟨_, rfl⟩, rfl⟩

end WindowedAggregate
end Hindsight
