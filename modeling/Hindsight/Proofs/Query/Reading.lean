import Hindsight.Proofs.Eval.Contribution
import Hindsight.Proofs.Query.Entries
import Hindsight.Query.Rescan

/-!
# What a window is read to

Reading the window of an aggregate without groups and ranks comes to the reason of the first filter
that fails, or to the value of the accumulator of all inputs
(`WindowedAggregate.read_eq_of_accepted`). The reading fails just if an event spoils it before a
filter fails (`WindowedAggregate.fails_read_iff`).
-/

namespace Hindsight

namespace Aggregate

/-- An aggregate without groups and ranks. -/
structure IsPlain (a : Aggregate) : Prop where
  groupBy : a.groupBy = none
  having : a.having = none

variable {a : Aggregate} {point ctx : EvalContext}

/-- What a plain aggregate counts has no key and no rank, so it goes into the single accumulator. -/
theorem IsPlain.share (plain : a.IsPlain) {s : Share} (h : a.share ctx = .ok s) :
    s.key = none ∧ s.rank = none := by
  rw [Aggregate.share, plain.groupBy, plain.having] at h
  obtain ⟨v, -, h⟩ := bind_eq_ok_iff.1 h
  cases h
  exact ⟨rfl, rfl⟩

/-- An event that is counted counts with the share that its value, its key and its rank make. -/
theorem share_of_contribution {e : Event} {s : Share}
    (h : a.contribution point e = .ok (.counted s)) : a.share (point.withEvent e) = .ok s := by
  rcases a.contribution_cases point e with ⟨-, given⟩ |
    ⟨-, ⟨-, given⟩ | ⟨-, given⟩ | ⟨reason, -, given⟩⟩
  · cases given.symm.trans h
  · cases given.symm.trans h
  · obtain ⟨s', hs, hc⟩ := map_eq_ok_iff.1 (given.symm.trans h)
    rw [hs, Contribution.counted.inj hc]
  · cases given.symm.trans h

/-- An event spoils the query: it gives nothing, or a value that the function refuses. -/
def Spoils (a : Aggregate) (point : EvalContext) (x : StoredEvent) : Prop :=
  Fails (a.contribution point x.event) ∨
    ∃ s, a.contribution point x.event = .ok (.counted s) ∧
      Accumulator.Refuses a.function s.value

/-- Whether the filter fails on an event. -/
def failsFilter (a : Aggregate) (point : EvalContext) (x : StoredEvent) : Bool :=
  match a.contribution point x.event with
  | .ok (.filterFailed _) => true
  | _ => false

/-- The events that are read before a filter fails. -/
def untilFailure (a : Aggregate) (point : EvalContext) (xs : Timeline) : Timeline :=
  xs.takeWhile fun x => !a.failsFilter point x

end Aggregate

namespace WindowedAggregate

variable {a : Aggregate} {point : EvalContext}

/-- A plain aggregate takes up a share without key and rank as its accumulator takes the input, and
is refused where that is. -/
theorem add_of_isPlain {r : WindowReading} {t : Time.Instant} {s : Share}
    (h : s.key = none ∧ s.rank = none) :
    r.add t s = (r.plain.add ⟨t, s.value⟩).map fun b => { r with plain := b } := by
  rw [WindowReading.add, h.1, h.2]

/-- An aggregate without groups and ranks has the value of its single accumulator. -/
theorem value_of_isPlain (plain : a.IsPlain) (r : WindowReading) :
    r.value a = .ok r.plain.value := by
  rw [WindowReading.value, WindowReading.withRanked, plain.having, plain.groupBy]
  rfl

/-- **What a window is read to,** if nothing in it is refused: the error of the first filter that
failed, or the value of the accumulator of its inputs. By induction on the events. -/
theorem read_eq_of_accepted (plain : a.IsPlain) {xs : Timeline} {es : List Entry}
    (h : List.Forall₂ (Entry.Holds a point) xs es) (accepted : ∀ e ∈ es, ¬e.Refused a.function)
    {r : WindowReading} {is : List Input} (hr : r.plain = .ofInputs a.function is) :
    read a point r xs =
      .ok (Entry.outcome es (Accumulator.ofInputs a.function (is ++ Entry.inputs es)).value) := by
  induction h generalizing r is with
  | nil =>
    rw [read, value_of_isPlain plain, hr, Entry.inputs, List.filterMap_nil, List.append_nil]
    rfl
  | @cons x e xs es he _ ih =>
    have rest := fun e' he' => accepted e' (List.mem_cons_of_mem _ he')
    have here := accepted e List.mem_cons_self
    rw [read, he.contribution, ok_bind]
    cases hc : e.contribution with
    | passed =>
      have uncounted : e.input? = none := by rw [Entry.input?, hc]
      have sound : e.failure? = none := by rw [Entry.failure?, hc]
      rw [Entry.outcome, List.findSome?_cons, sound,
        Entry.inputs_cons_none uncounted]
      exact ih rest hr
    | filterFailed reason =>
      have failed : e.failure? = some reason := by rw [Entry.failure?, hc]
      rw [Entry.outcome, List.findSome?_cons, failed]
      rfl
    | counted s =>
      have counted : e.input? = some ⟨e.time, s.value⟩ := by rw [Entry.input?, hc]
      have sound : e.failure? = none := by rw [Entry.failure?, hc]
      have bare := plain.share (Aggregate.share_of_contribution (hc ▸ he.contribution))
      have taken : r.plain.add ⟨x.event.time, s.value⟩ =
          .ok (.ofInputs a.function (is ++ [⟨e.time, s.value⟩])) := by
        rw [Accumulator.ofInputs_concat, hr, he.time]
        apply Accumulator.add_of_not_refuses
        rw [Accumulator.function_ofInputs]
        exact fun refused => here ⟨_, counted, refused⟩
      rw [Entry.outcome, List.findSome?_cons, sound,
        Entry.inputs_cons_some counted]
      dsimp only
      rw [List.append_cons, add_of_isPlain bare, taken]
      exact ih (r := { r with plain := _ }) rest rfl

/-- **The reading of a window fails** just if an event spoils it before a filter fails. A filter
that fails ends the reading with an outcome, so nothing behind it is looked at. -/
theorem fails_read_iff (plain : a.IsPlain) {xs : Timeline} {r : WindowReading}
    (hr : r.plain.function = a.function) :
    Fails (read a point r xs) ↔ ∃ x ∈ a.untilFailure point xs, a.Spoils point x := by
  induction xs generalizing r with
  | nil =>
    rw [read, value_of_isPlain plain]
    simp [Aggregate.untilFailure, Except.map, Fails]
  | cons x xs ih =>
    rw [read, fails_bind_iff, Aggregate.untilFailure, List.takeWhile_cons]
    rcases fails_or_eq_ok (a.contribution point x.event) with fails | ⟨c, hc⟩
    · have reads : a.failsFilter point x = false := by
        obtain ⟨e, he⟩ := fails
        rw [Aggregate.failsFilter, he]
      simp only [fails, reads, Bool.not_false, if_true, true_or, true_iff]
      exact ⟨x, List.mem_cons_self, .inl fails⟩
    · simp only [hc, not_fails_ok, false_or, Except.ok.injEq, exists_eq_left']
      cases c with
      | passed =>
        have reads : a.failsFilter point x = false := by rw [Aggregate.failsFilter, hc]
        have sound : ¬a.Spoils point x := by simp [Aggregate.Spoils, hc, not_fails_ok]
        simp only [reads, Bool.not_false, if_true, List.exists_mem_cons_iff, sound, false_or]
        exact ih hr
      | filterFailed reason =>
        have stops : a.failsFilter point x = true := by rw [Aggregate.failsFilter, hc]
        simp [stops, Fails, pure, Except.pure]
      | counted s =>
        have reads : a.failsFilter point x = false := by rw [Aggregate.failsFilter, hc]
        have spoils : a.Spoils point x ↔ Accumulator.Refuses a.function s.value := by
          simp [Aggregate.Spoils, hc, not_fails_ok]
        have bare := plain.share (Aggregate.share_of_contribution hc)
        simp only [reads, Bool.not_false, if_true, List.exists_mem_cons_iff, spoils]
        rw [add_of_isPlain bare, fails_bind_iff, fails_map_iff, Accumulator.fails_add_iff, hr]
        by_cases refused : Accumulator.Refuses a.function s.value
        · simp [refused]
        · have taken := Accumulator.add_of_not_refuses
            (a := r.plain) (i := ⟨x.event.time, s.value⟩) (hr ▸ refused)
          simp only [refused, false_or, taken, Except.map, Except.ok.injEq, exists_eq_left']
          exact ih ((Accumulator.function_extend _ _).trans hr)

/-- **Rescanning fails** just if at some point an event of the window spoils it before a filter
fails. -/
theorem fails_rescan_iff {w : WindowedAggregate} (plain : w.aggregate.IsPlain)
    {ps : List SourcedPoint} :
    Fails (w.rescan ps) ↔
      ∃ p ∈ ps, ∃ x ∈ w.aggregate.untilFailure p.context ((w.frame p.point).of w.candidates),
        w.aggregate.Spoils p.context x := by
  rw [rescan, fails_mapM_iff]
  simp only [rescanAt, fails_read_iff plain
    (r := .start w.aggregate.function) (Accumulator.function_empty _)]

end WindowedAggregate
end Hindsight
