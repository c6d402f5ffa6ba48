import Hindsight.Proofs.Aggregate.FirstRun
import Hindsight.Proofs.Aggregate.Merging

/-!
# A deque after any calls

Entries are pushed, evicted and cleared in any order. The entries that are live are those that were
pushed and neither evicted nor cleared since. If the pushed numbers increase, each call leaves the
deque as it would be if the live entries alone had been pushed (`MonotoneDeque.call_pushAll`), and
so do all calls together (`MonotoneDeque.after_eq_pushAll`).

Of values of one kind a deque of extremes keeps a strictly monotone list
(`MonotoneDeque.monotone_pushAll`), with the best of the live values in front. So after any
calls it has the value of an accumulator that is fed the live entries in the order of the pushes
(`MonotoneDeque.value_after_calls`).
-/

namespace Hindsight

/-- Some of the values of one kind are of one kind. -/
theorem Value.Alike.subset {vs ws : List Value} (h : Alike vs) (sub : ws ⊆ vs) : Alike ws :=
  ⟨fun v hv => h.1 v (sub hv), fun v hv w hw => h.2 v (sub hv) w (sub hw)⟩

/-- Values of one kind are one run: each of them compares with the first, so the run ends with the
last value. -/
theorem Value.Alike.firstRun_eq {vs : List Value} (h : Alike vs) : firstRun vs = vs := by
  cases vs with
  | nil => rfl
  | cons v vs =>
    have first : v ∈ v :: vs := List.mem_cons_self
    refine congrArg (v :: ·) (List.takeWhile_eq_self_iff.2 fun w hw => decide_eq_true ?_)
    have later : w ∈ v :: vs := List.mem_cons_of_mem v hw
    exact comparable_of_typeName (h.1 w later) (h.2 w later v first)

/-- Of two values that compare with each other one is better if the other does not dominate it,
which is the form in which pruning leaves it. -/
theorem Extreme.wins_of_not_dominates {x : Extreme} {v w : Value} (hv : v.isOrdinal = true)
    (hw : w.isOrdinal = true) (comparable : v.Comparable w)
    (h : MonotoneDeque.dominates x w v = false) : x.wins v w = true := by
  by_contra worse
  rw [dominates_of_not_wins hv hw comparable (Bool.eq_false_of_not_eq_true worse)] at h
  cases h

namespace MonotoneDeque

/-- A call that changes a deque. -/
inductive Call where
  | push (e : DequeEntry)
  | evictBefore (number : Nat)
  | clear

/-- The deque after a call. -/
def call (d : MonotoneDeque) : Call → MonotoneDeque
  | .push e => d.push e
  | .evictBefore n => d.evictBefore n
  | .clear => d.clear

/-- The deque after some calls. -/
def after (d : MonotoneDeque) (calls : List Call) : MonotoneDeque := calls.foldl call d

/-- The entry that a call pushes. -/
def Call.entry? : Call → Option DequeEntry
  | push e => some e
  | evictBefore _ | clear => none

/-- The entries that calls push. -/
def pushed (calls : List Call) : List DequeEntry := calls.filterMap Call.entry?

/-- What a call leaves of the live entries: an eviction takes away those of a smaller number. -/
def stillLive (es : List DequeEntry) : Call → List DequeEntry
  | .push e => es ++ [e]
  | .evictBefore n => es.filter fun e => decide (n ≤ e.number)
  | .clear => []

/-- The entries that were pushed and neither evicted nor cleared since, in the order of the
pushes. -/
def live (calls : List Call) : List DequeEntry := calls.foldl stillLive []

/-- The numbers of entries increase. -/
def Numbered (es : List DequeEntry) : Prop := es.Pairwise fun e g => e.number < g.number

instance (es : List DequeEntry) : Decidable (Numbered es) :=
  inferInstanceAs (Decidable (es.Pairwise _))

variable {d : MonotoneDeque} {es : List DequeEntry} {calls : List Call} {x : Extreme}

/-- One more call pushes its entry behind those that were pushed before, if it is a push. -/
theorem pushed_concat (calls : List Call) (c : Call) :
    pushed (calls ++ [c]) = pushed calls ++ c.entry?.toList := by
  rw [pushed, List.filterMap_append]
  cases c <;> rfl

/-- One more call leaves those entries that it does not evict, with its own behind them. -/
theorem live_concat (calls : List Call) (c : Call) :
    live (calls ++ [c]) = stillLive (live calls) c := by
  rw [live, List.foldl_append]
  rfl

/-- Live entries are pushed entries, in their order. A call evicts from the front or clears, and
puts nothing back. -/
theorem live_sublist (calls : List Call) : (live calls).Sublist (pushed calls) := by
  induction calls using List.reverseRecOn with
  | nil => exact List.Sublist.refl []
  | append_singleton calls c ih =>
    rw [live_concat, pushed_concat]
    cases c with
    | push e => exact ih.append (List.Sublist.refl [e])
    | evictBefore n =>
      exact List.Sublist.trans List.filter_sublist (ih.trans (by simp [Call.entry?]))
    | clear => exact List.nil_sublist _

/-- Of entries whose numbers increase those below a number stand in front, so evicting from the
front is leaving out what is below, wherever it stands. -/
theorem dropWhile_eq_filter (numbered : Numbered es) (n : Nat) :
    (es.dropWhile fun e => decide (e.number < n)) = es.filter fun e => decide (n ≤ e.number) := by
  induction es with
  | nil => rfl
  | cons e es ih =>
    obtain ⟨least, rest⟩ := List.pairwise_cons.1 numbered
    by_cases old : e.number < n
    · rw [List.dropWhile_cons_of_pos (by simpa using old),
        List.filter_cons_of_neg (by simpa using old), ih rest]
    · have all : ∀ g ∈ e :: es, decide (n ≤ g.number) = true := by
        refine List.forall_mem_cons.2 ⟨by simpa using old, fun g hg => ?_⟩
        have := least g hg
        exact decide_eq_true (by omega)
      rw [List.dropWhile_cons_of_neg (by simpa using old), List.filter_eq_self.2 all]

/-- **A call leaves the deque of the entries that are still live.** This is the step: a push adds
one live entry, an eviction takes those below a number, and clearing takes all. -/
theorem call_pushAll (d : MonotoneDeque) (numbered : Numbered es) (c : Call) :
    (d.clear.pushAll es).call c = d.clear.pushAll (stillLive es c) := by
  cases c with
  | push e => exact (pushAll_concat _ _ _).symm
  | evictBefore n =>
    have split : es.takeWhile (fun e => decide (e.number < n)) ++ stillLive es (.evictBefore n) =
        es := by
      rw [stillLive, ← dropWhile_eq_filter numbered, List.takeWhile_append_dropWhile]
    have before : ∀ e ∈ es.takeWhile fun e => decide (e.number < n), e.number < n := fun e he =>
      by
      simpa using List.mem_takeWhile_imp he
    have since : ∀ e ∈ stillLive es (.evictBefore n), n ≤ e.number := fun e he =>
      of_decide_eq_true (List.mem_filter.1 he).2
    have evicted := evictBefore_pushAll_append d before since
    rwa [split] at evicted
  | clear => exact ext_entries (function_pushAll _ _) (retention_pushAll _ _) rfl

/-- **After any calls a deque is that of the live entries**, by induction on the calls with
`call_pushAll` as the step. So what a deque comes to does not depend on when entries were
evicted. -/
theorem after_eq_pushAll (d : MonotoneDeque) (numbered : Numbered (pushed calls)) :
    d.clear.after calls = d.clear.pushAll (live calls) := by
  induction calls using List.reverseRecOn with
  | nil => rfl
  | append_singleton calls c ih =>
    rw [pushed_concat] at numbered
    have numbered_before := (List.pairwise_append.1 numbered).1
    have step := call_pushAll d (numbered_before.sublist (live_sublist calls)) c
    rw [after, List.foldl_append, live_concat, ← step, ← ih numbered_before]
    rfl

/-- What is kept stays in its order. -/
theorem kept_sublist (r : Retention) (v : Value) (es : List DequeEntry) :
    (kept r v es).Sublist es := by
  cases r with
  | best x => exact (List.rdropWhile_prefix _ _).sublist
  | all => exact List.Sublist.refl es
  | newest => exact List.nil_sublist es

/-- What is in a deque was pushed, in that order, by induction on the pushes: each keeps some of the
entries in their order and puts one behind them. -/
theorem entries_pushAll_sublist (d : MonotoneDeque) (es : List DequeEntry) :
    (d.clear.pushAll es).entries.Sublist es := by
  induction es using List.reverseRecOn with
  | nil => exact List.Sublist.refl []
  | append_singleton es e ih =>
    rw [pushAll_concat, entries_push]
    exact ((kept_sublist _ _ _).trans ih).append (List.Sublist.refl [e])

/-- Whether the last entry is pruned decides whether pruning goes on. It starts at the end, and
stops at the first entry that is not dominated. -/
theorem prune_concat (x : Extreme) (v : Value) (es : List DequeEntry) (g : DequeEntry) :
    prune x v (es ++ [g]) =
      if dominates x v g.input.value = true then prune x v es else es ++ [g] :=
  List.rdropWhile_concat ..

/-- Each value is better than those behind it. -/
def Monotone (x : Extreme) (es : List DequeEntry) : Prop :=
  es.Pairwise fun e g => x.wins e.input.value g.input.value = true

/-- **A value that prunes what it dominates** comes behind values that are all better. Of values of
one kind one that is not dominated is better, and those in front of it are better still. -/
theorem Monotone.prune_concat {e : DequeEntry} (h : Monotone x es)
    (alike : Value.Alike (values (es ++ [e]))) :
    Monotone x (prune x e.input.value es ++ [e]) := by
  induction es using List.reverseRecOn with
  | nil => exact List.pairwise_singleton _ _
  | append_singleton es g ih =>
    have split : values (es ++ [g] ++ [e]) =
        values es ++ [g.input.value] ++ [e.input.value] := by simp [values]
    rw [split] at alike
    obtain ⟨front, -, over_g⟩ := List.pairwise_append.1 h
    by_cases dominated : dominates x e.input.value g.input.value = true
    · rw [MonotoneDeque.prune_concat, if_pos dominated]
      refine ih front (alike.subset ?_)
      intro v
      simp only [values, List.map_append, List.map_cons, List.mem_append, List.mem_cons]
      tauto
    · -- The entry in front of the new one is better, and those in front of it are better still.
      rw [MonotoneDeque.prune_concat, if_neg dominated]
      have ordinal : ∀ {a}, a ∈ es ++ [g] ++ [e] → a.input.value.isOrdinal = true := fun ha =>
        alike.1 _ (split ▸ mem_values.2 ⟨_, ha, rfl⟩)
      have better : x.wins g.input.value e.input.value = true := by
        refine Extreme.wins_of_not_dominates (ordinal (by simp)) (ordinal (by simp)) ?_
          (Bool.eq_false_of_not_eq_true dominated)
        exact Value.comparable_of_typeName (ordinal (by simp)) (alike.2 _ (by simp) _ (by simp))
      refine List.pairwise_append.2 ⟨h, List.pairwise_singleton _ _, fun a ha b hb => ?_⟩
      obtain rfl := List.mem_singleton.1 hb
      rcases List.mem_append.1 ha with ha | ha
      · exact Extreme.wins_trans (ordinal (by simp [ha])) (ordinal (by simp)) (ordinal (by simp))
          (over_g a ha g List.mem_cons_self) better
      · obtain rfl := List.mem_singleton.1 ha
        exact better

/-- **Of values of one kind a deque of extremes keeps a strictly monotone list**, by induction on
the pushes: a push leaves only better values in front of the new one. -/
theorem monotone_pushAll (hr : d.retention = .best x) (alike : Value.Alike (values es)) :
    Monotone x (d.clear.pushAll es).entries := by
  induction es using List.reverseRecOn with
  | nil => exact List.Pairwise.nil
  | append_singleton es e ih =>
    rw [entries_clear_concat hr]
    refine (ih (alike.subset ?_)).prune_concat (alike.subset ?_)
    · exact List.map_subset _ (List.subset_append_left es [e])
    · refine List.map_subset _ (List.append_subset.2 ⟨?_, List.subset_append_right es [e]⟩)
      exact List.Subset.trans (entries_pushAll_subset d es) (List.subset_append_left es [e])

/-- A deque of extremes has the value of an accumulator that is fed the same entries, if they are of
one kind. -/
theorem value_pushAll_alike {f : AggregateFunction} (hf : f.retention? = some (.best x))
    (alike : Value.Alike (values es)) :
    ∃ a, (es.map DequeEntry.input).foldlM Accumulator.add (.empty f) = .ok a ∧
      ((⟨f, .best x, []⟩ : MonotoneDeque).pushAll es).value = a.value := by
  have selective : f.isSelective = true := by rw [← f.isSome_retention?, hf]; rfl
  have counted : Accumulator.counted (es.map DequeEntry.input) = es.map DequeEntry.input := by
    refine List.filter_eq_self.2 fun i hi => ?_
    obtain ⟨e, he, rfl⟩ := List.mem_map.1 hi
    have ordinal := alike.1 _ (mem_values.2 ⟨e, he, rfl⟩)
    cases h : e.input.value with
    | null => rw [h] at ordinal; cases ordinal
    | _ => rfl
  have best := Accumulator.value_ofInputs_best hf (es.map DequeEntry.input)
  rw [counted, List.map_map] at best
  refine ⟨_, Accumulator.foldlM_add_eq_ofInputs fun i _ =>
    Accumulator.not_refuses_of_isSelective selective i.value, ?_⟩
  rw [best, value_pushAll_best hf alike.1, alike.firstRun_eq]
  rfl

/-- **After any calls** that push increasing numbers, a deque holds increasing numbers. Of values of
one kind that is linearly ordered a least-value deque holds a strictly increasing list and a
greatest-value deque a strictly decreasing one, and either has the value of an accumulator that is
fed the entries pushed and not evicted, in the order of the pushes. The deque of a position has the
value, or the time, of the earliest or the latest of those entries, whatever the values are. -/
theorem value_after_calls {f : AggregateFunction} (hd : empty? f = some d)
    (numbered : Numbered (pushed calls)) :
    Numbered (d.after calls).entries ∧
      (∀ x, f.retention? = some (.best x) → Value.Alike (values (pushed calls)) →
        (d.after calls).entries.Pairwise
            (fun e g => e.input.value.compare g.input.value = some x.wanted) ∧
          ∃ a, ((live calls).map DequeEntry.input).foldlM Accumulator.add (.empty f) = .ok a ∧
            (d.after calls).value = a.value) ∧
      (f = .first → (d.after calls).value =
        Accumulator.heldValue ((live calls).head?.map DequeEntry.input)) ∧
      (f = .timeOfFirst ∨ f = .timeOfNext → (d.after calls).value =
        Accumulator.heldTime ((live calls).head?.map DequeEntry.input)) ∧
      (f = .last → (d.after calls).value =
        Accumulator.heldValue ((live calls).getLast?.map DequeEntry.input)) ∧
      (f = .timeOfLast → (d.after calls).value =
        Accumulator.heldTime ((live calls).getLast?.map DequeEntry.input)) := by
  obtain ⟨r, hr, rfl⟩ := Option.map_eq_some_iff.1 hd
  let d : MonotoneDeque := ⟨f, r, []⟩
  have whole : (⟨f, r, []⟩ : MonotoneDeque).after calls = d.clear.pushAll (live calls) :=
    after_eq_pushAll d numbered
  rw [whole]
  refine ⟨numbered.sublist ((entries_pushAll_sublist d _).trans (live_sublist calls)),
    fun x hx alike => ?_, ?_, ?_, ?_, ?_⟩
  · obtain rfl := Option.some.inj (hr.symm.trans hx)
    have alike_live := alike.subset (List.map_subset _ (live_sublist calls).subset)
    exact ⟨(monotone_pushAll rfl alike_live).imp Extreme.wins_iff.1,
      value_pushAll_alike hr alike_live⟩
  · rintro rfl
    cases hr
    exact value_pushAll_all .first _
  · rintro (rfl | rfl)
    · cases hr
      exact value_pushAll_all .timeOfFirst _
    · cases hr
      exact value_pushAll_all .timeOfNext _
  · rintro rfl
    cases hr
    exact value_pushAll_newest .last _
  · rintro rfl
    cases hr
    exact value_pushAll_newest .timeOfLast _

/-- Readings of one patient: the second and the third tie, and the fourth is evicted with all that
came before, by a number that none of them reaches. -/
def callsOfReadings : List Call :=
  let reading (number : Nat) (n : Int) : Call :=
    .push ⟨number, (Time.Instant.ofParts? number 0 0).getD .zero, .int n⟩
  [reading 0 5, reading 1 3, reading 2 3, .evictBefore 1, reading 3 8, .clear, reading 4 1,
    .evictBefore 9, reading 10 6, reading 12 7, reading 15 6, reading 16 9, .evictBefore 12]

/-- Of the last four readings three are live, and two are held: the seven can never be the least
again. -/
theorem value_after_readings :
    let d : MonotoneDeque := ⟨.min, .best .min, []⟩
    let inputs := (live callsOfReadings).map DequeEntry.input
    (empty? .min = some d ∧ Numbered (pushed callsOfReadings) ∧
      Value.Alike (values (pushed callsOfReadings))) ∧
      (live callsOfReadings).map DequeEntry.number = [12, 15, 16] ∧
        (d.after callsOfReadings).entries.map DequeEntry.number = [15, 16] ∧
          inputs.foldlM Accumulator.add (.empty .min) = .ok (.min (some (.int 6))) ∧
            (d.after callsOfReadings).value = .int 6 := by
  intro d inputs
  have numbered : Numbered (pushed callsOfReadings) := by decide
  have alike : Value.Alike (values (pushed callsOfReadings)) := by
    have integers : values (pushed callsOfReadings) =
        [5, 3, 3, 8, 1, 6, 7, 6, 9].map Value.int := rfl
    rw [integers]
    exact ⟨List.forall_mem_map.2 fun _ _ => rfl, List.forall_mem_map.2 fun _ _ =>
      List.forall_mem_map.2 fun _ _ => rfl⟩
  obtain ⟨-, best, -⟩ := value_after_calls (f := .min) rfl numbered
  obtain ⟨-, a, fed, value⟩ := best .min rfl alike
  have least : inputs.foldlM Accumulator.add (.empty .min) = .ok (.min (some (.int 6))) := rfl
  obtain rfl := Except.ok.inj (fed.symm.trans least)
  exact ⟨⟨rfl, numbered, alike⟩, by decide, by decide +kernel, least, value⟩

end MonotoneDeque
end Hindsight
