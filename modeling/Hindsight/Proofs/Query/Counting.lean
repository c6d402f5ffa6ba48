import Hindsight.Proofs.Query.Candidates
import Hindsight.Proofs.Query.Pointwise
import Hindsight.Proofs.Query.Visits

/-!
# Counting the events of a scope

The number of all events over all time reads no attribute, so it can be bound to every schema
(`Binder.bindQuery_countOfAll`), and every candidate counts
(`WindowedAggregate.evaluate_countAggregate`). The candidates are the visible events that count at a
point, and a window holds those that its bounds contain, so the number is that of the stored events
that are visible and count (`QueryRun.selects_and_counts`).
-/

namespace Hindsight

/-- The number of events over all time. -/
def countAggregate : Aggregate := ⟨.count, .wildcard, .allTime, none, none, none, none⟩

/-- The feature of the number of events over all time. -/
def countOfAll : FeatureSet where
  features :=
    [{ name := "count(*) over all time"
       raw := "count(*) over all time"
       formula := .slot 0
       aggregates := [countAggregate] }]

example : FeatureSet.compile true ["count(*) over all time"] = .ok countOfAll := rfl

namespace Binder

variable (key : String) {infer : AttributeTypes → Except CompileError ValueType}

/-- A binder that has found no fault in types finds none where there is none, whether it infers or
recalls. -/
theorem typeOnce_of_sound (sound : ∀ types, ¬Fails (infer types)) {b : Binder}
    (found : ∀ entry ∈ b.typed, ¬Fails entry.2) (t : String) :
    ¬Fails (b.typeOnce key t infer).1 ∧
      ∀ entry ∈ (b.typeOnce key t infer).2.typed, ¬Fails entry.2 := by
  rw [typeOnce]
  split
  · next known remembered =>
    obtain ⟨before, after, entries, -⟩ := List.lookup_eq_some_iff.1 remembered
    have member : ((key, t), known) ∈ b.typed := by
      rw [entries]
      exact List.mem_append_right _ List.mem_cons_self
    exact ⟨found _ member, found⟩
  · dsimp only
    cases b.schema.get? t with
    | none => exact ⟨not_fails_ok _, List.forall_mem_cons.2 ⟨not_fails_ok _, found⟩⟩
    | some s => exact ⟨sound _, List.forall_mem_cons.2 ⟨sound _, found⟩⟩

/-- **Where the inference fails for no type and no entry found is a fault, typing succeeds**, by
induction on the types. -/
theorem typeAll_of_sound (sound : ∀ types, ¬Fails (infer types)) {b : Binder}
    (found : ∀ entry ∈ b.typed, ¬Fails entry.2) (ts : List String) :
    (b.typeAll key infer ts).1 = .ok () := by
  induction ts generalizing b with
  | nil => rfl
  | cons t ts ih =>
    have once := typeOnce_of_sound key sound found t
    rw [typeAll]
    split
    · next b' h =>
      rw [h] at once
      exact ih once.2
    · next reason b' h => exact absurd ⟨reason, congrArg Prod.fst h⟩ once.1

/-- An aggregate that reads no attribute and has a type under every schema can be bound: nothing it
reads can be unknown. -/
theorem bindAggregate_of_sound (s : Schema) {a : Aggregate}
    (no_attributes : a.attributes = .empty) (sound : ∀ types, ¬Fails (a.infer types)) :
    ((ofSchema s).bindAggregate key a).1 = .ok () := by
  have resolved : resolve s (candidates s a.eventTypes) a.attributes = .ok () := by
    rw [no_attributes, resolve]
    split <;> rfl
  have once : (ofSchema s).resolveOnce key (candidates (ofSchema s).schema a.eventTypes)
      a.attributes = (.ok (), { ofSchema s with resolved := [(key, .ok ())] }) :=
    congrArg (fun found => (found, { ofSchema s with resolved := [(key, found)] })) resolved
  rw [bindAggregate, once]
  exact typeAll_of_sound key sound (by simp [ofSchema]) _

/-- Binding the slots of a feature with one aggregate is binding that aggregate. -/
theorem fst_bindSlots_singleton (b : Binder) (feature : String) (n : Nat) (a : Aggregate) :
    (b.bindSlots feature n [a]).1 = (b.bindAggregate (slotKey feature n) a).1 := by
  rw [bindSlots]
  split <;> simp_all [bindSlots]

/-- Binding one feature is binding its slots from the first one on. -/
theorem fst_bindFeatures_singleton (b : Binder) (f : Feature) :
    (b.bindFeatures [f]).1 = (b.bindSlots f.name 0 f.aggregates).1 := by
  rw [bindFeatures]
  split <;> simp_all [bindFeatures]

/-- **The number of all events** can be bound to every schema, since its argument is a star and
reads nothing. -/
theorem bindQuery_countOfAll (s : Schema) : ((ofSchema s).bindQuery countOfAll).1 = .ok () := by
  rw [bindQuery, countOfAll, fst_bindFeatures_singleton, fst_bindSlots_singleton]
  exact bindAggregate_of_sound _ s rfl fun types => not_fails_ok _

end Binder

/-- Entries that all count with a value come to their number. None of them failed, and none of the
values is null. -/
theorem Entry.outcome_count {es : List Entry}
    (counts : ∀ e ∈ es, ∃ s, e.contribution = .counted s ∧ s.value.isNull = false) :
    outcome es (Accumulator.ofInputs .count (inputs es)).value = .value (.int es.length) := by
  have no_failure : es.findSome? failure? = none := by
    refine List.findSome?_eq_none_iff.2 fun e he => ?_
    obtain ⟨s, counted, -⟩ := counts e he
    rw [failure?, counted]
  have length : (Accumulator.counted (inputs es)).length = es.length := by
    clear no_failure
    induction es with
    | nil => rfl
    | cons e es ih =>
      obtain ⟨⟨s, counted, some_value⟩, rest⟩ := List.forall_mem_cons.1 counts
      have input : e.input? = some ⟨e.time, s.value⟩ := by rw [input?, counted]
      rw [inputs_cons_some input, Accumulator.counted,
        List.filter_cons_of_pos (by simp [some_value])]
      exact congrArg (· + 1) (ih rest)
  have total : Accumulator.ofInputs .count (inputs es) = .count (0 + es.length) := by
    rw [← length]
    exact Accumulator.foldl_absorb_count _ 0
  rw [outcome, no_failure, total, Int.zero_add]
  rfl

namespace WindowedAggregate

variable {ps : List SourcedPoint}

/-- All candidates lie in the window of all time, which has no bounds to leave any of them out. -/
theorem of_frame_allTime {w : WindowedAggregate} (window : w.aggregate.window = .allTime)
    (p : ObservationPoint) : (w.frame p).of w.candidates = w.candidates := by
  rw [frame, window]
  exact Timeline.slice_all _

/-- **Every candidate counts** at each of the points, whether the window slides or is rescanned. -/
theorem evaluate_countAggregate (t : Timeline) (inclusive : Bool)
    (group : SourcedPoint.OneGroup ps) :
    (mk countAggregate t inclusive).evaluate countAggregate.strategy ps =
      .ok (ps.map fun _ => .value (.int t.length)) := by
  have gives (point : EvalContext) (e : Event) :
      countAggregate.contribution point e = .ok (.counted ⟨none, .bool true, none⟩) := rfl
  have exact (e : Entry) : Sliding.ExactOn .count e := fun _ _ => rfl
  rcases slide_cases (w := ⟨countAggregate, t, inclusive⟩) rfl group
    (.accumulator (.empty .count)) with ⟨-, p, -, x, -, fails⟩ | ⟨es, serves, -⟩
  · exact absurd fails (not_fails_of_eq_ok (gives p.context x.event))
  have slid := serves.slide_eq_map (Sliding.follows_inputs (f := .count) rfl) ⟨rfl, by simp⟩
    Sliding.HasInputs.value (fun _ _ e _ => ⟨exact e, (exact e).not_refused⟩)
    (List.Subset.refl ps)
  refine slid.trans (congrArg Except.ok (List.map_congr_left fun p hp => ?_))
  have holds := serves.holds_frame hp
  rw [of_frame_allTime rfl] at holds
  rw [Entry.outcome_count, holds.length_eq]
  intro e he
  obtain ⟨x, -, here⟩ := exists_mem_of_forall₂ holds.flip he
  exact ⟨_, Except.ok.inj (here.contribution.symm.trans (gives p.context x.event)), rfl⟩

end WindowedAggregate

namespace QueryRun

variable (r : QueryRun)

/-- Only the scope can speak against counting all events, by a type of entity that is not known. -/
theorem check_countOfAll :
    r.check countOfAll =
      match r.scope.unknownType? r.index with
      | some type => .error (.unknownRelated type)
      | none => .ok () := by
  rw [check]
  cases r.scope.unknownType? r.index with
  | some type => rfl
  | none =>
    dsimp only
    rw [Binder.bindQuery_countOfAll]
    rfl

/-- **The number of all events** at each point is that of its candidates. So a query tells how many
candidates a point has. -/
theorem run_countOfAll (ps : List ObservationPoint) :
    r.run countOfAll ps =
      (r.check countOfAll).map fun _ => .tabulate countOfAll.columns
        (fun p => .row
          [.int (r.scope.candidates r.index (.of p) r.options.experiment).length]) ps := by
  refine run_of_decides (F := fun _ p =>
    .value (.int (r.scope.candidates r.index (.of p) r.options.experiment).length))
    (fun g f hf a ha => ?_) fun p _ => rfl
  obtain rfl := List.mem_singleton.1 hf
  obtain rfl := List.mem_singleton.1 ha
  refine (WindowedAggregate.evaluate_countAggregate _ _ (oneGroup_pointsOf r ps g)).trans ?_
  rw [List.map_map]
  refine congrArg Except.ok (List.map_congr_left fun p hp => ?_)
  obtain ⟨-, rfl⟩ := mem_pointsOf.1 hp
  rfl

/-- **Scope and window select exactly the right events.** The candidates of a point are the visible
events that count at it, each once, by time and number. The frame of a window lies within them and
holds those whose time its bounds contain. The number of all events over all time is the number of
the visible events that count. -/
theorem selects_and_counts {x : EventIndex} (reachable : x.Reachable)
    (ordered : ∀ e ∈ x.arena, e.entities.Ordered) (scope : EventScope) (options : QueryOptions) :
    (∀ (p : ObservationPoint) (experiment : Option String),
      let t := scope.candidates x (.of p) experiment
      (t.Selects x.arena fun e => scope.Counts p e ∧ e.visibleIn experiment = true) ∧
        ∀ (w : Time.Window) (instant : Time.Instant) (inclusive : Bool),
          let b := w.bounds instant inclusive
          (t.frame b).start ≤ (t.frame b).stop ∧ (t.frame b).stop ≤ t.length ∧
            ∀ (n : Nat) (c : StoredEvent), t[n]? = some c →
              ((t.frame b).start ≤ n ∧ n < (t.frame b).stop ↔
                b.contains c.event.time = true)) ∧
      ∀ ps, (mk x scope options).run countOfAll ps =
        match scope.unknownType? x with
        | some type => .error (.unknownRelated type)
        | none => .ok <| .tabulate countOfAll.columns
            (fun p => .row [.int (x.arena.toList.countP fun e =>
              decide (scope.Counts p e ∧ e.visibleIn options.experiment = true))]) ps := by
  have represents := reachable.represents ordered
  have selects (p : ObservationPoint) (experiment : Option String) :=
    scope.selects_candidates p represents experiment
  refine ⟨fun p experiment => ⟨selects p experiment, fun w instant inclusive => ?_⟩, fun ps => ?_⟩
  · exact ⟨Frame.start_le_stop _, Timeline.stop_frame_le _ _, fun n c hc =>
      Timeline.mem_frame_iff (selects p experiment).lists.inOrder _ hc⟩
  · rw [run_countOfAll, check_countOfAll]
    simp only [(selects _ options.experiment).length_eq]
    cases scope.unknownType? x <;> rfl

/-- A visit that a patient shares with a doctor of the context counts once, though it stands on the
timelines of both. -/
theorem counts_shared_visits :
    let x := (EventIndex.empty true).after EventIndex.callsOfVisits
    let p := (patientOn 1).point.withEntity "doctor" "7"
    let p' := ObservationPoint.create "patient" "2" (midnightOf 1)
    (x.Reachable ∧ ∀ e ∈ x.arena, e.entities.Ordered) ∧
      (mk x (.related ["doctor"]) {}).run countOfAll [p, p'] =
        .ok ⟨countOfAll.columns, [⟨p, [.int 3]⟩, ⟨p', [.int 0]⟩], []⟩ := by
  intro x p p'
  have calls : ∀ c ∈ EventIndex.callsOfVisits, ∀ e ∈ c.events, e.entities.Ordered := by decide
  obtain ⟨reachable, ordered⟩ :=
    EventIndex.reachable_after calls (.empty true) (by simp [EventIndex.empty])
  exact ⟨⟨reachable, ordered⟩,
    ((selects_and_counts reachable ordered (.related ["doctor"]) {}).2 [p, p']).trans rfl⟩

end QueryRun
end Hindsight
