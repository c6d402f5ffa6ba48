import Hindsight.Proofs.Eval.Pinned
import Hindsight.Proofs.Observation.Arrival
import Hindsight.Proofs.Plan.Compile

/-!
# The points of the events that satisfy a condition

Points are taken from the events of a view one by one. An event is left out without a look at the
condition if it has no entity of a wanted type, or if its type is not among those the condition
pins; and it is left out if the condition fails to evaluate. None of this loses an event on which
the condition holds (`MatchingEvents.mem_pointsIf_iff`), so the points are exactly those of the
events that are seen and on which it does, in strict order (`Sampling.points_matching_exact`).
-/

namespace Hindsight

/-- A compiled condition applies to the event types that its formula pins. The two are computed when
it is compiled. -/
theorem Condition.eventTypes_of_fromText {c : Condition} (h : c.FromText) :
    c.eventTypes = c.formula.pinnedTypes := by
  obtain ⟨text, e, -, lowered⟩ := Condition.exists_of_fromText h
  obtain ⟨⟨f, slots⟩, -, made⟩ := bind_eq_ok_iff.1 lowered
  cases made
  rfl

/-- The points of an event are those of its entities of the wanted types. An event without such an
entity has none. -/
theorem Event.mem_pointsOf_iff {e : Event} {types : List String} {p : ObservationPoint} :
    p ∈ e.pointsOf types ↔
      ∃ type ∈ types, ∃ id, e.entities.get? type = some id ∧ p = .ofEvent e type id := by
  simp [Event.pointsOf, List.mem_filterMap, eq_comm]

/-- The events of a view are those of the arena that are seen, by what is known of reachable
indexes. -/
theorem IndexView.mem_timeline_iff {v : IndexView} (reachable : v.index.Reachable) {e : Event} :
    e ∈ v.timeline ↔ e ∈ v.index.arena ∧ e.visibleIn v.experiment = true := by
  have selects := reachable.selects_timeline
  constructor
  · intro member
    obtain ⟨x, seen, rfl⟩ := List.mem_map.1 member
    obtain ⟨listed, visible⟩ := List.mem_filter.1 seen
    exact ⟨Array.mem_of_getElem? ((selects.mem_iff x).1 listed).1, visible⟩
  · rintro ⟨member, visible⟩
    obtain ⟨n, inside, rfl⟩ := Array.mem_iff_getElem.1 member
    have listed : (⟨n, v.index.arena[n]⟩ : StoredEvent) ∈ v.index.timeline :=
      (selects.mem_iff _).2 ⟨Array.getElem?_eq_getElem inside, trivial⟩
    exact List.mem_map.2 ⟨_, List.mem_filter.2 ⟨listed, visible⟩, rfl⟩

namespace MatchingEvents

variable {types : List String} {c : Condition} {s : Schema} {e : Event} {es : List Event}
  {ps : List ObservationPoint} {p : ObservationPoint}

/-- A condition is said not to apply to the events of a type only if it pins other types. Nothing
else about a type keeps events from being looked at. -/
theorem exists_pinned_of_judge {type : String} (h : Binder.judge s c type = .ok false) :
    ∃ pinned, c.eventTypes = some pinned ∧ pinned.contains type = false := by
  rw [Binder.judge] at h
  split at h
  · next ruled_out =>
    obtain ⟨pinned, pins, lacks⟩ := (Option.any_eq_true _ _).1 ruled_out
    exact ⟨pinned, pins, by simpa using lacks⟩
  · obtain ⟨⟨⟩, -, h⟩ := bind_eq_ok_iff.1 h
    split at h
    · cases h
    · obtain ⟨t, -, h⟩ := bind_eq_ok_iff.1 h
      obtain ⟨⟨⟩, -, wrong⟩ := map_eq_ok_iff.1 h
      cases wrong

/-- **An event is left out** only if the condition does not hold on it, or if it has no points. In
particular none is left out because of its type if the condition holds on it. -/
theorem mem_pointsIf_iff (compiled : c.FromText) (h : pointsIf types c s e = .ok ps) :
    p ∈ ps ↔ c.formula.holds (.ofEvent e) = .ok true ∧ p ∈ e.pointsOf types := by
  rw [pointsIf] at h
  split at h
  · next none_wanted =>
    obtain rfl := Except.ok.inj h
    rw [List.isEmpty_iff.1 none_wanted]
    simp
  · split at h
    · cases h
    · -- left out by its type, which the condition would have pinned if it held
      next judged =>
      obtain rfl := Except.ok.inj h
      obtain ⟨pinned, pins, lacks⟩ := exists_pinned_of_judge judged
      rw [Condition.eventTypes_of_fromText compiled] at pins
      refine iff_of_false List.not_mem_nil fun taken => ?_
      have has : pinned.contains e.type = true := Formula.contains_of_holds rfl pins taken.1
      rw [lacks] at has
      cases has
    · split at h
      · next holds =>
        obtain rfl := Except.ok.inj h
        simp [holds]
      · next other =>
        obtain rfl := Except.ok.inj h
        exact iff_of_false List.not_mem_nil fun taken => other taken.1

/-- The points of a list of events are those of the events on which the condition holds, by
induction on the list. -/
theorem mem_select_iff {b : Binder} (recalls : b.RecallsCondition s c) (compiled : c.FromText)
    (h : select types c b es = .ok ps) :
    p ∈ ps ↔ ∃ e ∈ es, c.formula.holds (.ofEvent e) = .ok true ∧ p ∈ e.pointsOf types := by
  rw [select_eq_mapM recalls] at h
  obtain ⟨pss, all, rfl⟩ := map_eq_ok_iff.1 h
  replace all := mapM_eq_ok_iff.1 all
  clear h
  induction all with
  | nil => simp
  | cons here _ ih =>
    rw [List.flatten_cons, List.mem_append, mem_pointsIf_iff compiled here,
      List.exists_mem_cons_iff]
    exact or_congr_right ih

end MatchingEvents

namespace Sampling

/-- **The points of the events that satisfy a condition** are in strict order, each once. They are
exactly the points of the stored events that are seen and on which the compiled condition holds, one
for each of their entities of a listed type. So no event is lost because its type is left out
without a look at it, and none is taken on which the condition cannot be evaluated. -/
theorem points_matching_exact {v : IndexView} {m : MatchingEvents} {ps : List ObservationPoint}
    (reachable : v.index.Reachable) (answered : (matching m).points v = .ok ps) :
    ∃ c, Condition.compile true m.condition = .ok c ∧
      ps.Pairwise (fun p q => p.order q = .lt) ∧ ps.Nodup ∧
        ∀ p, p ∈ ps ↔ ∃ e ∈ v.index.arena, e.visibleIn v.experiment = true ∧
          c.formula.holds (.ofEvent e) = .ok true ∧
            ∃ type ∈ m.entityTypes, ∃ id, e.entities.get? type = some id ∧
              p = .ofEvent e type id := by
  obtain ⟨⟨⟩, -, answered⟩ := bind_eq_ok_iff.1 answered
  obtain ⟨found, selected, sorted⟩ := bind_eq_ok_iff.1 answered
  obtain rfl : (found.mergeSort fun p q => (p.order q).isLE).eraseDups = ps :=
    Except.ok.inj sorted
  obtain ⟨c, compiled, selected⟩ := bind_eq_ok_iff.1 selected
  replace compiled := mapError_eq_ok_iff.1 compiled
  refine ⟨c, compiled, ObservationPoint.pairwise_eraseDups_mergeSort found, nodup_eraseDups _,
    fun p => ?_⟩
  rw [List.mem_eraseDups, List.mem_mergeSort,
    MatchingEvents.mem_select_iff (Binder.recalls_ofSchema ..) ⟨true, _, compiled⟩ selected]
  simp only [IndexView.mem_timeline_iff reachable, Event.mem_pointsOf_iff, and_assoc]

section Notes

/-- A note on a patient. -/
def note (type : String) (day : Nat) (id : String) (experiment : Option String) (text : String) :
    Event where
  type := type
  time := (Time.Instant.ofParts? day 0 0).getD .zero
  entities := ⟨[("patient", "1")]⟩
  id := some id
  experiment := experiment
  attributes := ⟨[("text", .text text)]⟩

/-- Notes of which one is no visit, one belongs to a trial, and one is empty. -/
def notesIndex : EventIndex :=
  ((EventIndex.empty true).insertMany
    [note "visit" 3 "c" none "urgent", note "lab" 2 "b" none "urgent",
      note "visit" 4 "d" (some "trial") "urgent", note "visit" 5 "e" none "",
      note "visit" 1 "a" none "usual"]).2

/-- The points of the patients with a visit whose note starts with a `u`. -/
def notesWithU : MatchingEvents where
  condition := "event_type == 'visit' and substr(text, 0, 1) == 'u'"
  entityTypes := ["patient", "patient"]

/-- That a visit has a note which starts with a `u`, as it is compiled. -/
def startsWithU : Condition where
  raw := notesWithU.condition
  formula :=
    .binary (.binary (.field .type) (.compare .eq) (.literal (.text "visit"))) (.connect .and)
      (.binary (.call .substr [.attr "text", .literal (.int 0), .literal (.int 1)]) (.compare .eq)
        (.literal (.text "u")))
  eventTypes := some ⟨["visit"]⟩

/-- Of five notes two give a point, though they came in the other way round and their patient was
asked for twice. The others are of another type, of a trial, and too short. -/
theorem points_of_notes :
    let v : IndexView := ⟨notesIndex, none⟩
    let ps := [("a", 1, "usual"), ("c", 3, "urgent")].map fun n =>
      ObservationPoint.ofEvent (note "visit" n.2.1 n.1 none n.2.2) "patient" "1"
    v.index.Reachable ∧ (matching notesWithU).points v = .ok ps ∧
      Fails (startsWithU.formula.holds (.ofEvent (note "visit" 5 "e" none ""))) ∧
        ∃ c, Condition.compile true notesWithU.condition = .ok c ∧
          ps.Pairwise (fun p q => p.order q = .lt) ∧ ps.Nodup ∧
            ∀ p, p ∈ ps ↔ ∃ e ∈ v.index.arena, e.visibleIn v.experiment = true ∧
              c.formula.holds (.ofEvent e) = .ok true ∧
                ∃ type ∈ notesWithU.entityTypes, ∃ id, e.entities.get? type = some id ∧
                  p = .ofEvent e type id := by
  intro v ps
  have reachable : v.index.Reachable := (EventIndex.Reachable.empty true).insertMany _
  have compiled : Condition.compile true notesWithU.condition = .ok startsWithU := rfl
  let found := ps.flatMap fun p => [p, p]
  have selected : MatchingEvents.select notesWithU.entityTypes startsWithU
      (.ofSchema v.index.schema) v.timeline = .ok found := by decide
  have sorted : found.Pairwise fun p q => (p.order q).isLE = true := by decide
  have answered : (matching notesWithU).points v = .ok ps := by
    have known : (matching notesWithU).check v.index = .ok () := by decide
    have sampled : notesWithU.sample v = .ok found := by
      rw [MatchingEvents.sample, compiled]
      exact selected
    rw [points, known, ok_bind, candidates, sampled, ok_bind]
    show Except.ok (found.mergeSort fun p q => (p.order q).isLE).eraseDups = _
    rw [List.mergeSort_of_pairwise sorted]
    decide
  exact ⟨reachable, answered, ⟨.outOfBounds 0 1 0, by decide⟩,
    points_matching_exact reachable answered⟩

end Notes

end Sampling
end Hindsight
