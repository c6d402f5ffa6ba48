import Hindsight.Proofs.Observation.Matching

/-!
# The shape of sampled points

A point holds its own entity in its context from the start, and entities that join the context leave
it there (`ObservationPoint.HoldsOwn.withEntity`), in whichever order and from wherever they come.
So it holds in the points of all rules (`Sampling.holdsOwn_of_candidates`). Of equal points the
first one is kept (`pairwise_idxOf_eraseDups`), in the order of points or in that of the rule
(`Sampling.points_shape`).
-/

namespace Hindsight

/-- **Of equal items the first is kept**: what is left of a list stands in the order in which it
first occurs. -/
theorem pairwise_idxOf_eraseDups {α : Type} [DecidableEq α] (l : List α) :
    l.eraseDups.Pairwise fun a b => l.idxOf a < l.idxOf b := by
  induction l using List.reverseRecOn with
  | nil => exact List.Pairwise.nil
  | append_singleton l a ih =>
    have front : l.eraseDups.Pairwise fun b c => (l ++ [a]).idxOf b < (l ++ [a]).idxOf c := by
      refine ih.imp_of_mem fun {b c} hb hc less => ?_
      rwa [List.idxOf_append_of_mem (List.mem_eraseDups.1 hb),
        List.idxOf_append_of_mem (List.mem_eraseDups.1 hc)]
    rw [List.eraseDups_append]
    by_cases again : a ∈ l
    · have nothing : [a].removeAll l = [] := by simp [List.removeAll, again]
      rwa [nothing, List.eraseDups_nil, List.append_nil]
    · have added : ([a].removeAll l).eraseDups = [a] := by
        simp [List.removeAll, again, List.eraseDups_cons]
      rw [added, List.pairwise_append]
      refine ⟨front, List.pairwise_singleton _ _, fun b hb c hc => ?_⟩
      obtain rfl := List.mem_singleton.1 hc
      have member := List.mem_eraseDups.1 hb
      rw [List.idxOf_append_of_mem member, List.idxOf_append_of_notMem again]
      exact Nat.lt_add_right _ (List.idxOf_lt_length_of_mem member)

namespace ObservationPoint

variable {p : ObservationPoint}

/-- The context of a point holds its own entity. -/
def HoldsOwn (p : ObservationPoint) : Prop := p.context.get? p.entityType = some p.entityId

/-- The entity of a point and its date. -/
def place (p : ObservationPoint) : String × String × EventDate :=
  (p.entityType, p.entityId, ⟨p.instant, p.eventId⟩)

/-- An entity that joins the context moves no point: its entity, its instant and its event stay. -/
@[simp] theorem place_withEntity (p : ObservationPoint) (type id : String) :
    (p.withEntity type id).place = p.place := by
  rw [withEntity]
  split <;> rfl

/-- Entities that join the context move no point, by induction on them. -/
theorem place_foldl_withEntity (p : ObservationPoint) (es : List (String × String)) :
    (es.foldl (fun p e => p.withEntity e.1 e.2) p).place = p.place := by
  induction es generalizing p with
  | nil => rfl
  | cons e es ih => rw [List.foldl_cons, ih, place_withEntity]

namespace HoldsOwn

/-- A point of an entity at an instant holds the entity in its context, as the only one there. -/
theorem create (type id : String) (t : Time.Instant) : (create type id t).HoldsOwn :=
  Dict.get?_insert_self ..

/-- An entity that joins the context never replaces the point's own. One of the same type is refused
a place there. -/
theorem withEntity (h : p.HoldsOwn) (type id : String) : (p.withEntity type id).HoldsOwn := by
  rw [ObservationPoint.withEntity]
  split
  · exact h
  · next other => exact (Dict.get?_insert_of_ne (Ne.symm other) p.context id).trans h

/-- **Whatever entities join the context**, the point's own stays. This is the run of the step
before. -/
theorem foldl_withEntity (h : p.HoldsOwn) (es : List (String × String)) :
    (es.foldl (fun p e => p.withEntity e.1 e.2) p).HoldsOwn := by
  induction es generalizing p with
  | nil => exact h
  | cons e es ih => exact ih (h.withEntity e.1 e.2)

/-- A point of an event holds its entity in its context, among all entities of the event. -/
theorem ofEvent (e : Event) (type id : String) : (ofEvent e type id).HoldsOwn :=
  foldl_withEntity (p := { ObservationPoint.create type id e.time with eventId := e.id })
    (create type id e.time) _

end HoldsOwn
end ObservationPoint

open ObservationPoint (HoldsOwn)

/-- The points of an event hold their own entities, one point for each entity of a wanted type. -/
theorem Event.holdsOwn_of_mem_pointsOf {e : Event} {types : List String} {p : ObservationPoint}
    (h : p ∈ e.pointsOf types) : p.HoldsOwn := by
  obtain ⟨type, -, id, -, rfl⟩ := Event.mem_pointsOf_iff.1 h
  exact .ofEvent e type id

/-- The point of a date holds its own entity, whether it is given by an instant or by an event. -/
theorem IndexView.holdsOwn_dated (v : IndexView) (type id : String) (d : EventDate) :
    (v.dated type id d).HoldsOwn := by
  have alone : HoldsOwn { ObservationPoint.create type id d.instant with eventId := d.eventId } :=
    .create type id d.instant
  rw [dated]
  split
  · exact alone.foldl_withEntity _
  · exact alone

/-- The point of a date stands where the date says. -/
@[simp] theorem IndexView.place_dated (v : IndexView) (type id : String) (d : EventDate) :
    (v.dated type id d).place = (type, id, d) := by
  rw [dated]
  split
  · exact ObservationPoint.place_foldl_withEntity _ _
  · rfl

namespace Sampling

/-- The entities and dates that a rule lists one by one. -/
def listing : Sampling → List (String × String × EventDate)
  | listed es => es.flatMap fun d => d.dates.map fun date => (d.entityType, d.entityId, date)
  | withScopes s =>
    s.dates.entries.flatMap fun d => d.2.map fun entry => (s.entityType, d.1, entry.date)
  | _ => []

variable {s : Sampling} {v : IndexView} {ps qs : List ObservationPoint}

/-- **The points of all rules** hold their own entity. Features that read the entity of a point by
its type find it there. -/
theorem holdsOwn_of_candidates (h : s.candidates v = .ok qs) : ∀ p ∈ qs, p.HoldsOwn := by
  intro p hp
  cases s with
  | even steps =>
    obtain ⟨step, -, made⟩ := bind_eq_ok_iff.1 h
    obtain rfl := Except.ok.inj made
    obtain ⟨type, -, hp⟩ := List.mem_flatMap.1 hp
    obtain ⟨id, -, hp⟩ := List.mem_flatMap.1 hp
    rw [EvenSteps.ofEntity] at hp
    split at hp
    · cases hp
    · obtain ⟨t, -, rfl⟩ := List.mem_map.1 hp
      exact .create type id t
  | fixed dates =>
    obtain rfl := Except.ok.inj h
    obtain ⟨type, -, hp⟩ := List.mem_flatMap.1 hp
    obtain ⟨id, -, hp⟩ := List.mem_flatMap.1 hp
    obtain ⟨t, -, rfl⟩ := List.mem_map.1 hp
    exact .create type id t
  | listed entities =>
    obtain rfl := Except.ok.inj h
    obtain ⟨d, -, hp⟩ := List.mem_flatMap.1 hp
    obtain ⟨date, -, rfl⟩ := List.mem_map.1 hp
    exact v.holdsOwn_dated _ _ date
  | allEvents =>
    obtain rfl := Except.ok.inj h
    obtain ⟨e, -, first⟩ := List.mem_filterMap.1 hp
    obtain ⟨entity, -, rfl⟩ := Option.map_eq_some_iff.1 first
    exact .ofEvent e _ _
  | allEventsOf types =>
    obtain rfl := Except.ok.inj h
    obtain ⟨e, -, hp⟩ := List.mem_flatMap.1 hp
    exact Event.holdsOwn_of_mem_pointsOf hp
  | matching events =>
    obtain ⟨c, compiled, selected⟩ := bind_eq_ok_iff.1 h
    replace compiled := mapError_eq_ok_iff.1 compiled
    obtain ⟨e, -, -, hp⟩ := (MatchingEvents.mem_select_iff (Binder.recalls_ofSchema ..)
      ⟨true, _, compiled⟩ selected).1 hp
    exact Event.holdsOwn_of_mem_pointsOf hp
  | withScopes dates =>
    obtain rfl := Except.ok.inj h
    obtain ⟨d, -, hp⟩ := List.mem_flatMap.1 hp
    obtain ⟨date, -, rfl⟩ := List.mem_map.1 hp
    exact (v.holdsOwn_dated _ _ date.date).foldl_withEntity _

/-- The points of a rule that lists them come as they are listed: none is added, left out or
moved. -/
theorem map_place_of_candidates (as_listed : s.isOrdered = false)
    (h : s.candidates v = .ok qs) : qs.map ObservationPoint.place = s.listing := by
  cases s with
  | listed entities =>
    obtain rfl := Except.ok.inj h
    rw [List.map_flatMap, listing]
    refine congrArg (List.flatMap · entities) (funext fun d => ?_)
    rw [EntityDates.sample, List.map_map]
    exact List.map_congr_left fun date _ => v.place_dated _ _ date
  | withScopes dates =>
    obtain rfl := Except.ok.inj h
    rw [ScopedDates.sample, List.map_flatMap, listing]
    refine congrArg (List.flatMap · dates.dates.entries) (funext fun d => ?_)
    rw [List.map_map]
    exact List.map_congr_left fun entry _ =>
      (ObservationPoint.place_foldl_withEntity _ _).trans (v.place_dated _ _ entry.date)
  | _ => cases as_listed

/-- **The shape of sampled points.** No point comes twice. The points of a rule that leaves the
order open are in strict order; those that a rule lists come as they are listed, less those that
occur before. The context of each holds its own entity, whatever entities of events and scopes
joined it. -/
theorem points_shape (answered : s.points v = .ok ps) :
    ps.Nodup ∧
      (s.isOrdered = true → ps.Pairwise fun p q => p.order q = .lt) ∧
      (s.isOrdered = false → ∃ qs, s.candidates v = .ok qs ∧
        qs.map ObservationPoint.place = s.listing ∧ (∀ p, p ∈ ps ↔ p ∈ qs) ∧
          ps.Pairwise fun p q => qs.idxOf p < qs.idxOf q) ∧
      ∀ p ∈ ps, p.context.get? p.entityType = some p.entityId := by
  obtain ⟨⟨⟩, -, answered⟩ := bind_eq_ok_iff.1 answered
  obtain ⟨qs, found, kept⟩ := bind_eq_ok_iff.1 answered
  obtain rfl := Except.ok.inj kept
  refine ⟨nodup_eraseDups _, fun open_order => ?_, fun as_listed => ?_, fun p hp => ?_⟩
  · rw [if_pos open_order]
    exact ObservationPoint.pairwise_eraseDups_mergeSort qs
  · rw [if_neg (by simp [as_listed])]
    exact ⟨qs, found, map_place_of_candidates as_listed found, fun _ => List.mem_eraseDups,
      pairwise_idxOf_eraseDups qs⟩
  · refine holdsOwn_of_candidates found p ?_
    replace hp := List.mem_eraseDups.1 hp
    split at hp
    · exact List.mem_mergeSort.1 hp
    · exact hp

/-- Three rounds at a patient, of which the last one repeats the first. Their scopes name another
patient. -/
def rounds : ScopedDates :=
  let day (n : Nat) : Time.Instant := (Time.Instant.ofParts? n 0 0).getD .zero
  let scope := [("doctor", "7"), ("patient", "9")]
  ⟨"patient", ⟨[("1", [⟨⟨day 5, some "c"⟩, scope⟩, ⟨⟨day 3, none⟩, scope⟩,
    ⟨⟨day 5, some "c"⟩, scope⟩])]⟩⟩

/-- Three dates of one patient make two points, since two of them are equal. The points stay in the
order of the dates, although the second one is the earlier, and each holds its own entity. -/
theorem points_of_rounds :
    let v : IndexView := ⟨notesIndex, none⟩
    let context : Entities := ⟨[("doctor", "7"), ("patient", "1")]⟩
    let p : ObservationPoint := ⟨"patient", "1", (Time.Instant.ofParts? 5 0 0).getD .zero,
      some "c", context⟩
    let q : ObservationPoint := ⟨"patient", "1", (Time.Instant.ofParts? 3 0 0).getD .zero,
      none, context⟩
    (withScopes rounds).candidates v = .ok [p, q, p] ∧
      (withScopes rounds).points v = .ok [p, q] ∧ [p, q].Nodup ∧
        [p, q].Pairwise (fun a b => [p, q, p].idxOf a < [p, q, p].idxOf b) ∧
          ∀ a ∈ [p, q], a.context.get? a.entityType = some a.entityId := by
  intro v context p q
  have found : (withScopes rounds).candidates v = .ok [p, q, p] := by decide
  have answered : (withScopes rounds).points v = .ok [p, q] := by decide
  obtain ⟨nodup, -, as_listed, own⟩ := points_shape answered
  obtain ⟨qs, same, -, -, first⟩ := as_listed rfl
  obtain rfl := Except.ok.inj (found.symm.trans same)
  exact ⟨found, answered, nodup, first, own⟩

end Sampling
end Hindsight
