import Hindsight.Proofs.Except
import Hindsight.Proofs.Observation.Order
import Hindsight.Proofs.Observation.Steps
import Hindsight.Proofs.Store.Representation

/-!
# Evenly spaced points

The points of an entity are at the instants for the times on its timeline
(`Sampling.exists_isEven`), and these are the times of its events that are seen
(`IndexView.mem_times_iff`). Sorting puts the points of an entity in the order of time, so that its
instants are the ones that cover its history (`ObservationPoint.instantsOf_eq`), however often its
type is named.
-/

namespace Hindsight

open Time (Instant)

namespace IndexView

variable {v : IndexView} {type id : String}

/-- The times at which the events of an entity that are seen happened. -/
def timesOf (v : IndexView) (type id : String) : Set Instant :=
  {t | ∃ e ∈ v.index.arena, e.visibleIn v.experiment = true ∧
    e.entities.get? type = some id ∧ e.time = t}

variable (represents : v.index.Represents) (ordered : ∀ e ∈ v.index.arena, e.entities.Ordered)
include represents

/-- The visible events of an entity are those of the arena that have the entity and that the view
may see. -/
theorem selects_visible (type id : String) :
    (v.visible (v.index.entityEvents type id)).Selects v.index.arena fun e =>
      (type, id) ∈ e.entities.entries ∧ e.visibleIn v.experiment = true := by
  refine ((represents.selects_range type id none .all).filter fun e =>
    e.visibleIn v.experiment).congr fun e => ?_
  simp [Time.Bounds.all, Time.Bounds.contains, Time.Bounds.isBefore, Time.Bounds.reaches]

/-- A timeline lists the times in order. This is what makes its first and last time the least and
the greatest. -/
theorem times_inOrder (type id : String) : (v.times type id).Pairwise (· ≤ ·) := by
  rw [times, entityEvents, List.map_map, List.pairwise_map]
  exact (selects_visible represents type id).lists.inOrder

include ordered

/-- The times that steps start and end with are those of the visible events of the entity, as they
are in the arena. -/
theorem mem_times_iff {t : Instant} : t ∈ v.times type id ↔ t ∈ v.timesOf type id := by
  have selects := selects_visible represents type id
  rw [times, entityEvents, List.map_map, List.mem_map]
  constructor
  · rintro ⟨x, hx, rfl⟩
    obtain ⟨stored, carries, seen⟩ := (selects.mem_iff x).1 hx
    have member := Array.mem_of_getElem? stored
    exact ⟨x.event, member, seen, (Dict.mem_entries_iff (ordered _ member)).1 carries, rfl⟩
  · rintro ⟨e, member, seen, carries, rfl⟩
    obtain ⟨n, inside, rfl⟩ := Array.mem_iff_getElem.1 member
    have listed := (Dict.mem_entries_iff (ordered _ member)).2 carries
    exact ⟨⟨n, v.index.arena[n]⟩,
      (selects.mem_iff _).2 ⟨Array.getElem?_eq_getElem inside, listed, seen⟩, rfl⟩

end IndexView

namespace ObservationPoint

variable {ps qs : List ObservationPoint}

/-- The instants of the points of an entity. -/
def instantsOf (ps : List ObservationPoint) (type id : String) : List Instant :=
  (ps.filter fun p => p.entityType = type ∧ p.entityId = id).map ObservationPoint.instant

/-- Points of one entity, with nothing but an instant each, are ordered by time, since they are
alike in all other fields. -/
theorem lt_of_order_create {type id : String} {s t : Instant}
    (h : (create type id s).order (create type id t) = .lt) : s < t := by
  have fields : (create type id s).order (create type id t) = compare s t := by
    have context (es : Entities) : Entities.order es es = .eq := Std.ReflCmp.compare_self
    simp [order, create, context]
  rw [fields] at h
  exact compare_lt_iff_lt.1 h

/-- Points in strict order are determined by which they are. So it is enough to know what is among
the points of a rule. -/
theorem eq_of_mem_iff (sorted : ps.Pairwise fun p q => p.order q = .lt)
    (sorted' : qs.Pairwise fun p q => p.order q = .lt) (same : ∀ p, p ∈ ps ↔ p ∈ qs) :
    ps = qs := by
  have irreflexive : Std.Irrefl fun p q : ObservationPoint => p.order q = .lt := by
    refine ⟨fun p less => ?_⟩
    have same : p.order p = .eq := Std.ReflCmp.compare_self
    rw [same] at less
    cases less
  have asymmetric : Std.Antisymm fun p q : ObservationPoint => p.order q = .lt := by
    refine ⟨fun p q less less' => ?_⟩
    have turned : q.order p = (p.order q).swap := Std.OrientedCmp.eq_swap
    rw [turned, less] at less'
    cases less'
  exact sorted.eq_of_mem_iff sorted' same

/-- **The instants of the points of an entity** come in order, each once. They are those of the
steps, since both lists are strictly in order and have the same members. -/
theorem instantsOf_eq {type id : String} {ts : List Instant}
    (sorted : ps.Pairwise fun p q => p.order q = .lt)
    (created : ∀ p ∈ ps, p = create p.entityType p.entityId p.instant)
    (increasing : ts.Pairwise (· < ·)) (mem_iff : ∀ t, create type id t ∈ ps ↔ t ∈ ts) :
    instantsOf ps type id = ts := by
  have own {p : ObservationPoint}
      (h : p ∈ ps.filter fun p => p.entityType = type ∧ p.entityId = id) :
      p ∈ ps ∧ p = create type id p.instant := by
    obtain ⟨member, of_entity⟩ := List.mem_filter.1 h
    obtain ⟨rfl, rfl⟩ := of_decide_eq_true of_entity
    exact ⟨member, created p member⟩
  have increasing' : (instantsOf ps type id).Pairwise (· < ·) := by
    refine List.pairwise_map.2 ((sorted.filter _).imp_of_mem fun {p q} hp hq less => ?_)
    rw [(own hp).2, (own hq).2] at less
    exact lt_of_order_create less
  refine increasing'.eq_of_mem_iff increasing fun t => ?_
  rw [← mem_iff, instantsOf, List.mem_map]
  constructor
  · rintro ⟨p, hp, rfl⟩
    exact (own hp).2 ▸ (own hp).1
  · intro member
    exact ⟨create type id t, List.mem_filter.2 ⟨member, by simp [create]⟩, rfl⟩

end ObservationPoint

namespace Sampling

variable {v : IndexView} {steps : EvenSteps}

/-- What a rule for evenly spaced points comes to: its step, and its points in strict order, one for
each of the instants for each entity. -/
structure IsEven (v : IndexView) (steps : EvenSteps) (step : Option { ms : Int // 0 < ms })
    (ps : List ObservationPoint) : Prop where
  found : steps.step = .ok step
  long : step.map Subtype.val = steps.unit.map fun unit => steps.count * unit.millis
  answered : (even steps).points v = .ok ps
  sorted : ps.Pairwise fun p q => p.order q = .lt
  mem_iff (p : ObservationPoint) : p ∈ ps ↔
    ∃ type ∈ steps.entityTypes, ∃ id ∈ v.index.entityIds type,
      ∃ t ∈ EvenSteps.instantsOver step (v.times type id), p = .create type id t

/-- **Evenly spaced points are found** if the step is positive and not too long and the types are
known. -/
theorem exists_isEven (v : IndexView) (steps : EvenSteps) (positive : 1 ≤ steps.count)
    (fits : ∀ unit ∈ steps.unit, (unit.length? steps.count).isSome = true)
    (known : ∀ type ∈ steps.entityTypes, v.index.knowsEntityType type = true) :
    ∃ step ps, IsEven v steps step ps := by
  obtain ⟨step, found, long⟩ := EvenSteps.step_eq_ok positive fits
  have checked : (even steps).check v.index = .ok () := by
    have all_known : (even steps).namedTypes.find? (fun t => !v.index.knowsEntityType t) = none :=
      List.find?_eq_none.2 fun type named => by simp [known type named]
    rw [check, all_known]
    simp only [if_neg (show ¬steps.count < 1 by omega)]
    rfl
  let qs := steps.entityTypes.flatMap fun type =>
    (v.index.entityIds type).flatMap fun id => EvenSteps.ofEntity v step type id
  have sampled : (even steps).candidates v = .ok qs := by
    rw [candidates, EvenSteps.sample, found]
    rfl
  refine ⟨step, (qs.mergeSort fun p q => (p.order q).isLE).eraseDups, found, long, ?_,
    ObservationPoint.pairwise_eraseDups_mergeSort qs, fun p => ?_⟩
  · rw [points, checked, ok_bind, sampled]
    rfl
  · rw [List.mem_eraseDups, List.mem_mergeSort]
    simp only [qs, List.mem_flatMap, EvenSteps.ofEntity_eq, List.mem_map, eq_comm]

namespace IsEven

variable {step step' : Option { ms : Int // 0 < ms }} {ps qs : List ObservationPoint}
  {types : List String} {type id : String} {t : Instant}

/-- Types that are named again add no points, because a rule keeps each point once. -/
theorem eq_of_types (h : IsEven v steps step ps)
    (h' : IsEven v { steps with entityTypes := types } step' qs)
    (same : ∀ type, type ∈ types ↔ type ∈ steps.entityTypes) : qs = ps := by
  obtain rfl : step = step' := Except.ok.inj (h.found.symm.trans h'.found)
  refine ObservationPoint.eq_of_mem_iff h'.sorted h.sorted fun p => ?_
  rw [h.mem_iff, h'.mem_iff]
  exact exists_congr fun type => and_congr_left fun _ => same type

/-- A point of even steps is one without an event, with nothing but its own entity in its
context. -/
theorem eq_create {p : ObservationPoint} (h : IsEven v steps step ps) (hp : p ∈ ps) :
    p = .create p.entityType p.entityId p.instant := by
  obtain ⟨type, -, id, -, t, -, rfl⟩ := (h.mem_iff p).1 hp
  rfl

/-- The points of an entity are at the instants for its times. No other entity has points at its
name. -/
theorem create_mem_iff (h : IsEven v steps step ps) : .create type id t ∈ ps ↔
    type ∈ steps.entityTypes ∧ id ∈ v.index.entityIds type ∧
      t ∈ EvenSteps.instantsOver step (v.times type id) := by
  rw [h.mem_iff]
  constructor
  · rintro ⟨type', named, id', listed, t', at_time, same⟩
    obtain ⟨rfl, rfl, rfl, -, -⟩ := ObservationPoint.mk.inj same
    exact ⟨named, listed, at_time⟩
  · rintro ⟨named, listed, at_time⟩
    exact ⟨type, named, id, listed, t, at_time, rfl⟩

/-- **The points of an entity cover its history,** from its first event to its last, in even steps.
Leap seconds are left out of this, since steps are counted in milliseconds. -/
theorem covers (h : IsEven v steps step ps) (named : type ∈ steps.entityTypes)
    (listed : id ∈ v.index.entityIds type) (inOrder : (v.times type id).Pairwise (· ≤ ·))
    (nonempty : v.times type id ≠ []) :
    ∃ first last, IsLeast {t | t ∈ v.times type id} first ∧
      IsGreatest {t | t ∈ v.times type id} last ∧
        (¬first.IsLeap → ¬last.IsLeap →
          steps.Covers first last (ObservationPoint.instantsOf ps type id)) := by
  obtain ⟨first, last, least, greatest, covers⟩ :=
    EvenSteps.covers_instantsOver h.long inOrder nonempty
  refine ⟨first, last, least, greatest, fun hfirst hlast => ?_⟩
  replace covers := covers hfirst hlast
  rwa [ObservationPoint.instantsOf_eq h.sorted (fun p => h.eq_create) covers.increasing fun t => ?_]
  rw [h.create_mem_iff]
  exact ⟨fun at_time => at_time.2.2, fun at_time => ⟨named, listed, at_time⟩⟩

end IsEven

/-- **Evenly spaced points cover the history of each entity.** They are found whenever the step is
at least one unit and not too long and the types are known, and naming a type again adds none. Only
the entities of these types that have an event which is seen have points; the instants of each cover
its events from the first to the last, leap seconds aside. -/
theorem points_even (reachable : v.index.Reachable)
    (ordered : ∀ e ∈ v.index.arena, e.entities.Ordered) (positive : 1 ≤ steps.count)
    (fits : ∀ unit ∈ steps.unit, (unit.length? steps.count).isSome = true)
    (known : ∀ type ∈ steps.entityTypes, v.index.knowsEntityType type = true) :
    ∃ ps, (even steps).points v = .ok ps ∧
      (∀ types, (∀ type, type ∈ types ↔ type ∈ steps.entityTypes) →
        (even { steps with entityTypes := types }).points v = .ok ps) ∧
      (∀ p ∈ ps, p.entityType ∈ steps.entityTypes ∧
        (v.timesOf p.entityType p.entityId).Nonempty ∧
          p = .create p.entityType p.entityId p.instant) ∧
      ∀ type ∈ steps.entityTypes, ∀ id, (v.timesOf type id).Nonempty →
        ∃ first last, IsLeast (v.timesOf type id) first ∧ IsGreatest (v.timesOf type id) last ∧
          (¬first.IsLeap → ¬last.IsLeap →
            steps.Covers first last (ObservationPoint.instantsOf ps type id)) := by
  have represents := reachable.represents ordered
  have listed (type id : String) : v.timesOf type id = {t | t ∈ v.times type id} :=
    Set.ext fun t => (v.mem_times_iff represents ordered).symm
  obtain ⟨step, ps, h⟩ := exists_isEven v steps positive fits known
  refine ⟨ps, h.answered, fun types same => ?_, fun p hp => ?_, fun type named id seen => ?_⟩
  · obtain ⟨step', qs, h'⟩ := exists_isEven v { steps with entityTypes := types } positive fits
      fun type named => known type ((same type).1 named)
    rw [h'.answered, h.eq_of_types h' same]
  · obtain ⟨named, -, at_time⟩ := h.create_mem_iff.1 (h.eq_create hp ▸ hp)
    refine ⟨named, ?_, h.eq_create hp⟩
    rw [listed]
    exact List.exists_mem_of_ne_nil _ fun none => by
      rw [none] at at_time
      cases at_time
  · have catalogued : id ∈ v.index.entityIds type := by
      obtain ⟨t, e, member, -, carries, -⟩ := seen
      exact (represents.catalogue.mem_iff type id).2
        ⟨e, member, (Dict.mem_entries_iff (ordered e member)).2 carries⟩
    rw [listed] at seen ⊢
    exact h.covers named catalogued (v.times_inOrder represents type id)
      (List.ne_nil_of_mem seen.some_mem)

section Weather

/-- A report on the weather of a city. -/
def weather (city : String) (t : Instant) : Event where
  type := "weather"
  time := t
  entities := ⟨[("city", city)]⟩
  id := none
  experiment := none
  attributes := .empty

/-- The index of some reports. -/
def weatherIndex (reports : List Event) : EventIndex :=
  ((EventIndex.empty true).insertMany reports).2

/-- An index of weather reports is reached by inserting them, so it may stand in the examples that
ask for one. -/
theorem reachable_weatherIndex (reports : List Event) : (weatherIndex reports).Reachable :=
  (EventIndex.Reachable.empty true).insertMany reports

/-- Two reports on one city, and between them one on another. -/
def reports : List Event :=
  [weather "Sydney" ⟨5, 0, 0, by decide⟩, weather "Perth" ⟨4, 0, 0, by decide⟩,
    weather "Sydney" ⟨3, 0, 0, by decide⟩]

/-- Two reports two days apart are covered by daily steps. The city is named twice as a type, which
changes nothing. -/
theorem points_even_of_reports :
    let v : IndexView := ⟨weatherIndex reports, none⟩
    let steps : EvenSteps := ⟨["city", "city"], some .day, 1⟩
    (v.index.Reachable ∧ (∀ e ∈ v.index.arena, e.entities.Ordered) ∧
      (Time.TimeUnit.day.length? 1).isSome = true ∧ v.index.knowsEntityType "city" = true) ∧
      ∃ ps, (even steps).points v = .ok ps ∧
        (even { steps with entityTypes := ["city"] }).points v = .ok ps ∧
          steps.Covers ⟨3, 0, 0, by decide⟩ ⟨5, 0, 0, by decide⟩
            (ObservationPoint.instantsOf ps "city" "Sydney") := by
  intro v steps
  have reachable : v.index.Reachable := reachable_weatherIndex reports
  have ordered : ∀ e ∈ v.index.arena, e.entities.Ordered := by decide
  have fits : (Time.TimeUnit.day.length? 1).isSome = true := by decide
  have all_fit : ∀ unit ∈ steps.unit, (unit.length? steps.count).isSome = true := by decide
  have known : v.index.knowsEntityType "city" = true := by decide
  have all_known : ∀ type ∈ steps.entityTypes, v.index.knowsEntityType type = true := by decide
  obtain ⟨ps, answered, again, -, covers⟩ :=
    points_even reachable ordered (le_refl steps.count) all_fit all_known
  have times : v.times "city" "Sydney" = [⟨3, 0, 0, by decide⟩, ⟨5, 0, 0, by decide⟩] := by
    decide
  have seen (t : Instant) : t ∈ v.timesOf "city" "Sydney" ↔
      t = ⟨3, 0, 0, by decide⟩ ∨ t = ⟨5, 0, 0, by decide⟩ := by
    rw [← v.mem_times_iff (reachable.represents ordered) ordered, times]
    simp
  have least : IsLeast (v.timesOf "city" "Sydney") ⟨3, 0, 0, by decide⟩ :=
    ⟨(seen _).2 (.inl rfl), fun t ht => by rcases (seen t).1 ht with rfl | rfl <;> decide⟩
  have greatest : IsGreatest (v.timesOf "city" "Sydney") ⟨5, 0, 0, by decide⟩ :=
    ⟨(seen _).2 (.inr rfl), fun t ht => by rcases (seen t).1 ht with rfl | rfl <;> decide⟩
  obtain ⟨first, last, least', greatest', covered⟩ :=
    covers "city" (by decide) "Sydney" ⟨_, least.1⟩
  obtain rfl := least.unique least'
  obtain rfl := greatest.unique greatest'
  exact ⟨⟨reachable, ordered, fits, known⟩, ps, answered, again ["city"] (by simp [steps]),
    covered (by decide) (by decide)⟩

/-- Half a millisecond before the last instant. -/
def late : Instant := ⟨Time.maxDay, 86399, 999499999, by decide⟩

/-- **Where evenly spaced points end.** A type of which no entity is known is refused, even next to
one of which some are. A history that ends less than a millisecond before the last instant has its
last point at its last event, neither a millisecond after it nor at the last instant. -/
theorem points_even_limits :
    let known : IndexView := ⟨weatherIndex reports, none⟩
    let atEnd : IndexView := ⟨weatherIndex [weather "Hobart" late], none⟩
    (known.index.Reachable ∧ (Time.TimeUnit.day.length? 1).isSome = true ∧
      (known.timesOf "city" "Sydney").Nonempty ∧
        (even ⟨["city", "planet"], some .day, 1⟩).points known = .error (.unknownType "planet")) ∧
      atEnd.index.Reachable ∧ IsGreatest (atEnd.timesOf "city" "Hobart") late ∧
        (even ⟨["city"], none, 1⟩).points atEnd = .ok [.create "city" "Hobart" late] ∧
          Instant.latest.nanos < late.nanos + 1000000 ∧ late < Instant.latest := by
  intro known atEnd
  have reachable : known.index.Reachable := reachable_weatherIndex _
  have reachable' : atEnd.index.Reachable := reachable_weatherIndex _
  have ordered : ∀ e ∈ known.index.arena, e.entities.Ordered := by decide
  have ordered' : ∀ e ∈ atEnd.index.arena, e.entities.Ordered := by decide
  have seen (t : Instant) : t ∈ atEnd.timesOf "city" "Hobart" ↔ t = late := by
    have times : atEnd.times "city" "Hobart" = [late] := by decide
    rw [← atEnd.mem_times_iff (reachable'.represents ordered') ordered', times]
    simp
  have point : (even ⟨["city"], none, 1⟩).points atEnd = .ok [.create "city" "Hobart" late] := by
    have checked : (even ⟨["city"], none, 1⟩).check atEnd.index = .ok () := by decide
    have sampled : (even ⟨["city"], none, 1⟩).candidates atEnd =
        .ok [.create "city" "Hobart" late] := by decide
    rw [points, checked, ok_bind, sampled, ok_bind]
    show Except.ok ([ObservationPoint.create "city" "Hobart" late].mergeSort _).eraseDups = _
    rw [List.mergeSort_singleton]
    rfl
  refine ⟨⟨reachable, by decide, ⟨⟨3, 0, 0, by decide⟩, ?_⟩, by decide⟩, reachable',
    ⟨(seen _).2 rfl, fun t ht => ((seen t).1 ht).le⟩, point, by decide, by decide⟩
  rw [← known.mem_times_iff (reachable.represents ordered) ordered]
  decide

end Weather

end Sampling
end Hindsight
