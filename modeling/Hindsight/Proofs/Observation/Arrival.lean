import Hindsight.Proofs.Observation.Order
import Hindsight.Proofs.Observation.Steps
import Hindsight.Proofs.Plan.Binding
import Hindsight.Proofs.Store.Arrival

/-!
# Points do not depend on the order of arrival

Each rule for points reads an index through something that indexes which agree up to ties have in
common: its entities, its events by id, its schema, the times of the events of an entity, and the
events that are seen, in some order (`EventIndex.AgreesUpToTies.related_candidates`). A condition is
bound while the events are gone through, but the answer for an event does not depend on the events
before it (`MatchingEvents.select_eq_mapM`). Where the order of the events shows in the points as
they come, they are put in order afterwards, so that in the end the points are the same
(`EventIndex.AgreesUpToTies.related_points`, `Sampling.points_of_arrival`).
-/

namespace Hindsight

namespace MatchingEvents

/-- The points of an event, if a condition holds on it. -/
def pointsIf (types : List String) (c : Condition) (s : Schema) (e : Event) :
    Except SamplingFault (List ObservationPoint) :=
  let points := e.pointsOf types
  if points.isEmpty then .ok []
  else
    match Binder.judge s c e.type with
    | .error fault => .error (.condition fault)
    | .ok false => .ok []
    | .ok true =>
      match c.formula.holds (.ofEvent e) with
      | .ok true => .ok points
      | _ => .ok []

/-- The points of all events, those of one event before those of the rest. -/
def pointsBefore (first : Except SamplingFault (List ObservationPoint))
    (rest : Except SamplingFault (List (List ObservationPoint))) :
    Except SamplingFault (List ObservationPoint) :=
  (first >>= fun points => rest >>= fun others => pure (points :: others)).map List.flatten

/-- Where the first event is answered, its points come before those of the rest, or the fault of the
rest stays. -/
theorem pointsBefore_ok (points : List ObservationPoint)
    (rest : Except SamplingFault (List (List ObservationPoint))) :
    pointsBefore (.ok points) rest = (rest.map List.flatten).map (points ++ ·) := by
  cases rest with
  | error fault => rfl
  | ok others => rfl

/-- An event without points adds nothing to those of the rest, so passing over it or not comes to
the same. -/
theorem pointsBefore_nil (rest : Except SamplingFault (List (List ObservationPoint))) :
    pointsBefore (.ok []) rest = rest.map List.flatten := by
  cases rest with
  | error fault => rfl
  | ok others => rfl

/-- **Events are selected one by one,** whatever the binder remembers from those before. What it
remembers of the condition is what it would find out again. -/
theorem select_eq_mapM {s : Schema} {c : Condition} {b : Binder} (h : b.RecallsCondition s c)
    (types : List String) (es : List Event) :
    select types c b es = (es.mapM (pointsIf types c s)).map List.flatten := by
  induction es generalizing b with
  | nil => rfl
  | cons e es ih =>
    rw [List.mapM_cons]
    show _ = pointsBefore (pointsIf types c s e) (es.mapM (pointsIf types c s))
    rw [select, pointsIf]
    split
    · rw [pointsBefore_nil, ih h]
    · obtain ⟨b', bound, h'⟩ := h.bindCondition e.type
      have skipped := (ih h').trans (pointsBefore_nil _).symm
      rw [bound]
      cases Binder.judge s c e.type with
      | error fault => rfl
      | ok applies =>
        cases applies with
        | false => exact skipped
        | true =>
          cases c.formula.holds (.ofEvent e) with
          | error fault => exact skipped
          | ok holds =>
            cases holds with
            | false => exact skipped
            | true =>
              rw [pointsBefore_ok, ← ih h']

end MatchingEvents

namespace EvenSteps

/-- The points of an entity depend on the times of its events alone. Which events they are, and in
what order those of one time came, is not looked at. -/
theorem ofEntity_eq_of_times {v w : IndexView} {type id : String}
    (times : (v.entityEvents type id).map Event.time = (w.entityEvents type id).map Event.time)
    (step : Option { ms : Int // 0 < ms }) : ofEntity v step type id = ofEntity w step type id := by
  rw [ofEntity_eq, ofEntity_eq, IndexView.times, IndexView.times, times]

end EvenSteps

namespace EventIndex
namespace AgreesUpToTies

variable {x y : EventIndex} (h : x.AgreesUpToTies y) (experiment : Option String)

include h

/-- The entities of a type are the same, in the same order, since a catalogue is kept in the order
of ids. -/
theorem entityIds_eq (type : String) : x.entityIds type = y.entityIds type := by
  rw [EventIndex.entityIds, EventIndex.entityIds, h.catalogue]

/-- The same events are seen over both indexes, in the order of time on either side. -/
theorem timeline_perm :
    (IndexView.timeline ⟨x, experiment⟩).Perm (IndexView.timeline ⟨y, experiment⟩) :=
  (h.timeline.filter fun e => e.visibleIn experiment).perm

/-- The events of an entity that are seen have the same times. Ties change the events at a place,
and never the time. -/
theorem times_entityEvents_eq (type id : String) :
    (IndexView.entityEvents ⟨x, experiment⟩ type id).map Event.time =
      (IndexView.entityEvents ⟨y, experiment⟩ type id).map Event.time := by
  have seen := (h.range type id none .all).filter fun e => e.visibleIn experiment
  have times := seen.times
  rw [Timeline.times_eq_map, Timeline.times_eq_map] at times
  exact times

/-- A date gives the same point. If it names an event, both indexes find the same one by its id. -/
theorem dated_eq : IndexView.dated ⟨x, experiment⟩ = IndexView.dated ⟨y, experiment⟩ := by
  have found : IndexView.find? ⟨x, experiment⟩ = IndexView.find? ⟨y, experiment⟩ := by
    funext id
    rw [IndexView.find?, IndexView.find?, h.find?]
  funext type id d
  rw [IndexView.dated, IndexView.dated, found]

/-- A sampling is refused over both indexes or over neither, as the check asks for ids and for the
types that are listed. -/
theorem check_eq (s : Sampling) : s.check x = s.check y := by
  have known : x.knowsEntityType = y.knowsEntityType := by
    funext type
    rw [knowsEntityType, knowsEntityType, h.catalogue]
  simp only [Sampling.check, known]

/-- Even steps start and end at times of events, and these are the same without regard to ties. -/
theorem sample_even_eq (steps : EvenSteps) :
    steps.sample ⟨x, experiment⟩ = steps.sample ⟨y, experiment⟩ := by
  have each (step : Option { ms : Int // 0 < ms }) (type : String) :
      EvenSteps.ofEntity ⟨x, experiment⟩ step type =
        EvenSteps.ofEntity ⟨y, experiment⟩ step type :=
    funext fun id =>
      EvenSteps.ofEntity_eq_of_times (h.times_entityEvents_eq experiment type id) step
  simp only [EvenSteps.sample, h.entityIds_eq, each]

/-- Fixed dates read the entities of a type and nothing else, and the catalogues are the same. -/
theorem sample_fixed_eq (dates : FixedDates) :
    dates.sample ⟨x, experiment⟩ = dates.sample ⟨y, experiment⟩ := by
  simp only [FixedDates.sample, h.entityIds_eq]

/-- Listed dates read events by their ids, which are the same events in both indexes. -/
theorem sample_listed_eq (d : EntityDates) :
    d.sample ⟨x, experiment⟩ = d.sample ⟨y, experiment⟩ := by
  rw [EntityDates.sample, EntityDates.sample, h.dated_eq]

/-- Scoped dates read events by their ids as well, so they are read alike over both indexes. -/
theorem sample_withScopes_eq (s : ScopedDates) :
    s.sample ⟨x, experiment⟩ = s.sample ⟨y, experiment⟩ := by
  rw [ScopedDates.sample, ScopedDates.sample, h.dated_eq]

/-- The events that satisfy a condition give the same points in some order, unless the condition
cannot be bound. -/
theorem related_matching (events : MatchingEvents) :
    Related List.Perm (events.sample ⟨x, experiment⟩) (events.sample ⟨y, experiment⟩) := by
  rw [MatchingEvents.sample, MatchingEvents.sample]
  refine (Related.refl _).bind ?_
  rintro c _ rfl
  have recalls : (Binder.ofSchema y.schema).RecallsCondition y.schema c :=
    Binder.recalls_ofSchema ..
  rw [h.schema, MatchingEvents.select_eq_mapM recalls, MatchingEvents.select_eq_mapM recalls]
  exact (Related.mapM_of_perm (h.timeline_perm experiment)).map fun _ _ perm => perm.flatten

/-- **The points of a rule as they come** are the same, up to their order if they are put in order
afterwards. -/
theorem related_candidates (s : Sampling) :
    Related (fun ps qs => if s.isOrdered then ps.Perm qs else ps = qs)
      (s.candidates ⟨x, experiment⟩) (s.candidates ⟨y, experiment⟩) := by
  have seen := h.timeline_perm experiment
  cases s with
  | even steps => exact .of_eq (h.sample_even_eq experiment steps) fun _ => .refl _
  | fixed dates => exact .ok (.of_eq (h.sample_fixed_eq experiment dates))
  | listed entities =>
    exact .ok (congrArg entities.flatMap (funext (h.sample_listed_eq experiment)))
  | allEvents => exact .ok (seen.filterMap _)
  | allEventsOf types => exact .ok (seen.flatMap_right _)
  | matching events => exact h.related_matching experiment events
  | withScopes dates => exact .ok (h.sample_withScopes_eq experiment dates)

/-- **The points of a rule** are the same over indexes that agree up to ties, or the rule is refused
over both with the same fault. -/
theorem related_points (s : Sampling) :
    Related Eq (s.points ⟨x, experiment⟩) (s.points ⟨y, experiment⟩) := by
  rw [Sampling.points, Sampling.points, h.check_eq s]
  refine (Related.refl _).bind fun _ _ _ => ?_
  refine (h.related_candidates experiment s).bind fun ps qs same => ?_
  cases ordered : s.isOrdered with
  | false =>
    rw [ordered] at same
    obtain rfl : ps = qs := same
    exact .refl _
  | true =>
    rw [ordered] at same
    have perm : ps.Perm qs := same
    exact .ok (congrArg List.eraseDups (ObservationPoint.mergeSort_eq_of_perm perm))

end AgreesUpToTies
end EventIndex

namespace Sampling

open EventIndex (declaring)

/-- **Points depend only on which events there are.** If a list of events is accepted in full by a
validating index without events, so it is in any other order, and every rule for points comes to the
same points of both indexes under every experiment, or fails on both. The two indexes agree up to
ties, and no rule looks at ties. -/
theorem points_of_arrival (declared : List (String × String × ValueKind)) {es fs : List Event}
    {n : Nat} {y : EventIndex} (ordered : ∀ e ∈ es, e.Ordered) (perm : es.Perm fs)
    (accepted : (declaring declared).insertMany es = (.ok n, y)) :
    ∃ z, (declaring declared).insertMany fs = (.ok n, z) ∧
      ∀ (experiment : Option String) (s : Sampling),
        Related Eq (s.points ⟨y, experiment⟩) (s.points ⟨z, experiment⟩) := by
  obtain ⟨z, accepted', agrees⟩ := EventIndex.exists_agreeing_of_perm ordered perm accepted
  exact ⟨z, accepted', agrees.related_points⟩

/-- Payments that come in the other way round give the same points, although the two at the same
time change places. -/
theorem points_of_payments :
    let payments := EventIndex.paymentsInArrival
    let start := declaring [("payment", "amount", .int)]
    let ids (x : EventIndex) := x.timeline.map fun s => s.event.id
    (∀ e ∈ payments, e.Ordered) ∧ payments.Perm payments.reverse ∧
      ∃ y z, start.insertMany payments = (.ok 3, y) ∧
        start.insertMany payments.reverse = (.ok 3, z) ∧ ids y = [some "c", some "a", some "b"] ∧
          ids z = [some "c", some "b", some "a"] ∧
            ∀ s : Sampling, Related Eq (s.points ⟨y, none⟩) (s.points ⟨z, none⟩) := by
  intro payments start ids
  have ordered : ∀ e ∈ payments, e.Ordered := by decide
  have perm : payments.Perm payments.reverse := (List.reverse_perm payments).symm
  have accepted : start.insertMany payments = (.ok 3, (start.insertMany payments).2) := rfl
  obtain ⟨z, accepted', same⟩ := points_of_arrival _ ordered perm accepted
  obtain rfl : (start.insertMany payments.reverse).2 = z := congrArg Prod.snd accepted'
  have listed : ids (start.insertMany payments).2 = [some "c", some "a", some "b"] := by decide
  have listed' : ids (start.insertMany payments.reverse).2 = [some "c", some "b", some "a"] := by
    decide
  exact ⟨ordered, perm, _, _, accepted, accepted', listed, listed', same none⟩

end Sampling
end Hindsight
