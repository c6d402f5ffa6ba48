import Hindsight.Proofs.Store.Acceptance
import Hindsight.Proofs.Store.Representation

/-!
# The order in which events arrive

Timelines are equal up to ties if they have the same events, at the same times place by place
(`Timeline.EqualUpToTies`). Two selections of the same events are
(`Timeline.Selects.equalUpToTies`), and they are the same sequence where no two events have the same
time (`Timeline.EqualUpToTies.eq_of_nodup`). So two indexes that store the same events agree up to
ties in all that they show (`EventIndex.Represents.agreesUpToTies`).

Which lists are accepted in full does not depend on their order. Therefore a list that is accepted
by an index without events is accepted in any order, and what it leaves agrees up to ties
(`EventIndex.exists_agreeing_of_perm`, `EventIndex.arrival_order_immaterial`).
-/

namespace Hindsight

open Time (Bounds Instant)

/-- The entities and the attributes of an event are in order of their names, each name once. -/
structure Event.Ordered (e : Event) : Prop where
  entities : e.entities.Ordered
  attributes : e.attributes.Ordered

instance (e : Event) : Decidable e.Ordered :=
  decidable_of_iff (e.entities.Ordered ∧ e.attributes.Ordered)
    ⟨fun h => ⟨h.1, h.2⟩, fun h => ⟨h.entities, h.attributes⟩⟩

namespace Timeline

/-- **Two timelines are equal up to ties:** they are in the order of time, and have the same events,
in each place events of the same time. -/
structure EqualUpToTies (s t : Timeline) : Prop where
  inOrder : s.InOrder
  perm : (s.map StoredEvent.event).Perm (t.map StoredEvent.event)
  times : s.times = t.times

variable {s t : Timeline} {arena arena' : Array Event} {P : Event → Prop}

/-- The times of a timeline are those of its events, so they can be read off the events without
their numbers, which depend on the order of arrival. -/
theorem times_eq_map (t : Timeline) : t.times = (t.map StoredEvent.event).map Event.time := by
  rw [times, List.map_map]
  rfl

/-- A timeline is in order just if its times are, since ties are left to the numbers. -/
theorem inOrder_iff_times : t.InOrder ↔ t.times.Pairwise (· ≤ ·) := List.pairwise_map.symm

/-- Timelines in the order of time are equal up to ties if they have the same events: the order
fixes all but the places of events of one time among each other. -/
theorem EqualUpToTies.of_perm (hs : s.InOrder) (ht : t.InOrder)
    (perm : (s.map StoredEvent.event).Perm (t.map StoredEvent.event)) : s.EqualUpToTies t where
  inOrder := hs
  perm := perm
  times := by
    refine List.Perm.eq_of_pairwise (fun _ _ _ _ => le_antisymm) (inOrder_iff_times.1 hs)
      (inOrder_iff_times.1 ht) ?_
    rw [times_eq_map, times_eq_map]
    exact perm.map Event.time

/-- What is left out of two timelines by the look of the events leaves them equal up to ties.
Visibility and type are looked at in this way. -/
theorem EqualUpToTies.filter (h : s.EqualUpToTies t) (p : Event → Bool) :
    EqualUpToTies (s.filter fun x => p x.event) (t.filter fun x => p x.event) := by
  have inOrder' : t.InOrder := inOrder_iff_times.2 (h.times ▸ inOrder_iff_times.1 h.inOrder)
  refine .of_perm (List.Pairwise.filter _ h.inOrder) (List.Pairwise.filter _ inOrder') ?_
  have left := List.filter_map (f := StoredEvent.event) (p := p) (l := s)
  have right := List.filter_map (f := StoredEvent.event) (p := p) (l := t)
  have same := h.perm.filter p
  rw [left, right] at same
  exact same

/-- **Without ties** timelines that are equal up to ties have the same events in the same order,
because the times already tell where each event stands. -/
theorem EqualUpToTies.eq_of_nodup (h : s.EqualUpToTies t) (distinct : s.times.Nodup) :
    s.map StoredEvent.event = t.map StoredEvent.event := by
  obtain ⟨-, perm, times⟩ := h
  rw [times_eq_map, times_eq_map] at times
  rw [times_eq_map] at distinct
  generalize s.map StoredEvent.event = es at *
  generalize t.map StoredEvent.event = fs at *
  induction es generalizing fs with
  | nil => exact perm.nil_eq
  | cons e es ih =>
    cases fs with
    | nil => exact absurd perm.symm.nil_eq (List.cons_ne_nil e es).symm
    | cons f fs =>
      obtain ⟨first, rest⟩ := List.cons.inj times
      have member : f ∈ e :: es := perm.mem_iff.2 List.mem_cons_self
      obtain rfl : f = e :=
        List.inj_on_of_nodup_map distinct member List.mem_cons_self first.symm
      rw [ih (List.nodup_cons.1 distinct).2 fs perm.cons_inv rest]

/-- Selections of the same events are equal up to ties, whatever the order in which the two arenas
were filled. -/
theorem Selects.equalUpToTies (hs : s.Selects arena P) (ht : t.Selects arena' P)
    (perm : arena.toList.Perm arena'.toList) : s.EqualUpToTies t := by
  classical
  refine .of_perm hs.lists.inOrder ht.lists.inOrder ?_
  exact hs.map_event_perm.trans ((perm.filter _).trans ht.map_event_perm.symm)

/-- If no two events of an arena have the same time, no two selected ones do. The arena may then be
in any order. -/
theorem Selects.nodup_times (h : t.Selects arena P)
    (distinct : (arena.toList.map Event.time).Nodup) : t.times.Nodup := by
  classical
  rw [times_eq_map, (h.map_event_perm.map Event.time).nodup_iff]
  exact distinct.sublist (List.filter_sublist.map Event.time)

end Timeline

namespace EventIndex

variable {x y : EventIndex} {es fs : List Event}

/-- **Two indexes agree up to ties:** they have the same schema and the same entities, find the same
events by their ids, and their timelines are equal up to ties. -/
structure AgreesUpToTies (x y : EventIndex) : Prop where
  schema : x.schema = y.schema
  catalogue : x.catalogue = y.catalogue
  find? (id : String) : x.find? id = y.find? id
  timeline : x.timeline.EqualUpToTies y.timeline
  range (type id : String) (eventType : Option String) (b : Bounds) :
    (x.range type id eventType b).EqualUpToTies (y.range type id eventType b)

/-- **A catalogue is determined** by the entities that it lists: it keeps types and ids in order, so
there is no room for the order in which they came. -/
theorem Catalogues.unique {c c' : Dict String NameSet} {P : String × String → Prop}
    (h : Catalogues c P) (h' : Catalogues c' P) (ordered : c.Ordered) (ordered' : c'.Ordered) :
    c = c' := by
  have irreflexive : Std.Irrefl fun a b : String => compare a b = .lt :=
    ⟨fun a less => by rw [Std.ReflOrd.compare_self] at less; cases less⟩
  have asymmetric : Std.Antisymm fun a b : String => compare a b = .lt :=
    ⟨fun a b less less' => absurd less' (Std.OrientedCmp.not_lt_of_lt less)⟩
  refine ordered.ext ordered' fun type => ?_
  have ids : idsOf c type = idsOf c' type :=
    (h.increasing type).eq_of_mem_iff (h'.increasing type) fun id =>
      (h.mem_iff type id).trans (h'.mem_iff type id).symm
  have known := (h.contains_iff type).trans (h'.contains_iff type).symm
  rw [Dict.contains, Dict.contains] at known
  unfold idsOf at ids
  cases hc : c.get? type with
  | none =>
    rw [hc] at known
    exact (Option.not_isSome_iff_eq_none.1 fun h => Bool.false_ne_true (known.2 h)).symm
  | some ns =>
    rw [hc] at known ids
    obtain ⟨ns', hc'⟩ := Option.isSome_iff_exists.1 (known.1 rfl)
    rw [hc'] at ids ⊢
    obtain ⟨l⟩ := ns
    obtain ⟨l'⟩ := ns'
    exact congrArg (fun l => some (NameSet.mk l)) ids

/-- The entity types of a catalogue stay in order while an event is listed with its entities. -/
theorem ordered_foldl_insertEntity {c : Dict String NameSet} (h : c.Ordered)
    (entities : List (String × String)) : (entities.foldl insertEntity c).Ordered := by
  induction entities generalizing c with
  | nil => exact h
  | cons entity entities ih => exact ih (Dict.ordered_update h ..)

/-- The catalogue of a reachable index is kept in the order of its types, by induction on how it was
reached. -/
theorem Reachable.ordered_catalogue (h : x.Reachable) : x.catalogue.Ordered := by
  induction h with
  | empty validates => exact Dict.ordered_empty
  | declare _ _ _ _ ih => exact ih
  | insert _ accepted ih =>
    obtain ⟨s, -, rfl⟩ := insert_eq_ok accepted
    exact ordered_foldl_insertEntity ih _

/-- **An index finds an event by its id** just if the arena has it. So the answer does not depend on
the number under which the event is stored. -/
theorem Represents.find?_eq_some_iff (h : x.Represents) {id : String} {e : Event} :
    x.find? id = some e ↔ e ∈ x.arena ∧ e.id = some id := by
  rw [find?, Option.map_eq_some_iff]
  constructor
  · rintro ⟨s, found, rfl⟩
    obtain ⟨held, own⟩ := (h.byId id s).1 found
    exact ⟨Array.mem_of_getElem? held, own⟩
  · rintro ⟨member, own⟩
    obtain ⟨n, held⟩ := Array.getElem?_of_mem member
    exact ⟨⟨n, e⟩, (h.byId id ⟨n, e⟩).2 ⟨held, own⟩, rfl⟩

/-- **Indexes with the same events** agree up to ties: in what they list, find and select. The
schemas are asked to be the same, since they are learned along the way. -/
theorem Represents.agreesUpToTies (hx : x.Represents) (hy : y.Represents)
    (reachable : x.Reachable) (reachable' : y.Reachable)
    (perm : x.arena.toList.Perm y.arena.toList) (schema : x.schema = y.schema) :
    x.AgreesUpToTies y := by
  have same (e : Event) : e ∈ x.arena ↔ e ∈ y.arena := by
    rw [← Array.mem_toList_iff, ← Array.mem_toList_iff]
    exact perm.mem_iff
  refine ⟨schema, ?_, fun id => ?_, hx.timeline.equalUpToTies hy.timeline perm, ?_⟩
  · refine hx.catalogue.unique (hy.catalogue.congr fun entity => ?_)
      reachable.ordered_catalogue reachable'.ordered_catalogue
    simp only [same]
  · refine Option.ext fun e => ?_
    rw [hx.find?_eq_some_iff, hy.find?_eq_some_iff, same]
  · intro type id eventType b
    exact (hx.selects_range type id eventType b).equalUpToTies
      (hy.selects_range type id eventType b) perm

/-- What a list of events leaves that is accepted in full by an index without events: it represents
them, in the order in which they come. -/
theorem represents_of_insertMany {declared : List (String × String × ValueKind)} {n : Nat}
    (ordered : ∀ e ∈ es, e.entities.Ordered)
    (accepted : (declaring declared).insertMany es = (.ok n, y)) :
    y.Represents ∧ y.Reachable ∧ y.arena.toList = es := by
  have start := declares_declaring declared
  obtain ⟨-, stored⟩ := insertMany_eq_ok_iff.1 accepted
  have reachable := start.reachable.foldlM_insert stored
  have arena : y.arena.toList = es := by
    rw [(foldlM_insert_leaves start.validates stored).1, start.arena]
    rfl
  refine ⟨reachable.represents fun e he => ordered e ?_, reachable, arena⟩
  rwa [← arena, Array.mem_toList_iff]

/-- **A list that is accepted in full** is accepted in any order, and what it leaves agrees up to
ties. -/
theorem exists_agreeing_of_perm {declared : List (String × String × ValueKind)} {n : Nat}
    (ordered : ∀ e ∈ es, e.Ordered) (perm : es.Perm fs)
    (accepted : (declaring declared).insertMany es = (.ok n, y)) :
    ∃ z, (declaring declared).insertMany fs = (.ok n, z) ∧ y.AgreesUpToTies z := by
  have start := declares_declaring declared
  have ordered' : ∀ e ∈ fs, e.Ordered := fun e he => ordered e (perm.mem_iff.2 he)
  obtain ⟨rfl, stored⟩ := insertMany_eq_ok_iff.1 accepted
  have observed := (foldlM_insert_leaves start.validates stored).2.1
  have learned := (Schema.foldlM_observe_eq_ok_iff start.schema
    fun e he => (ordered e he).attributes).1 observed
  have observed' : fs.foldlM Schema.observe (declaring declared).schema = .ok y.schema :=
    (Schema.foldlM_observe_eq_ok_iff start.schema fun e he => (ordered' e he).attributes).2
      ⟨learned.1, learned.2.of_perm perm⟩
  have free := ((exists_foldlM_insert_iff start.validates).1 ⟨y, stored⟩).2.of_perm perm
  obtain ⟨z, stored'⟩ := (exists_foldlM_insert_iff start.validates).2 ⟨⟨_, observed'⟩, free⟩
  have accepted' := insertMany_eq_ok_iff.2 ⟨perm.length_eq, stored'⟩
  have schema : y.schema = z.schema := by
    have leaves := (foldlM_insert_leaves start.validates stored').2.1
    exact Except.ok.inj (observed'.symm.trans leaves)
  obtain ⟨represents, reachable, arena⟩ :=
    represents_of_insertMany (fun e he => (ordered e he).entities) accepted
  obtain ⟨represents', reachable', arena'⟩ :=
    represents_of_insertMany (fun e he => (ordered' e he).entities) accepted'
  refine ⟨z, accepted', represents.agreesUpToTies represents' reachable reachable' ?_ schema⟩
  rw [arena, arena']
  exact perm

/-- **The order of arrival is immaterial.** A list of events that is accepted in full by a
validating index without events is accepted in full in any order. The schema, the entities and the
events found by id are the same, and the timeline and all ranges are the same up to the order of
events with equal times; without equal times they are the same sequences. -/
theorem arrival_order_immaterial (declared : List (String × String × ValueKind))
    {es fs : List Event} {n : Nat} {y : EventIndex} (ordered : ∀ e ∈ es, e.Ordered)
    (perm : es.Perm fs) (accepted : (declaring declared).insertMany es = (.ok n, y)) :
    ∃ z, (declaring declared).insertMany fs = (.ok n, z) ∧ y.AgreesUpToTies z ∧
      ((es.map Event.time).Nodup →
        y.timeline.map StoredEvent.event = z.timeline.map StoredEvent.event ∧
          ∀ (type id : String) (eventType : Option String) (b : Bounds),
            (y.range type id eventType b).map StoredEvent.event =
              (z.range type id eventType b).map StoredEvent.event) := by
  obtain ⟨z, accepted', agrees⟩ := exists_agreeing_of_perm ordered perm accepted
  obtain ⟨represents, -, arena⟩ :=
    represents_of_insertMany (fun e he => (ordered e he).entities) accepted
  refine ⟨z, accepted', agrees, fun distinct => ⟨?_, fun type id eventType b => ?_⟩⟩
  · exact agrees.timeline.eq_of_nodup (represents.timeline.nodup_times (arena ▸ distinct))
  · have selects := represents.selects_range type id eventType b
    exact (agrees.range type id eventType b).eq_of_nodup (selects.nodup_times (arena ▸ distinct))

/-- Payments of a customer. The second one comes at the time of the first, with an amount that is
not whole, and the third one is earlier. -/
def paymentsInArrival : List Event :=
  let payment (id : String) (day : Nat) (amount : Value) : Event :=
    { type := "payment"
      time := (Time.Instant.ofParts? day 0 0).getD .zero
      entities := ⟨[("customer", "1")]⟩
      id := some id
      experiment := none
      attributes := ⟨[("amount", amount), ("note", .text id)]⟩ }
  [payment "a" 1 (.int 3), payment "b" 1 (.float 2.5), payment "c" 0 .null]

/-- The payments are accepted the other way round as well, and the amount is on record as a float
either way. -/
theorem arrival_of_payments :
    let payments := paymentsInArrival
    let start := declaring [("payment", "amount", .int)]
    (∀ e ∈ payments, e.Ordered) ∧ payments.Perm payments.reverse ∧
      ∃ y z, start.insertMany payments = (.ok 3, y) ∧
        start.insertMany payments.reverse = (.ok 3, z) ∧
          y.schema.kind? "payment" "amount" = some .float ∧ y.AgreesUpToTies z := by
  intro payments start
  have ordered : ∀ e ∈ payments, e.Ordered := by decide
  have perm : payments.Perm payments.reverse := (List.reverse_perm payments).symm
  have accepted : start.insertMany payments = (.ok 3, (start.insertMany payments).2) := rfl
  obtain ⟨z, accepted', agrees, -⟩ := arrival_order_immaterial _ ordered perm accepted
  exact ⟨ordered, perm, _, z, accepted, accepted', rfl, agrees⟩

end EventIndex
end Hindsight
