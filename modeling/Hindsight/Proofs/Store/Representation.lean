import Hindsight.Proofs.Store.Selection

/-!
# What an index holds

The timelines, the ids and the catalogue of an index are kept side by side with its arena. An index
represents its arena if each of them lists exactly the events, or the entities, that the arena has
(`EventIndex.Represents`). Placing an event that nothing speaks against keeps this
(`EventIndex.Represents.place`), so it is so after any calls, whether they are accepted or refused
(`EventIndex.represents_after`). The events of an entity between bounds are then exactly those that
the arena has of it.

The entities of an event are taken to be in order. A repeated entity would be listed twice.
-/

namespace Hindsight

open Time (Bounds)

/-- The timelines of an entity select the events that have a property, all of them and those of each
type. -/
structure EntityTimelines.Selects (t : EntityTimelines) (arena : Array Event) (P : Event → Prop) :
    Prop where
  all : t.all.Selects arena P
  byType (type : String) : (t.timeline (some type)).Selects arena fun e => P e ∧ e.type = type

namespace EntityTimelines

variable {t : EntityTimelines} {arena : Array Event} {P : Event → Prop} {e : Event}

/-- An event comes on the timeline of its own type and changes that of no other. The timeline of all
types takes it in any case. -/
theorem timeline_insert (x : StoredEvent) (t : EntityTimelines) (type : String) :
    (t.insert x).timeline (some type) =
      if type = x.event.type then Timeline.insert x (t.timeline (some type))
      else t.timeline (some type) := by
  rw [insert, timeline, timeline]
  dsimp only
  split
  · next same => rw [same, Dict.get?_update_self, Option.getD_some]
  · next differ => rw [Dict.get?_update_of_ne differ]

namespace Selects

/-- Without events every timeline is empty and selects what there is. -/
theorem nil (P : Event → Prop) : empty.Selects #[] P := ⟨.nil P, fun _ => .nil _⟩

/-- An event without the property is stored and comes on no timeline, so the timelines select what
they did. -/
theorem push_of_not (h : t.Selects arena P) (lacks : ¬P e) : t.Selects (arena.push e) P :=
  ⟨h.all.push_of_not lacks, fun type => (h.byType type).push_of_not fun has => lacks has.1⟩

/-- **An event of the entity** comes on all its timelines that it belongs to: that of its type and
that of all types. -/
theorem insert (h : t.Selects arena P) (has : P e) :
    (t.insert ⟨arena.size, e⟩).Selects (arena.push e) P := by
  refine ⟨h.all.insert has, fun type => ?_⟩
  rw [timeline_insert]
  split
  · next same => exact (h.byType type).insert ⟨has, same.symm⟩
  · next differ => exact (h.byType type).push_of_not fun other => differ other.2.symm

/-- The timeline of one type, or of all, selects the events of this type, or all. The two are read
by one function, as a query may give a type or none. -/
theorem timeline (h : t.Selects arena P) (type : Option String) :
    (t.timeline type).Selects arena fun e => P e ∧ ∀ given ∈ type, e.type = given := by
  cases type with
  | none => exact h.all.congr fun e => by simp
  | some given => exact (h.byType given).congr fun e => by simp

end Selects
end EntityTimelines

namespace EventIndex

/-- Listing an event with different entities inserts it once with each of them. Were an entity
repeated, the event would be listed with it twice. -/
theorem entityOf_foldl_of_nodup (x : StoredEvent) {entities : List (String × String)}
    (nodup : entities.Nodup) (series : Dict String (Dict String EntityTimelines))
    (type id : String) :
    entityOf (entities.foldl (insertSeries x) series) type id =
      if (type, id) ∈ entities then (entityOf series type id).insert x
      else entityOf series type id := by
  induction entities generalizing series with
  | nil => simp
  | cons entity rest ih =>
    obtain ⟨new, distinct⟩ := List.nodup_cons.1 nodup
    rw [List.foldl_cons, ih distinct, entityOf_insertSeries]
    by_cases same : (type, id) = entity
    · rw [← same] at new ⊢
      simp [new]
    · simp [same]

/-- The ids that a catalogue lists for a type. -/
def idsOf (catalogue : Dict String NameSet) (type : String) : List String :=
  ((catalogue.get? type).getD .empty).toList

/-- **A catalogue lists the entities that have a property:** the ids of each type in increasing
order, and only the types that have an id. -/
structure Catalogues (catalogue : Dict String NameSet) (P : String × String → Prop) : Prop where
  mem_iff (type id : String) : id ∈ idsOf catalogue type ↔ P (type, id)
  increasing (type : String) : (idsOf catalogue type).Pairwise fun a b => compare a b = .lt
  contains_iff (type : String) : catalogue.contains type = true ↔ ∃ id, P (type, id)

namespace Catalogues

variable {catalogue : Dict String NameSet} {P Q : String × String → Prop}

/-- An empty catalogue lists the entities that satisfy nothing. -/
theorem nil : Catalogues .empty fun _ => False where
  mem_iff _ _ := iff_of_false List.not_mem_nil id
  increasing _ := List.Pairwise.nil
  contains_iff _ := by simp [Dict.contains, Dict.get?, Dict.empty, Dict.findEntry]

/-- What a catalogue lists may be told in other words, as long as they come to the same. -/
theorem congr (h : Catalogues catalogue P) (same : ∀ entity, P entity ↔ Q entity) :
    Catalogues catalogue Q where
  mem_iff type id := (h.mem_iff type id).trans (same _)
  increasing := h.increasing
  contains_iff type := (h.contains_iff type).trans (exists_congr fun _ => same _)

/-- A catalogue with one more entity. Nothing changes if the entity was listed before. -/
theorem insert (h : Catalogues catalogue P) (entity : String × String) :
    Catalogues (insertEntity catalogue entity) fun e => e = entity ∨ P e := by
  obtain ⟨type', id'⟩ := entity
  have own : idsOf (insertEntity catalogue (type', id')) type' =
      NameSet.insertName id' (idsOf catalogue type') := by
    rw [idsOf, insertEntity, Dict.get?_update_self]
    rfl
  have other {type : String} (differ : type ≠ type') :
      idsOf (insertEntity catalogue (type', id')) type = idsOf catalogue type := by
    rw [idsOf, insertEntity, Dict.get?_update_of_ne differ]
    rfl
  refine ⟨fun type id => ?_, fun type => ?_, fun type => ?_⟩ <;> by_cases same : type = type'
  · rw [same, own, NameSet.mem_insertName, h.mem_iff]
    simp
  · rw [other same, h.mem_iff]
    simp [same]
  · rw [same, own]
    exact NameSet.pairwise_insertName id' (h.increasing type')
  · rw [other same]
    exact h.increasing type
  · rw [same, Dict.contains, insertEntity, Dict.get?_update_self]
    simp
  · rw [Dict.contains, insertEntity, Dict.get?_update_of_ne same, ← Dict.contains, h.contains_iff]
    simp [same]

/-- **A catalogue with further entities** lists these and those it had, by induction on the
entities. -/
theorem foldl_insertEntity (h : Catalogues catalogue P) (entities : List (String × String)) :
    Catalogues (entities.foldl insertEntity catalogue) fun e => e ∈ entities ∨ P e := by
  induction entities generalizing catalogue P with
  | nil => exact h.congr fun e => by simp
  | cons entity rest ih =>
    refine (ih (h.insert entity)).congr fun e => ?_
    rw [List.mem_cons]
    tauto

end Catalogues

/-- **An index represents its arena:** the timelines, the ids and the catalogue list exactly what
the arena has. -/
structure Represents (x : EventIndex) : Prop where
  timeline : x.timeline.Selects x.arena fun _ => True
  entity (type id : String) :
    (x.entity type id).Selects x.arena fun e => (type, id) ∈ e.entities.entries
  byId (id : String) (s : StoredEvent) :
    x.byId.get? id = some s ↔ x.arena[s.slot]? = some s.event ∧ s.event.id = some id
  catalogue : Catalogues x.catalogue fun entity => ∃ e ∈ x.arena, entity ∈ e.entities.entries

/-- **An index that is empty represents its arena**: there is nothing to list, to find or to
select. -/
theorem represents_empty (validates : Bool) : (empty validates).Represents where
  timeline := .nil _
  entity _ _ := .nil _
  byId id s := by simp [empty, Dict.get?, Dict.empty, Dict.findEntry]
  catalogue := Catalogues.nil.congr fun entity => by simp [empty]

/-- An index finds an event by its id just if the arena has it. The id has to be free, or an older
event would be replaced. -/
theorem Represents.byId_place {x : EventIndex} (h : x.Represents) {e : Event}
    (free : x.takenId? e = none) (schema : Schema) (id : String) (s : StoredEvent) :
    (x.place e schema).byId.get? id = some s ↔
      (x.arena.push e)[s.slot]? = some s.event ∧ s.event.id = some id := by
  have older (s : StoredEvent) (held : x.byId.get? id = some s) : s.slot < x.arena.size :=
    (Array.getElem?_eq_some_iff.1 ((h.byId id s).1 held).1).1
  obtain ⟨n, f⟩ := s
  rw [Array.getElem?_push]
  by_cases own : e.id = some id
  · have new : x.byId.get? id = none := by
      rw [takenId?, own, Option.filter_eq_none_iff] at free
      simpa [Dict.contains] using free
    have placed : (x.place e schema).byId = x.byId.insert id ⟨x.arena.size, e⟩ := by
      rw [place, own]
    rw [placed, Dict.get?_insert_self, Option.some.injEq, StoredEvent.mk.injEq]
    dsimp only
    split
    · next newest =>
      rw [Option.some.injEq]
      constructor
      · rintro ⟨-, rfl⟩
        exact ⟨rfl, own⟩
      · rintro ⟨rfl, -⟩
        exact ⟨newest.symm, rfl⟩
    · next older =>
      refine iff_of_false (fun same => older same.1.symm) fun held => ?_
      have found := (h.byId id ⟨n, f⟩).2 held
      rw [new] at found
      cases found
  · have placed : (x.place e schema).byId.get? id = x.byId.get? id := by
      rw [place]
      dsimp only
      split
      · next other given =>
        exact Dict.get?_insert_of_ne (fun same => own (given.trans (congrArg some same.symm))) _ _
      · rfl
    rw [placed]
    split
    · next newest =>
      refine iff_of_false (fun held => ?_) ?_
      · exact Nat.lt_irrefl _ (newest ▸ older _ held)
      · rintro ⟨same, given⟩
        exact own (Option.some.inj same ▸ given)
    · exact h.byId id ⟨n, f⟩

/-- **Placing an event keeps the representation.** Its id is free and its entities are different, so
it is found by its id and listed once with each entity. -/
theorem Represents.place {x : EventIndex} (h : x.Represents) {e : Event}
    (free : x.takenId? e = none) (ordered : e.entities.Ordered) (schema : Schema) :
    (x.place e schema).Represents where
  timeline := h.timeline.insert trivial
  entity type id := by
    have listed := entityOf_foldl_of_nodup ⟨x.arena.size, e⟩ ordered.nodup x.series type id
    show (entityOf (e.entities.entries.foldl _ x.series) type id).Selects (x.arena.push e) _
    rw [listed]
    split
    · next carries => exact (h.entity type id).insert carries
    · next lacks => exact (h.entity type id).push_of_not lacks
  byId := h.byId_place free schema
  catalogue := by
    refine (h.catalogue.foldl_insertEntity e.entities.entries).congr fun entity => ?_
    show _ ↔ ∃ f ∈ x.arena.push e, _
    simp only [Array.mem_push, or_and_right, exists_or, exists_eq_left]
    exact or_comm

/-- An event that is accepted has no id that was taken before, since this is the first thing that is
checked. -/
theorem takenId?_of_insert {x y : EventIndex} {e : Event} (h : x.insert e = .ok y) :
    x.takenId? e = none := by
  rw [insert] at h
  split at h
  · cases h
  · assumption

/-- The timeline of a reachable index has every event of its arena, in the order of time. -/
theorem Reachable.selects_timeline {x : EventIndex} (h : x.Reachable) :
    x.timeline.Selects x.arena fun _ => True := by
  induction h with
  | empty validates => exact .nil _
  | declare _ _ _ _ ih => exact ih
  | insert _ accepted ih =>
    obtain ⟨s, -, rfl⟩ := insert_eq_ok accepted
    exact ih.insert trivial

/-- **A reachable index represents its arena.** By induction on how it was reached: it starts empty,
and events are only ever placed. -/
theorem Reachable.represents {x : EventIndex} (h : x.Reachable)
    (ordered : ∀ e ∈ x.arena, e.entities.Ordered) : x.Represents := by
  induction h with
  | empty validates => exact represents_empty validates
  | declare _ _ _ _ ih =>
    obtain ⟨timeline, entity, byId, catalogue⟩ := ih ordered
    exact ⟨timeline, entity, byId, catalogue⟩
  | insert _ accepted ih =>
    have free := takenId?_of_insert accepted
    rw [insert_arena accepted] at ordered
    simp only [Array.mem_push, or_imp, forall_and, forall_eq] at ordered
    obtain ⟨s, -, rfl⟩ := insert_eq_ok accepted
    exact (ih ordered.1).place free ordered.2 s

/-- **The events of an entity between bounds** are those that the arena has of it: of the given
type, or of all, and with a time that the bounds contain. -/
theorem Represents.selects_range {x : EventIndex} (h : x.Represents) (type id : String)
    (eventType : Option String) (b : Bounds) :
    (x.range type id eventType b).Selects x.arena fun e =>
      (type, id) ∈ e.entities.entries ∧ (∀ given ∈ eventType, e.type = given) ∧
        b.contains e.time = true :=
  (((h.entity type id).timeline eventType).slice b).congr fun _ => and_assoc

/-- A call that may change an index. -/
inductive Call where
  | declare (eventType attr : String) (k : ValueKind)
  | insert (e : Event)
  | insertMany (es : List Event)

/-- The events that a call brings. -/
def Call.events : Call → List Event
  | declare .. => []
  | insert e => [e]
  | insertMany es => es

/-- The index after a call. An event that is refused leaves it as it is. -/
def call (x : EventIndex) : Call → EventIndex
  | .declare eventType attr k => x.declare eventType attr k
  | .insert e =>
    match x.insert e with
    | .ok y => y
    | .error _ => x
  | .insertMany es => (x.insertMany es).2

/-- The index after some calls. -/
def after (x : EventIndex) (calls : List Call) : EventIndex := calls.foldl call x

/-- A call leads from a reachable index to a reachable one, whether it is accepted or refused. It is
the step of every induction on calls. -/
theorem Reachable.call {x : EventIndex} (h : x.Reachable) (c : Call) : (x.call c).Reachable := by
  cases c with
  | declare eventType attr k => exact h.declare eventType attr k
  | insert e =>
    rw [EventIndex.call]
    split
    · next accepted => exact h.insert accepted
    · exact h
  | insertMany es => exact h.insertMany es

/-- What is stored after many events were inserted was stored before or is one of these, so no event
comes from elsewhere. -/
theorem mem_arena_insertMany {x : EventIndex} {es : List Event} {e : Event}
    (h : e ∈ (x.insertMany es).2.arena) : e ∈ x.arena ∨ e ∈ es := by
  induction es generalizing x with
  | nil => exact .inl h
  | cons f es ih =>
    rw [insertMany] at h
    split at h
    · exact .inl h
    · next accepted =>
      rcases ih h with old | later
      · rw [insert_arena accepted, Array.mem_push] at old
        rcases old with old | rfl
        · exact .inl old
        · exact .inr List.mem_cons_self
      · exact .inr (List.mem_cons_of_mem _ later)

/-- A call brings no other events into the arena than its own. A declaration brings none. -/
theorem mem_arena_call {x : EventIndex} {c : Call} {e : Event} (h : e ∈ (x.call c).arena) :
    e ∈ x.arena ∨ e ∈ c.events := by
  cases c with
  | declare => exact .inl h
  | insert f =>
    rw [call] at h
    split at h
    · next accepted =>
      rw [insert_arena accepted, Array.mem_push] at h
      exact h.imp_right List.mem_singleton.2
    · exact .inl h
  | insertMany es => exact mem_arena_insertMany h

/-- What calls lead to is reachable, and its events are in order if those of the calls are. The
order is that of the entities within an event. -/
theorem reachable_after {calls : List Call}
    (ordered : ∀ c ∈ calls, ∀ e ∈ c.events, e.entities.Ordered) {x : EventIndex} (h : x.Reachable)
    (held : ∀ e ∈ x.arena, e.entities.Ordered) :
    (x.after calls).Reachable ∧ ∀ e ∈ (x.after calls).arena, e.entities.Ordered := by
  induction calls generalizing x with
  | nil => exact ⟨h, held⟩
  | cons c calls ih =>
    obtain ⟨here, rest⟩ := List.forall_mem_cons.1 ordered
    exact ih rest (h.call c) fun e he => (mem_arena_call he).elim (held e) (here e)

/-- **After any calls, accepted or refused, an index represents its arena,** and the events of an
entity between any bounds are exactly those that the arena has of it, by time and number. The index
is reachable after every call, and what a reachable index lists is proved along the way it was
reached. The entities of an event are asked to be in order, as every decoded event has them. -/
theorem represents_after (validates : Bool) (calls : List Call)
    (ordered : ∀ c ∈ calls, ∀ e ∈ c.events, e.entities.Ordered) :
    ((empty validates).after calls).Represents ∧
      ∀ (type id : String) (eventType : Option String) (b : Bounds),
        (((empty validates).after calls).range type id eventType b).Selects
          ((empty validates).after calls).arena fun e =>
            (type, id) ∈ e.entities.entries ∧ (∀ given ∈ eventType, e.type = given) ∧
              b.contains e.time = true := by
  obtain ⟨reachable, held⟩ := reachable_after ordered (.empty validates) (by simp [empty])
  have represents := reachable.represents held
  exact ⟨represents, represents.selects_range⟩

/-- Visits of a patient and a doctor that come in out of order. The id of the third one is taken, so
its batch is refused from there on. -/
def callsOfVisits : List Call :=
  let visit (id : String) (day : Nat) : Event :=
    { type := "visit"
      time := (Time.Instant.ofParts? day 0 0).getD .zero
      entities := ⟨[("doctor", "7"), ("patient", "1")]⟩
      id := some id
      experiment := none
      attributes := .empty }
  [.insert (visit "b" 2), .insertMany [visit "a" 0, visit "b" 1, visit "d" 1],
    .insert (visit "c" 1)]

/-- After the refusal the index lists the three visits that it accepted. The calls with a refusal
among them are a case of the above. -/
theorem represents_after_refusal :
    (∀ c ∈ callsOfVisits, ∀ e ∈ c.events, e.entities.Ordered) ∧
      let x := (empty true).after callsOfVisits
      let visits := x.range "patient" "1" (some "visit") .all
      x.Represents ∧ visits.map StoredEvent.slot = [1, 2, 0] ∧
        visits.Selects x.arena fun e =>
          ("patient", "1") ∈ e.entities.entries ∧ (∀ given ∈ some "visit", e.type = given) ∧
            Bounds.all.contains e.time = true := by
  have ordered : ∀ c ∈ callsOfVisits, ∀ e ∈ c.events, e.entities.Ordered := by decide
  obtain ⟨represents, selects⟩ := represents_after true callsOfVisits ordered
  exact ⟨ordered, represents, rfl, selects "patient" "1" (some "visit") .all⟩

end EventIndex
end Hindsight
