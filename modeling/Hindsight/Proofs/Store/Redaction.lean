import Hindsight.Proofs.Except
import Hindsight.Proofs.Store.Representation

/-!
# What a query does not see of an index

A query under an experiment does not see the events of other experiments. Their attributes can be
struck out (`Event.redacted`), and what is left of two histories may then be the same. If the
attributes struck out have the same names and shapes as well (`Event.SeenAlike`), the schema judges
both histories alike, so the same events are accepted and the indexes agree in all but the
attributes of hidden events (`EventIndex.seenAlike_after`). What they find by an id are events with
the same entities (`EventIndex.SeenAlike.find?_entities`), and the same event if it is visible
(`EventIndex.SeenAlike.filter_find?`).
-/

namespace Hindsight

variable {experiment : Option String}

/-- **An event without the attributes that a query does not see.** -/
def Event.redacted (experiment : Option String) (e : Event) : Event :=
  if e.visibleIn experiment then e else { e with attributes := .empty }

namespace Event

/-- Striking out attributes leaves the type of an event. -/
@[simp] theorem redacted_type (e : Event) : (e.redacted experiment).type = e.type := by
  unfold redacted; split <;> rfl

/-- Striking out attributes leaves the time of an event. -/
@[simp] theorem redacted_time (e : Event) : (e.redacted experiment).time = e.time := by
  unfold redacted; split <;> rfl

/-- Striking out attributes leaves the entities of an event, which are public in every
experiment. -/
@[simp] theorem redacted_entities (e : Event) :
    (e.redacted experiment).entities = e.entities := by
  unfold redacted; split <;> rfl

/-- Striking out attributes leaves the id of an event. -/
@[simp] theorem redacted_id (e : Event) : (e.redacted experiment).id = e.id := by
  unfold redacted; split <;> rfl

/-- Whether a query sees an event is told by its experiment, which is never struck out. So what is
visible can be picked before striking out or after it. -/
@[simp] theorem visibleIn_redacted (e : Event) :
    (e.redacted experiment).visibleIn experiment = e.visibleIn experiment := by
  unfold redacted; split <;> rfl

/-- From an event that a query sees nothing is struck out, which is why striking out is harmless to
the query. -/
theorem redacted_of_visible {e : Event} (h : e.visibleIn experiment = true) :
    e.redacted experiment = e :=
  if_pos h

/-- Events of which the same is left are the same if they are visible. In this way what is known
after striking out is known of the events themselves. -/
theorem eq_of_redacted {e e' : Event} (h : e.redacted experiment = e'.redacted experiment)
    (visible : e.visibleIn experiment = true) : e = e' := by
  have visible' : e'.visibleIn experiment = true := by
    rw [← visibleIn_redacted, ← h, visibleIn_redacted, visible]
  rw [← redacted_of_visible visible, h, redacted_of_visible visible']

end Event

/-- A stored event without the attributes that a query does not see. -/
def StoredEvent.redacted (experiment : Option String) (x : StoredEvent) : StoredEvent :=
  ⟨x.slot, x.event.redacted experiment⟩

/-- A timeline without the attributes that a query does not see. -/
abbrev Timeline.redacted (experiment : Option String) (t : Timeline) : Timeline :=
  t.map (StoredEvent.redacted experiment)

namespace Timeline

/-- Striking out attributes changes no time, so an event takes the same place in a timeline with
attributes or without. -/
theorem redacted_insert (x : StoredEvent) (t : Timeline) :
    (insert x t).redacted experiment =
      insert (x.redacted experiment) (t.redacted experiment) := by
  induction t with
  | nil => rfl
  | cons y t ih =>
    simp only [redacted, insert, List.map_cons, StoredEvent.redacted, Event.redacted_time] at ih ⊢
    split
    · rw [List.map_cons, ih]
      rfl
    · rfl

/-- Striking out attributes does not change which event precedes which, as neither times nor numbers
are struck out. -/
theorem redacted_precedes (x y : StoredEvent) :
    (x.redacted experiment).Precedes (y.redacted experiment) ↔ x.Precedes y := by
  simp [StoredEvent.Precedes, StoredEvent.redacted]

/-- **Timelines may be united before attributes are struck out or afterwards**: the union looks at
times and slots only. By the recursion of the union, with the same branch on both sides. -/
theorem redacted_union (s t : Timeline) :
    (union s t).redacted experiment =
      union (s.redacted experiment) (t.redacted experiment) := by
  induction s, t using union.induct with
  | case1 t => simp [union]
  | case2 s nonempty => cases s <;> simp [union]
  | case3 x s y t same ih =>
    have same' : (x.redacted experiment).slot = (y.redacted experiment).slot := same
    simp only [redacted, List.map_cons] at ih ⊢
    rw [union, if_pos same, union, if_pos same', List.map_cons, ih]
  | case4 x s y t differ before ih =>
    have differ' : (x.redacted experiment).slot ≠ (y.redacted experiment).slot := differ
    simp only [redacted, List.map_cons] at ih ⊢
    rw [union, if_neg differ, if_pos before, union, if_neg differ',
      if_pos ((redacted_precedes x y).2 before), List.map_cons, ih]
  | case5 x s y t differ behind ih =>
    have differ' : (x.redacted experiment).slot ≠ (y.redacted experiment).slot := differ
    simp only [redacted, List.map_cons] at ih ⊢
    rw [union, if_neg differ, if_neg behind, union, if_neg differ',
      if_neg (mt (redacted_precedes x y).1 behind), List.map_cons, ih]

/-- The same for any number of timelines, by induction on them. An entity that is a set of entities
is read in this way. -/
theorem redacted_foldl_union {α : Type} (f : α → Timeline) (as : List α) (t : Timeline) :
    (as.foldl (fun t a => t.union (f a)) t).redacted experiment =
      as.foldl (fun t a => t.union ((f a).redacted experiment)) (t.redacted experiment) := by
  induction as generalizing t with
  | nil => rfl
  | cons a as ih => rw [List.foldl_cons, ih, redacted_union, List.foldl_cons]

/-- The visible events of a timeline are left as they are. A query that looks at nothing else is
blind to what is struck out. -/
theorem filter_redacted (t : Timeline) :
    ((t.redacted experiment).filter fun x => x.event.visibleIn experiment) =
      t.filter fun x => x.event.visibleIn experiment := by
  induction t with
  | nil => rfl
  | cons x t ih =>
    have same : (x.redacted experiment).event.visibleIn experiment =
        x.event.visibleIn experiment := x.event.visibleIn_redacted
    simp only [redacted, List.map_cons, List.filter_cons, same] at ih ⊢
    cases visible : x.event.visibleIn experiment with
    | false => simpa using ih
    | true =>
      have left : x.redacted experiment = x := by
        rw [StoredEvent.redacted, Event.redacted_of_visible visible]
      simp [ih, left]

/-- Timelines of which the same is left have the same visible events, at the same places among each
other. -/
theorem filter_eq_of_redacted {s t : Timeline}
    (h : s.redacted experiment = t.redacted experiment) :
    (s.filter fun x => x.event.visibleIn experiment) =
      t.filter fun x => x.event.visibleIn experiment := by
  rw [← filter_redacted s, h, filter_redacted]

end Timeline

/-- Two values that a schema does not tell apart: they have one kind, and both or neither of them
is a list with a list or a map in it, which no schema takes. -/
structure Value.SameShape (v w : Value) : Prop where
  kind : ValueKind.of? v = ValueKind.of? w
  nested : (Schema.nested? v).isSome = (Schema.nested? w).isSome

instance (v w : Value) : Decidable (v.SameShape w) :=
  decidable_of_iff
    (ValueKind.of? v = ValueKind.of? w ∧ (Schema.nested? v).isSome = (Schema.nested? w).isSome)
    ⟨fun h => ⟨h.1, h.2⟩, fun h => ⟨h.1, h.2⟩⟩

/-- **A query sees two events alike:** they are the same apart from the attributes of a hidden
event, and these have the same names and shapes. -/
structure Event.SeenAlike (experiment : Option String) (e e' : Event) : Prop where
  redacted : e.redacted experiment = e'.redacted experiment
  attributes : List.Forall₂ (fun a b => a.1 = b.1 ∧ a.2.SameShape b.2)
    e.attributes.entries e'.attributes.entries

namespace Event.SeenAlike

variable {e e' : Event} (h : e.SeenAlike experiment e')
include h

/-- Events that are seen alike have one type, seen or not. -/
theorem type : e.type = e'.type := by
  simpa only [redacted_type] using congrArg Event.type h.redacted

/-- Events that are seen alike have the same entities, seen or not. -/
theorem entities : e.entities = e'.entities := by
  simpa only [redacted_entities] using congrArg Event.entities h.redacted

/-- Events that are seen alike have one id, seen or not. -/
theorem id : e.id = e'.id := by
  simpa only [redacted_id] using congrArg Event.id h.redacted

end Event.SeenAlike

section Schemas

/-- **A schema judges values of one shape alike.** It asks for kinds only, so it cannot tell two
values of one kind apart. -/
theorem Schema.related_checkAttribute (recorded : Option ValueKind) (eventType name : String)
    {v w : Value} (h : v.SameShape w) :
    Related Eq (checkAttribute recorded eventType name v)
      (checkAttribute recorded eventType name w) := by
  obtain ⟨kind, nested⟩ := h
  rw [checkAttribute, checkAttribute, ← kind]
  cases ValueKind.of? v with
  | none => exact .ok rfl
  | some k =>
    cases hv : nested? v with
    | some found =>
      rw [hv] at nested
      obtain ⟨found', hw⟩ := Option.isSome_iff_exists.1 nested.symm
      rw [hw]
      exact .error _ _
    | none =>
      rw [hv] at nested
      have hw : nested? w = none := Option.not_isSome_iff_eq_none.1 (by simp [← nested])
      rw [hw]
      exact .refl _

/-- **A schema judges events alike** whose attributes have the same names and shapes: it takes both
or refuses both, and learns the same from them. -/
theorem Schema.related_observe (s : Schema) {e e' : Event} (h : e.SeenAlike experiment e') :
    Related Eq (s.observe e) (s.observe e') := by
  have checked : Related Eq (s.check e) (s.check e') := by
    have each : List.Forall₂ (fun a b => Related Eq
        (checkAttribute (s.kind? e.type a.1) e.type a.1 a.2 >>= fun update =>
          .ok (update.map fun k => (a.1, k)))
        (checkAttribute (s.kind? e'.type b.1) e'.type b.1 b.2 >>= fun update =>
          .ok (update.map fun k => (b.1, k)))) e.attributes.entries e'.attributes.entries := by
      refine h.attributes.imp fun a b hab => ?_
      rw [← hab.1, ← h.type]
      refine (related_checkAttribute _ _ _ hab.2).bind fun u u' same => ?_
      exact .ok (congrArg _ same)
    refine (Related.mapM each).bind fun us us' same => .ok ?_
    rw [List.forall₂_eq_eq_eq] at same
    rw [same]
  rw [observe, observe, h.type]
  exact checked.bind fun us us' same => .ok (congrArg _ same)

end Schemas

namespace EventIndex

/-- **A query sees two indexes alike:** they agree in all but the attributes of hidden events. -/
structure SeenAlike (experiment : Option String) (x y : EventIndex) : Prop where
  size : x.arena.size = y.arena.size
  timeline : x.timeline.redacted experiment = y.timeline.redacted experiment
  entity (type id : String) :
    (x.entity type id).all.redacted experiment = (y.entity type id).all.redacted experiment
  byId (id : String) :
    (x.byId.get? id).map (StoredEvent.redacted experiment) =
      (y.byId.get? id).map (StoredEvent.redacted experiment)
  catalogue : x.catalogue = y.catalogue
  schema : x.schema = y.schema
  validates : x.validates = y.validates

namespace SeenAlike

variable {x y : EventIndex} {e e' : Event}

/-- An index is seen as itself. -/
theorem refl (x : EventIndex) : x.SeenAlike experiment x :=
  ⟨rfl, rfl, fun _ _ => rfl, fun _ => rfl, rfl, rfl, rfl⟩

/-- Declaring an attribute in both indexes leaves them seen alike: it changes the two schemas in one
way. -/
theorem declare (h : x.SeenAlike experiment y) (eventType attr : String) (k : ValueKind) :
    (x.declare eventType attr k).SeenAlike experiment (y.declare eventType attr k) :=
  { h with schema := congrArg (fun s => s.declare eventType attr k) h.schema }

/-- Timelines of an entity stay alike when an event is listed with some entities, by induction on
these. The entities are the same for events that are seen alike. -/
theorem foldl_insertSeries {s s' : StoredEvent}
    (h : s.redacted experiment = s'.redacted experiment) (entities : List (String × String))
    {series series' : Dict String (Dict String EntityTimelines)}
    (alike : ∀ type id, (entityOf series type id).all.redacted experiment =
      (entityOf series' type id).all.redacted experiment) (type id : String) :
    (entityOf (entities.foldl (insertSeries s) series) type id).all.redacted experiment =
      (entityOf (entities.foldl (insertSeries s') series') type id).all.redacted experiment := by
  induction entities generalizing series series' with
  | nil => exact alike type id
  | cons entity rest ih =>
    refine ih fun type id => ?_
    rw [entityOf_insertSeries, entityOf_insertSeries]
    split
    · show (Timeline.insert s _).redacted experiment = (Timeline.insert s' _).redacted experiment
      rw [Timeline.redacted_insert, Timeline.redacted_insert, h, alike]
    · exact alike type id

/-- **Placing events that are seen alike** keeps indexes so. They get the same number and the same
place, seen or not. -/
theorem place (h : x.SeenAlike experiment y) (he : e.SeenAlike experiment e') (schema : Schema) :
    (x.place e schema).SeenAlike experiment (y.place e' schema) := by
  have stored : StoredEvent.redacted experiment ⟨x.arena.size, e⟩ =
      StoredEvent.redacted experiment ⟨y.arena.size, e'⟩ := by
    rw [StoredEvent.redacted, StoredEvent.redacted, he.redacted, h.size]
  refine ⟨?_, ?_, fun type id => ?_, fun id => ?_, ?_, rfl, h.validates⟩
  · simp [EventIndex.place, h.size]
  · rw [EventIndex.place, EventIndex.place, Timeline.redacted_insert, Timeline.redacted_insert,
      stored, h.timeline]
  · show (entityOf (e.entities.entries.foldl _ x.series) type id).all.redacted experiment =
      (entityOf (e'.entities.entries.foldl _ y.series) type id).all.redacted experiment
    rw [he.entities]
    exact foldl_insertSeries stored _ h.entity type id
  · rw [EventIndex.place, EventIndex.place, he.id]
    dsimp only
    cases e'.id with
    | none => exact h.byId id
    | some own =>
      dsimp only
      by_cases same : id = own
      · rw [same, Dict.get?_insert_self, Dict.get?_insert_self, Option.map_some, Option.map_some,
          stored]
      · rw [Dict.get?_insert_of_ne same, Dict.get?_insert_of_ne same, h.byId id]
  · rw [EventIndex.place, EventIndex.place, h.catalogue, he.entities]

/-- Indexes that are seen alike have the same ids, since ids are not struck out. So they refuse the
same ones. -/
theorem contains_byId (h : x.SeenAlike experiment y) (id : String) :
    x.byId.contains id = y.byId.contains id := by
  have same := congrArg Option.isSome (h.byId id)
  rwa [Option.isSome_map, Option.isSome_map] at same

/-- **Events that are seen alike** are both accepted or both refused, by their ids and by the
schema, and with the same fault. -/
theorem insert (h : x.SeenAlike experiment y) (he : e.SeenAlike experiment e') :
    Related (SeenAlike experiment) (x.insert e) (y.insert e') := by
  have taken : x.takenId? e = y.takenId? e' := by
    rw [takenId?, takenId?, he.id, funext h.contains_byId]
  have schemas : Related Eq (x.schemaAfter e) (y.schemaAfter e') := by
    have observed := Schema.related_observe x.schema he
    rw [schemaAfter, schemaAfter, ← h.schema, ← h.validates]
    generalize x.schema.observe e = o at observed ⊢
    generalize x.schema.observe e' = o' at observed ⊢
    cases observed with
    | ok same => exact .ok same
    | error fault fault' =>
      dsimp only
      split
      · exact .error _ _
      · exact .ok rfl
  rw [EventIndex.insert, EventIndex.insert, taken]
  cases y.takenId? e' with
  | some id => exact .error _ _
  | none =>
    generalize x.schemaAfter e = o at schemas ⊢
    generalize y.schemaAfter e' = o' at schemas ⊢
    cases schemas with
    | ok same =>
      cases same
      exact .ok (h.place he _)
    | error fault fault' => exact .error _ _

/-- Batches of events that are seen alike are stored up to the same event, by induction on them. -/
theorem insertMany {es es' : List Event} (hes : List.Forall₂ (Event.SeenAlike experiment) es es')
    (h : x.SeenAlike experiment y) :
    (x.insertMany es).2.SeenAlike experiment (y.insertMany es').2 := by
  induction hes generalizing x y with
  | nil => exact h
  | @cons e e' es es' he _ ih =>
    have inserted := h.insert he
    rw [EventIndex.insertMany, EventIndex.insertMany]
    generalize x.insert e = o at inserted ⊢
    generalize y.insert e' = o' at inserted ⊢
    cases inserted with
    | ok next => exact ih next
    | error fault fault' => exact h

end SeenAlike

/-- A query sees two calls alike: they are the same apart from events that it sees alike. -/
inductive Call.SeenAlike (experiment : Option String) : Call → Call → Prop
  | declare (eventType attr : String) (k : ValueKind) :
    SeenAlike experiment (.declare eventType attr k) (.declare eventType attr k)
  | insert {e e' : Event} (h : e.SeenAlike experiment e') :
    SeenAlike experiment (.insert e) (.insert e')
  | insertMany {es es' : List Event} (h : List.Forall₂ (Event.SeenAlike experiment) es es') :
    SeenAlike experiment (.insertMany es) (.insertMany es')

variable {x y : EventIndex}

/-- **One call on each of two indexes leaves them seen alike**, by the cases of calls. An event is
accepted by both or by neither, because the schemas agree and the names and shapes of the attributes
do. -/
theorem SeenAlike.call (h : x.SeenAlike experiment y) {c c' : Call}
    (hc : c.SeenAlike experiment c') : (x.call c).SeenAlike experiment (y.call c') := by
  cases hc with
  | declare eventType attr k => exact h.declare eventType attr k
  | @insert e e' he =>
    have inserted := h.insert he
    rw [EventIndex.call, EventIndex.call]
    generalize x.insert e = o at inserted ⊢
    generalize y.insert e' = o' at inserted ⊢
    cases inserted with
    | ok next => exact next
    | error fault fault' => exact h
  | insertMany hes => exact h.insertMany hes

/-- **After calls that are seen alike** indexes are seen alike, whether the calls were accepted or
refused. So what a query sees does not depend on attributes that are hidden from it. -/
theorem seenAlike_after {calls calls' : List Call}
    (alike : List.Forall₂ (Call.SeenAlike experiment) calls calls')
    (h : x.SeenAlike experiment y) :
    (x.after calls).SeenAlike experiment (y.after calls') := by
  induction alike generalizing x y with
  | nil => exact h
  | cons hc _ ih => exact ih (h.call hc)

namespace SeenAlike

variable (h : x.SeenAlike experiment y)
include h

/-- What an index finds by an id is the same apart from the attributes of a hidden event. -/
theorem find? (id : String) :
    (x.find? id).map (Event.redacted experiment) =
      (y.find? id).map (Event.redacted experiment) := by
  have same := congrArg (Option.map StoredEvent.event) (h.byId id)
  rw [Option.map_map, Option.map_map] at same
  rw [EventIndex.find?, EventIndex.find?, Option.map_map, Option.map_map]
  exact same

/-- Indexes that are seen alike find the same visible event by an id. A hidden one may be found,
with attributes that differ. -/
theorem filter_find? (id : String) :
    ((x.find? id).filter fun e => e.visibleIn experiment) =
      (y.find? id).filter fun e => e.visibleIn experiment := by
  have same := h.find? id
  generalize x.find? id = o at same ⊢
  generalize y.find? id = o' at same ⊢
  cases o with
  | none =>
    cases o' with
    | none => rfl
    | some e' => cases same
  | some e =>
    cases o' with
    | none => cases same
    | some e' =>
      have left : e.redacted experiment = e'.redacted experiment := Option.some.inj same
      have visibility : e.visibleIn experiment = e'.visibleIn experiment := by
        rw [← e.visibleIn_redacted, left, e'.visibleIn_redacted]
      rw [Option.filter_some, Option.filter_some, ← visibility]
      cases visible : e.visibleIn experiment with
      | false => rfl
      | true => rw [Event.eq_of_redacted left visible]

/-- Indexes that are seen alike find events with the same entities, hidden or not, so a point
belongs to the same entity. -/
theorem find?_entities (id : String) :
    (x.find? id).map Event.entities = (y.find? id).map Event.entities := by
  have same := congrArg (Option.map Event.entities) (h.find? id)
  simpa [Option.map_map, Function.comp_def] using same

end SeenAlike
end EventIndex
end Hindsight
