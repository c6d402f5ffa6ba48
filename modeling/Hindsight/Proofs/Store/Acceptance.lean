import Hindsight.Proofs.Store.Intake
import Hindsight.Proofs.Store.Reachable
import Mathlib.Data.List.Nodup

/-!
# Which events are accepted

An index that validates accepts an event just if its id is free and the schema takes its attributes
(`EventIndex.insert_eq_ok_iff`). For a list of events this comes apart: the list is accepted in full
just if the schema takes all events one after the other, and their ids are free and different
(`EventIndex.FreeIds`, `EventIndex.exists_foldlM_insert_iff`). The events are then stored in the
order in which they come, and the schema is what they leave on record
(`EventIndex.foldlM_insert_leaves`).
-/

namespace Hindsight
namespace EventIndex

variable {x y : EventIndex} {e : Event} {es : List Event}

/-- The index that validates and has no events, but attributes that are declared. -/
def declaring (declared : List (String × String × ValueKind)) : EventIndex :=
  declared.foldl (fun x d => x.declare d.1 d.2.1 d.2.2) (empty true)

/-- Declarations change the schema alone, and keep it in order. -/
structure Declares (x : EventIndex) : Prop where
  reachable : x.Reachable
  arena : x.arena = #[]
  byId : x.byId = .empty
  validates : x.validates = true
  schema : x.schema.WellOrdered

/-- A list of declarations declares and inserts nothing, since every call that it is turned into is
a declaration. -/
theorem declares_declaring (declared : List (String × String × ValueKind)) :
    (declaring declared).Declares := by
  have step : ∀ x : EventIndex, x.Declares →
      (declared.foldl (fun x d => x.declare d.1 d.2.1 d.2.2) x).Declares := by
    induction declared with
    | nil => exact fun x h => h
    | cons d declared ih =>
      intro x h
      exact ih _ ⟨h.reachable.declare .., h.arena, h.byId, h.validates, h.schema.declare ..⟩
  exact step _ ⟨.empty true, rfl, rfl, rfl, .empty⟩

/-- A validating index refuses what its schema refuses. Without validation nothing is refused here,
and what cannot be learned is passed over. -/
theorem schemaAfter_eq_ok_iff (strict : x.validates = true) {s : Schema} :
    x.schemaAfter e = .ok s ↔ x.schema.observe e = .ok s := by
  rw [schemaAfter]
  cases x.schema.observe e with
  | ok t => rfl
  | error fault => simp [strict]

/-- **An event is accepted** just if its id is free and the schema takes it. The index after it is
the old one with the event placed, and nothing else is asked of an event. -/
theorem insert_eq_ok_iff (strict : x.validates = true) : x.insert e = .ok y ↔
    x.takenId? e = none ∧ ∃ s, x.schema.observe e = .ok s ∧ y = x.place e s := by
  rw [insert]
  cases x.takenId? e with
  | some id => simp
  | none =>
    dsimp only
    rw [map_eq_ok_iff]
    simp only [schemaAfter_eq_ok_iff strict, true_and, eq_comm (a := y)]

/-- An id is taken after an event if it was before, or is the id of the event. An event without an
id takes none. -/
theorem contains_byId_place (x : EventIndex) (e : Event) (s : Schema) (id : String) :
    (x.place e s).byId.contains id = true ↔ e.id = some id ∨ x.byId.contains id = true := by
  rw [place]
  dsimp only
  cases e.id with
  | none => simp
  | some own =>
    by_cases same : id = own
    · simp [Dict.contains, same]
    · have other : own ≠ id := fun h => same h.symm
      simp [Dict.contains, Dict.get?_insert_of_ne same, other]

/-- No id is taken just if the event has none or the index does not have it. This is how the check
of an event is told in terms of the ids alone. -/
theorem takenId?_eq_none_iff :
    x.takenId? e = none ↔ ∀ id, e.id = some id → x.byId.contains id = false := by
  rw [takenId?]
  cases e.id with
  | none => simp
  | some own => simp [Option.filter]

/-- **What accepted events leave:** they are stored behind the others in their order, and the schema
has observed them. -/
theorem foldlM_insert_leaves (strict : x.validates = true) (h : es.foldlM insert x = .ok y) :
    y.arena.toList = x.arena.toList ++ es ∧ es.foldlM Schema.observe x.schema = .ok y.schema ∧
      y.validates = true := by
  induction es generalizing x with
  | nil =>
    obtain rfl := Except.ok.inj h
    exact ⟨(List.append_nil _).symm, rfl, strict⟩
  | cons e es ih =>
    obtain ⟨z, accepted, later⟩ := bind_eq_ok_iff.1 (by rwa [List.foldlM_cons] at h)
    obtain ⟨-, s, observed, rfl⟩ := (insert_eq_ok_iff strict).1 accepted
    obtain ⟨arena, schema, validates⟩ := ih (x := x.place e s) strict later
    refine ⟨?_, ?_, validates⟩
    · rw [arena]
      simp [place]
    · rw [List.foldlM_cons, observed]
      exact schema

/-- Inserting events one after the other, all of them accepted, leads to a reachable index: each of
them is a step of its own. -/
theorem Reachable.foldlM_insert (hx : x.Reachable) (h : es.foldlM EventIndex.insert x = .ok y) :
    y.Reachable := by
  have stored := insertMany_eq_ok_iff.2 ⟨rfl, h⟩
  have reachable := hx.insertMany es
  rwa [stored] at reachable

/-- The ids of events are different, and no stored event has one of them. -/
def FreeIds (x : EventIndex) (es : List Event) : Prop :=
  (es.filterMap Event.id).Nodup ∧ ∀ id ∈ es.filterMap Event.id, x.byId.contains id = false

/-- The ids of events are free if that of the first is, and those of the rest are after it. This is
the step by which a list of events is taken apart. -/
theorem freeIds_cons_iff (s : Schema) :
    x.FreeIds (e :: es) ↔ x.takenId? e = none ∧ (x.place e s).FreeIds es := by
  have after (id : String) : (x.place e s).byId.contains id = false ↔
      e.id ≠ some id ∧ x.byId.contains id = false := by
    rw [← Bool.not_eq_true, contains_byId_place, not_or, Bool.not_eq_true]
  rw [takenId?_eq_none_iff, FreeIds, FreeIds]
  simp only [after]
  cases given : e.id with
  | none =>
    rw [List.filterMap_cons_none given]
    simp
  | some own =>
    rw [List.filterMap_cons_some given, List.nodup_cons, List.forall_mem_cons]
    have apart : own ∉ es.filterMap Event.id ↔
        ∀ id ∈ es.filterMap Event.id, some own ≠ some id := by
      constructor
      · rintro absent id member same
        exact absent (Option.some.inj same ▸ member)
      · exact fun differ member => differ own member rfl
    have own_free : (∀ id, some own = some id → x.byId.contains id = false) ↔
        x.byId.contains own = false := by simp
    rw [apart, own_free, forall₂_and]
    tauto

/-- **Events are accepted in full** just if the schema takes them one after the other, and their ids
are free and different. -/
theorem exists_foldlM_insert_iff (strict : x.validates = true) :
    (∃ y, es.foldlM insert x = .ok y) ↔
      (∃ t, es.foldlM Schema.observe x.schema = .ok t) ∧ x.FreeIds es := by
  induction es generalizing x with
  | nil => exact iff_of_true ⟨x, rfl⟩ ⟨⟨x.schema, rfl⟩, List.nodup_nil, by simp⟩
  | cons e es ih =>
    simp only [List.foldlM_cons, bind_eq_ok_iff]
    constructor
    · rintro ⟨y, z, accepted, later⟩
      obtain ⟨free, s, observed, rfl⟩ := (insert_eq_ok_iff strict).1 accepted
      obtain ⟨⟨t, taken⟩, rest⟩ := (ih (x := x.place e s) strict).1 ⟨y, later⟩
      exact ⟨⟨t, s, observed, taken⟩, (freeIds_cons_iff s).2 ⟨free, rest⟩⟩
    · rintro ⟨⟨t, s, observed, taken⟩, free⟩
      obtain ⟨here, rest⟩ := (freeIds_cons_iff s).1 free
      obtain ⟨y, later⟩ := (ih (x := x.place e s) strict).2 ⟨⟨t, taken⟩, rest⟩
      exact ⟨y, x.place e s, (insert_eq_ok_iff strict).2 ⟨here, s, observed, rfl⟩, later⟩

/-- Whether ids are free and different does not depend on the order of the events. It is the only
check that looks from one event at another besides that of the schema. -/
theorem FreeIds.of_perm {fs : List Event} (perm : es.Perm fs) (h : x.FreeIds es) :
    x.FreeIds fs := by
  have ids := perm.filterMap Event.id
  exact ⟨ids.nodup_iff.1 h.1, fun id member => h.2 id (ids.mem_iff.2 member)⟩

end EventIndex
end Hindsight
