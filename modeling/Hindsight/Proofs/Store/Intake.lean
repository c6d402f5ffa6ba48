import Hindsight.Proofs.Event.Learning
import Hindsight.Store.Intake

/-!
# Intake is atomic

An index is changed structure by structure, and an event can be refused while it is taken in. Every
refusal comes before the first lasting change: the id is asked for and all attributes are checked
before anything is written (`Intake.askForId_on`, `Intake.learn_on`). So the steps of an intake come
to the same as placing the event at once (`Intake.store_on`), and taking in a list of events leaves
what the events before the first refused one leave (`Intake.storeAll_on`,
`EventIndex.insertMany_eq_ok_iff`, `EventIndex.exists_refused_of_insertMany`). Together with the
growth of the schema this is `Intake.atomic`.
-/

namespace Hindsight

namespace Schema

/-- Updates that are written one by one are recorded together. The steps of an intake write them one
by one, and the index records them at once. -/
theorem foldl_declare (s : Schema) (eventType : String) (updates : List (String × ValueKind)) :
    updates.foldl (fun s u => declare s eventType u.1 u.2) (s.update eventType .empty id) =
      s.record eventType updates := by
  have written : ∀ (f : EventSchema → EventSchema),
      updates.foldl (fun s u => declare s eventType u.1 u.2) (s.update eventType .empty f) =
        s.update eventType .empty fun a => updates.foldl (fun a u => a.insert u.1 u.2) (f a) := by
    induction updates with
    | nil => intro f; rfl
    | cons u updates ih =>
      intro f
      rw [List.foldl_cons, declare, Dict.update_update_self, ih]
      rfl
  exact written id

end Schema

namespace EventIndex

/-- After an accepted event the rest of a list is stored and counted on, from the index that the
event leaves. -/
theorem insertMany_cons_of_ok {x y : EventIndex} {e : Event} (h : x.insert e = .ok y)
    (es : List Event) : x.insertMany (e :: es) =
      ((y.insertMany es).1.map (· + 1), (y.insertMany es).2) := by
  rw [insertMany, h]

/-- A refused event ends a list. Neither it nor what comes behind it is stored. -/
theorem insertMany_cons_of_error {x : EventIndex} {e : Event} {fault : EventError}
    (h : x.insert e = .error fault) (es : List Event) :
    x.insertMany (e :: es) = (.error fault, x) := by
  rw [insertMany, h]

end EventIndex

namespace Intake

open EventIndex (insertSeries insertEntity)

/-- Asking for a free id changes nothing, whether it is granted or refused. -/
theorem askForId_on (e : Event) (x : EventIndex) :
    (askForId e).on x = match x.takenId? e with
      | some id => (.error (.invalidEvent (.duplicateId id)), x)
      | none => (.ok (), x) := by
  rw [askForId, on_bind, on_get]
  dsimp only
  cases x.takenId? e with
  | none => exact on_pure () x
  | some id => exact on_throw (.invalidEvent (.duplicateId id)) x

/-- **Learning from an event** writes all that it brings, or nothing. The check goes over every
attribute before the first kind is written, although nothing undoes a write here. -/
theorem learn_on (e : Event) (x : EventIndex) :
    (learn e).on x = match x.schema.observe e with
      | .ok s => (.ok (), { x with schema := s })
      | .error fault => (.error fault, x) := by
  have declared : ∀ (updates : List (String × ValueKind)) (y : EventIndex),
      updates.foldl (fun y u => y.declare e.type u.1 u.2) y =
        { y with schema := updates.foldl (fun s u => s.declare e.type u.1 u.2) y.schema } := by
    intro updates
    induction updates with
    | nil => intro y; rfl
    | cons u updates ih => intro y; exact ih _
  rw [learn, on_bind, on_get, Schema.observe]
  dsimp only
  cases x.schema.check e with
  | error fault => exact on_throw fault x
  | ok updates =>
    dsimp only
    rw [on_bind, on_write]
    dsimp only
    rw [on_forM_write (fun (u : String × ValueKind) y => y.declare e.type u.1 u.2), declared,
      Schema.foldl_declare]
    rfl

/-- What an index learns from an event is its schema after the event, with validation or without. -/
theorem learnOrPass_on (e : Event) (x : EventIndex) :
    (learnOrPass e).on x = match x.schemaAfter e with
      | .ok s => (.ok (), { x with schema := s })
      | .error fault => (.error fault, x) := by
  rw [learnOrPass, on_bind, on_attempt, learn_on, EventIndex.schemaAfter]
  dsimp only
  cases x.schema.observe e with
  | ok s => rfl
  | error fault =>
    dsimp only
    rw [on_bind, on_get]
    dsimp only
    by_cases strict : x.validates = true
    · rw [if_pos strict, if_pos strict]
      exact on_throw fault x
    · rw [if_neg strict, if_neg strict]
      exact on_pure () x

/-- Listing an event with its entities one by one comes to what listing it with all of them does. No
step of it can fail. -/
theorem forM_list_on (s : StoredEvent) (entities : List (String × String)) (x : EventIndex) :
    (forM entities (list s)).on x =
      (.ok (), { x with
        series := entities.foldl (insertSeries s) x.series
        catalogue := entities.foldl insertEntity x.catalogue }) := by
  induction entities generalizing x with
  | nil => rfl
  | cons entity entities ih =>
    rw [List.forM_cons, on_bind, list, on_bind, on_write]
    exact ih _

/-- **An intake is all or nothing:** an event is placed with everything that belongs to it, or the
index is as it was. -/
theorem store_on (e : Event) (x : EventIndex) :
    (store e).on x = match x.insert e with
      | .ok y => (.ok x.size, y)
      | .error fault => (.error fault, x) := by
  rw [store, on_bind, askForId_on, EventIndex.insert]
  cases x.takenId? e with
  | some id => rfl
  | none =>
    dsimp only
    rw [on_bind, learnOrPass_on]
    cases x.schemaAfter e with
    | error fault => rfl
    | ok s =>
      dsimp only
      rw [on_bind, on_get]
      dsimp only
      rw [on_bind, on_write]
      dsimp only
      rw [on_bind, forM_list_on]
      dsimp only
      rw [on_bind, on_write]
      dsimp only [Except.map, EventIndex.place]
      cases e.id with
      | none => rfl
      | some id => rfl

/-- Counting on while events are taken in: the count starts from what was stored before, and a
refusal ends it. -/
theorem foldlM_store_on (es : List Event) (stored : Nat) (x : EventIndex) :
    (es.foldlM (fun n e => do let _ ← store e; return n + 1) stored : Intake Nat).on x =
      ((x.insertMany es).1.map (stored + ·), (x.insertMany es).2) := by
  induction es generalizing stored x with
  | nil => rfl
  | cons e es ih =>
    rw [List.foldlM_cons, on_bind, on_bind, store_on]
    cases inserted : x.insert e with
    | error fault =>
      rw [EventIndex.insertMany_cons_of_error inserted]
      rfl
    | ok y =>
      rw [EventIndex.insertMany_cons_of_ok inserted]
      show Intake.on _ y = _
      rw [ih]
      cases (y.insertMany es).1 with
      | error fault => rfl
      | ok n =>
        have counted : stored + 1 + n = stored + (n + 1) := by omega
        exact Prod.ext (congrArg Except.ok counted) rfl

/-- Taking in a list of events step by step, where a refusal leaves what was written, does what
inserting it into the index does. -/
theorem storeAll_on (es : List Event) (x : EventIndex) : (storeAll es).on x = x.insertMany es := by
  rw [storeAll, foldlM_store_on]
  cases result : x.insertMany es with
  | mk counted y =>
    cases counted with
    | error fault => rfl
    | ok n => exact Prod.ext (congrArg Except.ok (Nat.zero_add n)) rfl

end Intake

namespace EventIndex

variable {x y : EventIndex} {e : Event} {es : List Event} {fault : EventError}

/-- **A list is stored in full** just if each event is accepted after those before it. The count is
then the number of the events. -/
theorem insertMany_eq_ok_iff {n : Nat} :
    x.insertMany es = (.ok n, y) ↔ n = es.length ∧ es.foldlM insert x = .ok y := by
  induction es generalizing x n with
  | nil => simp [insertMany, pure, Except.pure, eq_comm]
  | cons e es ih =>
    rw [List.foldlM_cons]
    cases inserted : x.insert e with
    | error fault => simp [insertMany_cons_of_error inserted]
    | ok z =>
      rw [insertMany_cons_of_ok inserted, ok_bind, List.length_cons]
      constructor
      · intro h
        obtain ⟨counted, after⟩ := Prod.mk.inj h
        obtain ⟨m, rest, rfl⟩ := map_eq_ok_iff.1 counted
        obtain ⟨rfl, accepted⟩ := ih.1 (Prod.ext rest after)
        exact ⟨rfl, accepted⟩
      · rintro ⟨rfl, accepted⟩
        rw [ih.2 ⟨rfl, accepted⟩]
        rfl

/-- **A list is stored up to the first event that is refused.** What is left is the index of the
events before it, which were all accepted. -/
theorem exists_refused_of_insertMany (h : x.insertMany es = (.error fault, y)) :
    ∃ before e after, es = before ++ e :: after ∧ before.foldlM insert x = .ok y ∧
      y.insert e = .error fault := by
  induction es generalizing x with
  | nil => cases h
  | cons e es ih =>
    cases inserted : x.insert e with
    | error fault' =>
      rw [insertMany_cons_of_error inserted] at h
      cases h
      exact ⟨[], e, es, rfl, rfl, inserted⟩
    | ok z =>
      rw [insertMany_cons_of_ok inserted] at h
      rcases result : z.insertMany es with ⟨fault' | m, w⟩
      · rw [result] at h
        cases h
        obtain ⟨before, f, after, rfl, accepted, refused⟩ := ih result
        refine ⟨e :: before, f, after, rfl, ?_, refused⟩
        rw [List.foldlM_cons, inserted]
        exact accepted
      · rw [result] at h
        cases h

/-- An accepted event makes the schema grow: kinds are added or widened, and none is taken away. -/
theorem growsInto_of_insert (h : x.insert e = .ok y) : x.schema.GrowsInto y.schema := by
  obtain ⟨s, learned, rfl⟩ := insert_eq_ok h
  rw [schemaAfter] at learned
  split at learned
  · next observed =>
    cases learned
    exact Schema.growsInto_of_observe observed
  · split at learned
    · cases learned
    · cases learned
      exact .refl _

end EventIndex

namespace Intake

/-- **Intake is atomic.** An event is refused and leaves the index as it was, or it is accepted:
then it goes behind the stored ones, which keep their numbers, and the schema only gains attributes
or widens integers to floats. A list of events is taken in as a whole, and the result is their
number, or those before the first refused one are taken in. -/
theorem atomic (x : EventIndex) :
    (∀ e : Event,
      (∃ fault, (store e).on x = (.error fault, x)) ∨
        ∃ y, (store e).on x = (.ok x.size, y) ∧ y.arena = x.arena.push e ∧
          (∀ n : Fin x.size, y.arena[n.val]? = x.arena[n.val]?) ∧ x.schema.GrowsInto y.schema) ∧
      ∀ es : List Event,
        (∃ y, (storeAll es).on x = (.ok es.length, y) ∧ es.foldlM EventIndex.insert x = .ok y) ∨
          ∃ before e after fault y, es = before ++ e :: after ∧
            (storeAll es).on x = (.error fault, y) ∧
              (storeAll before).on x = (.ok before.length, y) ∧
                before.foldlM EventIndex.insert x = .ok y ∧ (store e).on y = (.error fault, y) := by
  constructor
  · intro e
    rw [store_on]
    cases accepted : x.insert e with
    | error fault => exact .inl ⟨fault, rfl⟩
    | ok y =>
      have arena := EventIndex.insert_arena accepted
      refine .inr ⟨y, rfl, arena, fun n => ?_, EventIndex.growsInto_of_insert accepted⟩
      have stored : n.val < x.arena.size := n.isLt
      rw [arena, Array.getElem?_push_lt stored, Array.getElem?_eq_getElem stored]
  · intro es
    rw [storeAll_on]
    rcases result : x.insertMany es with ⟨fault | n, y⟩
    · obtain ⟨before, e, after, split, accepted, refused⟩ :=
        EventIndex.exists_refused_of_insertMany result
      refine .inr ⟨before, e, after, fault, y, split, rfl, ?_, accepted, ?_⟩
      · rw [storeAll_on]
        exact EventIndex.insertMany_eq_ok_iff.2 ⟨rfl, accepted⟩
      · rw [store_on, refused]
    · obtain ⟨rfl, accepted⟩ := EventIndex.insertMany_eq_ok_iff.1 result
      exact .inl ⟨y, rfl, accepted⟩

end Intake
end Hindsight
