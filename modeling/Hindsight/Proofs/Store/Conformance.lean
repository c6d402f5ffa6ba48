import Hindsight.Proofs.Plan.Typing
import Hindsight.Proofs.Store.Acceptance
import Hindsight.Proofs.Store.Representation

/-!
# Stored events conform to the schema

An event that is accepted under validation conforms to the schema that it leaves
(`Schema.Learns.conforms`), and goes on to conform while the schema grows (`Event.Conforms.grows`).
So an index that is validated stays so with each event that is accepted
(`EventIndex.Validated.insert`), and then whatever is accepted or refused later
(`EventIndex.after_induction`, `EventIndex.validated_after`). A declaration replaces what is on
record and may break this, so attributes are declared before the first event.
-/

namespace Hindsight

/-- Whether a value is neither a list nor a map. -/
def Value.isScalar : Value → Bool
  | .list _ | .map _ => false
  | _ => true

/-- **A flat event** has scalars only in its lists. -/
def Event.IsFlat (e : Event) : Prop :=
  ∀ name items, e.attr name = .list items → ∀ v ∈ items, v.isScalar = true

namespace Schema

/-- A list that holds no list and no map holds scalars, which is all that an attribute that is a
list may hold. -/
theorem nested?_list_eq_none_iff {items : List Value} :
    nested? (.list items) = none ↔ ∀ v ∈ items, v.isScalar = true := by
  rw [nested?, List.find?_eq_none]
  refine forall₂_congr fun v _ => ?_
  cases v <;> simp [Value.isScalar]

variable {s t : Schema} {e : Event}

/-- The kinds of a type are those on record of it, so what is known of one attribute is known
through its type. -/
theorem kind?_of_get? {type : String} {a : EventSchema} (h : s.get? type = some a) (name : String) :
    s.kind? type name = a.get? name := by
  rw [kind?, h, Option.bind_some]

/-- **An event conforms to what it leaves on record,** and is flat. The check refuses what does not
fit, and a nested list or map is never flat. -/
theorem Learns.conforms (h : s.Learns e t) :
    (∃ a, t.get? e.type = some a ∧ e.Conforms a) ∧ e.IsFlat := by
  have known : t.contains e.type = true := (h.known e.type).2 (.inr rfl)
  obtain ⟨a, found⟩ := Option.isSome_iff_exists.1 known
  refine ⟨⟨a, found, fun name k kind => ?_⟩, fun name items value => ?_⟩
  · obtain ⟨-, r, recorded, covers⟩ := covers_of_kindAfter (h.own name) kind
    exact ⟨r, (kind?_of_get? found name).symm.trans recorded, covers⟩
  · have kind : ValueKind.of? (e.attr name) = some .list := by rw [value]; rfl
    obtain ⟨flat, -⟩ := covers_of_kindAfter (h.own name) kind
    rw [value] at flat
    exact nested?_list_eq_none_iff.1 flat

end Schema

/-- **An event that conforms goes on to conform** while the schema grows, for a kind on record only
ever widens from integers to floats, and integers are read as floats as well. -/
theorem Event.Conforms.grows {s t : Schema} {e : Event} {a : EventSchema}
    (h : e.Conforms a) (found : s.get? e.type = some a) (grows : s.GrowsInto t) :
    ∃ b, t.get? e.type = some b ∧ e.Conforms b := by
  have known : s.contains e.type = true := by rw [Dict.contains, found]; rfl
  obtain ⟨b, found'⟩ := Option.isSome_iff_exists.1 (grows.known e.type known)
  refine ⟨b, found', fun name k kind => ?_⟩
  obtain ⟨r, recorded, covers⟩ := h name k kind
  rw [← Schema.kind?_of_get? found] at recorded
  rw [← Schema.kind?_of_get? found']
  rcases grows.kept e.type name r recorded with kept | ⟨rfl, widened⟩
  · exact ⟨r, kept, covers⟩
  · have widens : ValueKind.int.unify .float = some .float := rfl
    exact ⟨.float, widened, ValueKind.unify_of_covers covers widens⟩

namespace EventIndex

variable {x y : EventIndex} {e : Event}

/-- **A validated index:** its events conform to the schema of their types and are flat. -/
structure Validated (x : EventIndex) : Prop where
  strict : x.validates = true
  conforms (e : Event) : e ∈ x.arena → ∃ a, x.schema.get? e.type = some a ∧ e.Conforms a
  flat (e : Event) : e ∈ x.arena → e.IsFlat

/-- **An event that is accepted** leaves the index validated. The new event conforms to what it
leaves on record, and the stored ones go on to conform. -/
theorem Validated.insert (h : x.Validated) (ordered : e.attributes.Ordered)
    (accepted : x.insert e = .ok y) : y.Validated := by
  have grows := growsInto_of_insert accepted
  have arena := insert_arena accepted
  obtain ⟨-, s, observed, rfl⟩ := (insert_eq_ok_iff h.strict).1 accepted
  obtain ⟨conforms, flat⟩ := (Schema.learns_of_observe ordered observed).conforms
  refine ⟨h.strict, fun f hf => ?_, fun f hf => ?_⟩
  · rw [arena, Array.mem_push] at hf
    rcases hf with old | rfl
    · obtain ⟨a, found, before⟩ := h.conforms f old
      exact before.grows found grows
    · exact conforms
  · rw [arena, Array.mem_push] at hf
    rcases hf with old | rfl
    · exact h.flat f old
    · exact flat

/-- Whether a call brings events, accepted or not. -/
def Call.isIntake : Call → Bool
  | .declare .. => false
  | .insert _ | .insertMany _ => true

section Intake

variable {P : EventIndex → Prop}
  (step : ∀ {x y : EventIndex} {e : Event}, P x → e.attributes.Ordered → x.insert e = .ok y → P y)

include step

/-- What is kept by an event that is accepted is kept by a list of events, in full or not. An event
that is refused ends the list and changes nothing. -/
theorem insertMany_induction {es : List Event} (h : P x)
    (ordered : ∀ e ∈ es, e.attributes.Ordered) : P (x.insertMany es).2 := by
  induction es generalizing x with
  | nil => exact h
  | cons e es ih =>
    obtain ⟨here, rest⟩ := List.forall_mem_cons.1 ordered
    cases inserted : x.insert e with
    | error fault =>
      rw [insertMany_cons_of_error inserted]
      exact h
    | ok y =>
      rw [insertMany_cons_of_ok inserted]
      exact ih (step h here inserted) rest

/-- **What is kept by an event that is accepted** is kept by calls that bring events, by induction
on the calls, whether each of them is accepted or refused. -/
theorem after_induction {calls : List Call} (h : P x) (intake : ∀ c ∈ calls, c.isIntake = true)
    (ordered : ∀ c ∈ calls, ∀ e ∈ c.events, e.attributes.Ordered) : P (x.after calls) := by
  induction calls generalizing x with
  | nil => exact h
  | cons c calls ih =>
    obtain ⟨here, rest⟩ := List.forall_mem_cons.1 intake
    obtain ⟨here', rest'⟩ := List.forall_mem_cons.1 ordered
    refine ih (x := x.call c) ?_ rest rest'
    cases c with
    | declare => cases here
    | insert e =>
      rw [EventIndex.call]
      split
      · next accepted => exact step h (here' e List.mem_cons_self) accepted
      · exact h
    | insertMany es => exact insertMany_induction step h here'

end Intake

/-- **Stored events conform to the schema.** After attributes have been declared and events have
been brought in, accepted or refused, the type of each stored event is known, each attribute of it
that is not null has a kind on record that covers its own, and its lists hold scalars only. A later
event may widen a kind, and what conformed before goes on to conform. -/
theorem validated_after (declared : List (String × String × ValueKind)) (calls : List Call)
    (intake : ∀ c ∈ calls, c.isIntake = true)
    (ordered : ∀ c ∈ calls, ∀ e ∈ c.events, e.attributes.Ordered) :
    ((declaring declared).after calls).Validated := by
  have start := declares_declaring declared
  have none {e : Event} (member : e ∈ (declaring declared).arena) : False := by
    rw [start.arena] at member
    exact absurd member (Array.not_mem_empty e)
  exact after_induction Validated.insert
    ⟨start.validates, fun _ h => (none h).elim, fun _ h => (none h).elim⟩ intake ordered

/-- Payments are brought in. The second one widens the amount that was declared, the third one is
refused for an amount that is a text, which ends its batch, and the last one for a list in its
list. -/
def callsOfPayments : List Call :=
  let payment (amount : Value) (tags : List Value) : Event :=
    { type := "payment"
      time := .zero
      entities := ⟨[("customer", "1")]⟩
      id := none
      experiment := none
      attributes := ⟨[("amount", amount), ("tags", .list tags)]⟩ }
  [.insert (payment (.int 3) [.text "card"]),
    .insertMany [payment (.float 2.5) [], payment (.text "none") [], payment (.int 1) []],
    .insert (payment (.int 4) [.list []])]

/-- Two of the payments are stored, and both conform to the widened schema. The third is refused and
leaves nothing behind. -/
theorem validated_after_payments :
    let calls := callsOfPayments
    let x := (declaring [("payment", "amount", .int)]).after calls
    (∀ c ∈ calls, c.isIntake = true) ∧ (∀ c ∈ calls, ∀ e ∈ c.events, e.attributes.Ordered) ∧
      x.arena.size = 2 ∧ x.schema.kind? "payment" "amount" = some .float ∧ x.Validated := by
  have intake : ∀ c ∈ callsOfPayments, c.isIntake = true := by decide
  have ordered : ∀ c ∈ callsOfPayments, ∀ e ∈ c.events, e.attributes.Ordered := by decide
  exact ⟨intake, ordered, rfl, rfl, validated_after _ _ intake ordered⟩

end EventIndex
end Hindsight
