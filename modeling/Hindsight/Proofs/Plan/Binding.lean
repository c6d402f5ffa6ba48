import Hindsight.Plan.Binding
import Hindsight.Proofs.Except
import Hindsight.Proofs.Text.Digits

/-!
# What a binder remembers

What a binder remembers under a key is what it once found out. As long as all of it was found out
about the same thing, a binder that looks it up comes to the same as one that finds it out again
(`Binder.Recalls.resolveOnce`, `Binder.Recalls.typeOnce`). Hence whether a condition can hold on
events of a type is decided by the schema alone (`Binder.judge`), however often the condition was
bound before, and for whichever types (`Binder.RecallsCondition.bindCondition`).

The key of a slot can be read backwards: the digits behind its last number sign are those of the
slot, and what is in front of it is the name (`Binder.slotKey_inj`).
-/

namespace Hindsight
namespace Binder

variable {s : Schema} {b : Binder} {key : String} {cs : List String} {attributes : NameSet}
  {infer : AttributeTypes → Except CompileError ValueType}

/-- The key of a slot is the name of the feature, a number sign and digits. The facts about keys are
all read off this. -/
theorem toList_slotKey (name : String) (n : Nat) :
    (slotKey name n).toList = name.toList ++ '#' :: Nat.toDigits 10 n := by
  have digits : (toString n).toList = Nat.toDigits 10 n := Nat.toList_repr
  rw [slotKey, String.toList_append, String.toList_append, digits, List.append_assoc]
  rfl

/-- What stands behind the last number sign of the key of a slot are the digits of the slot. So the
key can be taken apart again, even if the name has number signs of its own. -/
theorem takeWhile_reverse_slotKey (name : String) (n : Nat) :
    (slotKey name n).toList.reverse.takeWhile (· ≠ '#') = (Nat.toDigits 10 n).reverse := by
  have plain : ∀ d ∈ (Nat.toDigits 10 n).reverse, decide (d ≠ '#') = true := by
    intro d mem
    have digit := Number.isDigit_of_mem_toDigits (List.mem_reverse.1 mem)
    refine decide_eq_true fun sign => ?_
    subst sign
    cases digit
  rw [toList_slotKey, List.reverse_append, List.reverse_cons, List.append_assoc,
    List.takeWhile_append_of_pos plain, List.singleton_append,
    List.takeWhile_cons_of_neg (by decide), List.append_nil]

/-- **A key tells its slot.** The name of a feature may hold number signs itself, but the digits of
the slot hold none, so the last one is the one that was put between them. -/
theorem slotKey_inj {name name' : String} {n n' : Nat} :
    slotKey name n = slotKey name' n' ↔ name = name' ∧ n = n' := by
  constructor
  · intro same
    have behind := takeWhile_reverse_slotKey name n
    rw [same, takeWhile_reverse_slotKey, List.reverse_inj] at behind
    obtain rfl : n' = n := by
      rw [← Number.digitsValue_toDigits n', behind, Number.digitsValue_toDigits]
    have chars := congrArg String.toList same
    rw [toList_slotKey, toList_slotKey] at chars
    exact ⟨String.toList_injective (List.append_cancel_right chars), rfl⟩
  · rintro ⟨rfl, rfl⟩
    rfl

/-- The type of something under the schema of an event type, if there is one. -/
def typeUnder (s : Schema) (infer : AttributeTypes → Except CompileError ValueType)
    (eventType : String) : Except CompileError ValueType :=
  match s.get? eventType with
  | some a => infer a.types
  | none => .ok .unknown

/-- **A binder recalls** under a key only what is found out about a schema. -/
structure Recalls (b : Binder) (s : Schema) (key : String) (cs : List String)
    (attributes : NameSet) (infer : AttributeTypes → Except CompileError ValueType) : Prop where
  schema : b.schema = s
  resolved (found : Except CompileError Unit) :
    b.resolved.lookup key = some found → found = resolve s cs attributes
  typed (eventType : String) (found : Except CompileError ValueType) :
    b.typed.lookup (key, eventType) = some found → found = typeUnder s infer eventType

/-- A new binder has nothing to recall, so whatever it recalls is right. -/
theorem recalls_ofSchema (s : Schema) (key : String) (cs : List String) (attributes : NameSet)
    (infer : AttributeTypes → Except CompileError ValueType) :
    (ofSchema s).Recalls s key cs attributes infer where
  schema := rfl
  resolved _ h := by cases h
  typed _ _ h := by cases h

namespace Recalls

/-- Attributes are resolved as they are for the first time, whether they are looked up or found in
what is remembered. -/
theorem resolveOnce (h : b.Recalls s key cs attributes infer) :
    ∃ b', b.resolveOnce key cs attributes = (resolve s cs attributes, b') ∧
      b'.Recalls s key cs attributes infer := by
  rw [Binder.resolveOnce]
  cases known : b.resolved.lookup key with
  | some found =>
    rw [← h.resolved found known]
    exact ⟨b, rfl, h⟩
  | none =>
    rw [h.schema]
    refine ⟨_, rfl, rfl, fun found recalled => ?_, h.typed⟩
    rw [List.lookup_cons_self] at recalled
    exact (Option.some.inj recalled).symm

/-- A type is inferred as it is for the first time. A fault is not remembered, and is found
again. -/
theorem typeOnce (h : b.Recalls s key cs attributes infer) (t : String) :
    ∃ b', b.typeOnce key t infer = (typeUnder s infer t, b') ∧
      b'.Recalls s key cs attributes infer := by
  rw [Binder.typeOnce]
  cases known : b.typed.lookup (key, t) with
  | some found =>
    rw [← h.typed t found known]
    exact ⟨b, rfl, h⟩
  | none =>
    rw [h.schema]
    refine ⟨_, rfl, rfl, h.resolved, fun u found recalled => ?_⟩
    by_cases same : u = t
    · subst same
      rw [List.lookup_cons_self] at recalled
      exact (Option.some.inj recalled).symm
    · have other : ((key, u) == (key, t)) = false := by simpa using same
      rw [List.lookup_cons, other] at recalled
      exact h.typed u found recalled

end Recalls

/-- A binder recalls nothing wrong of a condition. -/
abbrev RecallsCondition (b : Binder) (s : Schema) (c : Condition) : Prop :=
  b.Recalls s c.raw (candidates s c.eventTypes) c.formula.attributes
    fun types => c.formula.infer types []

/-- **Whether a condition can hold** on events of a type, as the schema has it. -/
def judge (s : Schema) (c : Condition) (eventType : String) : Except CompileError Bool :=
  if c.eventTypes.any fun pinned => !pinned.contains eventType then .ok false
  else do
    resolve s (candidates s c.eventTypes) c.formula.attributes
    if !s.contains eventType then .ok true
    else
      let t ← typeUnder s (fun types => c.formula.infer types []) eventType
      (c.expectBoolean t).map fun _ => true

/-- **A condition is bound** as the schema has it, whatever was bound of it before. The binder after
it recalls it as well. -/
theorem RecallsCondition.bindCondition {c : Condition} (h : b.RecallsCondition s c) (t : String) :
    ∃ b', b.bindCondition c t = (judge s c t, b') ∧ b'.RecallsCondition s c := by
  rw [Binder.bindCondition, judge]
  split
  · exact ⟨b, rfl, h⟩
  · obtain ⟨b', resolved, h'⟩ := h.resolveOnce
    rw [h.schema, resolved]
    cases resolve s (candidates s c.eventTypes) c.formula.attributes with
    | error fault => exact ⟨b', rfl, h'⟩
    | ok _ =>
      dsimp only
      rw [h'.schema, ok_bind]
      split
      · exact ⟨b', rfl, h'⟩
      · obtain ⟨b'', typed, h''⟩ := h'.typeOnce t
        rw [typed]
        cases typeUnder s (fun types => c.formula.infer types []) t with
        | error fault => exact ⟨b'', rfl, h''⟩
        | ok u => exact ⟨b'', rfl, h''⟩

end Binder
end Hindsight
