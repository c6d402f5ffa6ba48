import Hindsight.Proofs.Plan.Requests

/-!
# Unknown attributes

Types are only ever refused as mismatches (`Formula.mismatches_infer`,
`Aggregate.mismatches_infer`), so a query is refused for an unknown attribute just when attributes
are resolved. **The attribute that a query is refused for** is one that an aggregate of it reads and
that no candidate type of the aggregate has on record (`Binder.unknown_of_bindQuery`), and a query
with such an aggregate is always refused (`Binder.fails_bindQuery`).
-/

namespace Hindsight

/-- **A computation that fails for a mismatch of types** only. -/
inductive Mismatches {α : Type} : Except CompileError α → Prop
  | ok (a : α) : Mismatches (.ok a)
  | error (place : TypedPlace) (expected : ExpectedType) (found : ValueType) :
    Mismatches (.error (.typeMismatch place expected found))

namespace Mismatches

variable {α β : Type} {x : Except CompileError α}

/-- Two steps that fail for a mismatch only do so together, whichever of them fails. -/
theorem bind {f : α → Except CompileError β} (h : Mismatches x) (next : ∀ a, Mismatches (f a)) :
    Mismatches (x >>= f) := by
  cases h with
  | ok a => exact next a
  | error place expected found => exact .error place expected found

/-- An operand that is not accepted is a mismatch, and any other passes. -/
theorem expect (accepted : Bool) (place : TypedPlace) (expected : ExpectedType)
    (found : ValueType) : Mismatches (expectType accepted place expected found) := by
  rw [expectType]
  split
  · exact .ok ()
  · exact .error place expected found

end Mismatches

open Mismatches (expect)

/-- An operator with two operands is refused for the type of one of them, and for nothing else. -/
theorem Operator.mismatches_resultType (op : Operator) (left right : ValueType) :
    Mismatches (op.resultType left right) := by
  have one (accepted : Bool) (place : TypedPlace) (t found result : ValueType) :
      Mismatches (expectType accepted place (.type t) found >>= fun _ => pure result) :=
    (expect ..).bind fun _ => .ok _
  have two (accepted accepted' : Bool) (t t' result : ValueType) :
      Mismatches (expectType accepted (.leftOperand op) (.type t) left >>= fun _ =>
        expectType accepted' (.rightOperand op) (.type t') right >>= fun _ => pure result) :=
    (expect ..).bind fun _ => one ..
  unfold Operator.resultType
  split
  · exact two ..
  · exact .ok _
  · exact .ok _
  · exact one ..
  · exact two ..
  · exact one ..
  · dsimp only
    split
    · exact .ok _
    · exact two ..

/-- An operator with one operand is refused for its type, and for nothing else. -/
theorem UnaryOperator.mismatches_resultType (op : UnaryOperator) (operand : ValueType) :
    Mismatches (op.resultType operand) := by
  cases op <;> exact (expect ..).bind fun _ => .ok _

/-- A function is refused for the type of its first argument, and for nothing else. -/
theorem ScalarFunction.mismatches_resultType (f : ScalarFunction) (args : List ValueType) :
    Mismatches (f.resultType args) := by
  unfold ScalarFunction.resultType
  split
  · exact (expect ..).bind fun _ => .ok _
  · exact .ok _

namespace Formula

variable (types : AttributeTypes) (slots : List ValueType)

mutual

/-- **A formula without a type** has a mismatch. So typing never reports an attribute as unknown,
which is left to resolving. -/
theorem mismatches_infer : ∀ f : Formula, Mismatches (f.infer types slots)
  | literal _ | attr _ | sourceAttr _ | observationTime | wildcard | entity _ _ | slot _ => .ok _
  | field f => by cases f <;> exact .ok _
  | list items => (mismatches_inferAll items).bind fun _ => .ok _
  | unary op operand => (mismatches_infer operand).bind op.mismatches_resultType
  | binary left op right =>
    (mismatches_infer left).bind fun l =>
      (mismatches_infer right).bind fun r => op.mismatches_resultType l r
  | call f args => (mismatches_inferAll args).bind f.mismatches_resultType

/-- Inferring the types of several formulas fails for a mismatch only, together with a single
one. -/
theorem mismatches_inferAll : ∀ fs : List Formula, Mismatches (inferAll types slots fs)
  | [] => .ok _
  | f :: rest =>
    (mismatches_infer f).bind fun _ => (mismatches_inferAll rest).bind fun _ => .ok _

end

end Formula

/-- **An aggregate without a type** has a mismatch, in one of its parts or between them. -/
theorem Aggregate.mismatches_infer (types : AttributeTypes) (a : Aggregate) :
    Mismatches (a.infer types) := by
  have formula (f : Formula) : Mismatches (f.infer types []) := f.mismatches_infer types []
  refine (formula a.argument).bind fun argument => (expect ..).bind fun _ => ?_
  dsimp only
  -- each of the clauses that there are asks for one or two types more
  cases a.filter <;> cases a.having <;> cases a.groupBy
  all_goals
    dsimp only
    repeat' first
      | exact .ok _
      | exact formula _
      | exact expect ..
      | refine Mismatches.bind ?_ fun _ => ?_

namespace Binder

variable {s : Schema} {name : String} {cs : List String}

/-- What attributes are refused for: one of them is known for no candidate. Without candidates
nothing is refused. -/
theorem unknown_of_resolve {attributes : NameSet} {e : CompileError}
    (h : resolve s cs attributes = .error e) : ∃ name ∈ attributes.toList,
      e = .unknownAttribute name cs ∧ cs ≠ [] ∧ ∀ t ∈ cs, s.kind? t name = none := by
  rw [resolve] at h
  split at h
  · cases h
  rename_i some
  split at h
  · rename_i missing found
    cases h
    have unknown := List.find?_some found
    refine ⟨missing, List.mem_of_find?_eq_some found, rfl, by simpa using some, ?_⟩
    simpa [isKnown] using unknown
  · cases h

/-- An attribute that is known for no candidate is refused, whatever the other attributes are. -/
theorem fails_resolve {attributes : NameSet} (read : name ∈ attributes.toList) (some : cs ≠ [])
    (unknown : ∀ t ∈ cs, s.kind? t name = none) : Fails (resolve s cs attributes) := by
  have notKnown : isKnown s cs name = false := by
    rw [isKnown, List.any_eq_false]
    intro t ht
    simp [unknown t ht]
  rw [resolve, if_neg (by simpa using some)]
  cases found : attributes.toList.find? fun a => !isKnown s cs a with
  | some missing => exact ⟨_, rfl⟩
  | none =>
    have known := List.find?_eq_none.1 found name read
    simp [notKnown] at known

section Checks

variable {α : Type} {check : α → Except CompileError Unit} {l : List α}

/-- The fault of a list of checks is the fault of one of them, in fact the first that fails. -/
theorem exists_of_forM_eq_error {e : CompileError} (h : l.forM check = .error e) :
    ∃ a ∈ l, check a = .error e := by
  induction l with
  | nil => cases h
  | cons a l ih =>
    have unrolled : (a :: l).forM check = check a >>= fun _ => l.forM check := rfl
    rw [unrolled] at h
    cases here : check a with
    | error e' =>
      rw [here] at h
      cases h
      exact ⟨a, List.mem_cons_self, here⟩
    | ok _ =>
      rw [here] at h
      obtain ⟨b, hb, failed⟩ := ih h
      exact ⟨b, List.mem_cons_of_mem a hb, failed⟩

/-- A list of checks fails if one of them does, whichever it is. -/
theorem fails_forM {a : α} (ha : a ∈ l) (h : Fails (check a)) : Fails (l.forM check) := by
  induction l with
  | nil => cases ha
  | cons b l ih =>
    show Fails (check b >>= fun _ => l.forM check)
    rcases List.mem_cons.1 ha with rfl | ha
    · exact fails_bind_iff.2 (.inl h)
    · cases here : check b with
      | error e => exact ⟨e, rfl⟩
      | ok _ => exact ih ha

end Checks

/-- A query is bound as the schema has it, aggregate by aggregate, by a binder that remembers
nothing at first. -/
theorem bindQuery_fst {q : FeatureSet} (texts : q.FromTexts) :
    ((ofSchema s).bindQuery q).1 = q.slots.forM fun p => judgeAggregate s p.2 := by
  have text : (Request.query q).FromText := texts
  have recalls : ∀ p ∈ (Request.query q).subjects, (ofSchema s).RecallsSubject s p.1 p.2 :=
    fun p _ => recalls_ofSchema ..
  have answered := ask_fst recalls (text.agreesWith text text.namesAgree_self)
  exact Answer.query.inj answered

/-- **The attribute that a query is refused for** is read by an aggregate of it, and no candidate
type of that aggregate has it on record. -/
theorem unknown_of_bindQuery {q : FeatureSet} (texts : q.FromTexts)
    (h : ((ofSchema s).bindQuery q).1 = .error (.unknownAttribute name cs)) :
    ∃ p ∈ q.slots, name ∈ p.2.attributes.toList ∧ cs = candidates s p.2.eventTypes ∧ cs ≠ [] ∧
      ∀ t ∈ cs, s.kind? t name = none := by
  rw [bindQuery_fst texts] at h
  obtain ⟨p, slot, h⟩ := exists_of_forM_eq_error h
  refine ⟨p, slot, ?_⟩
  rw [judgeAggregate] at h
  cases resolved : resolve s (candidates s p.2.eventTypes) p.2.attributes with
  | error e =>
    rw [resolved] at h
    cases h
    obtain ⟨missing, read, same, some, unknown⟩ := unknown_of_resolve resolved
    cases same
    exact ⟨read, rfl, some, unknown⟩
  | ok _ =>
    -- where attributes are resolved, only types are left to refuse
    rw [resolved] at h
    obtain ⟨t, -, h⟩ := exists_of_forM_eq_error h
    have typed : Mismatches (discard (typeUnder s p.2.infer t)) := by
      refine Mismatches.bind ?_ fun _ => .ok _
      unfold typeUnder
      split
      · exact p.2.mismatches_infer _
      · exact .ok _
    rw [h] at typed
    cases typed

/-- **A query is refused** if an aggregate of it reads an attribute that no candidate type of the
aggregate has on record, unless there is no candidate type at all. -/
theorem fails_bindQuery {q : FeatureSet} (texts : q.FromTexts) {p : String × Aggregate}
    (slot : p ∈ q.slots) (read : name ∈ p.2.attributes.toList)
    (some : candidates s p.2.eventTypes ≠ [])
    (unknown : ∀ t ∈ candidates s p.2.eventTypes, s.kind? t name = none) :
    Fails ((ofSchema s).bindQuery q).1 := by
  rw [bindQuery_fst texts]
  refine fails_forM slot ?_
  exact fails_bind_iff.2 (.inl (fails_resolve read some unknown))

end Binder
end Hindsight
