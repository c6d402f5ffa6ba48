import Hindsight.Proofs.Plan.Unknown
import Hindsight.Proofs.Store.Conformance

/-!
# What an index without validation has on record

Without validation every event is stored, but the schema observes an event as a whole or not at
all. It takes some of the events (`Schema.taken`) and passes over the others, those with an
attribute that is refused (`Schema.takes_iff`). What is on record are the kinds that the events
taken give each attribute, the first of them or the float that it widened to
(`Schema.eq_onRecord_of_foldlM_kindAfter`). So **the attributes of the events taken can be asked
for**, and those that only events passed over have cannot, although the events are there
(`EventIndex.recorded_after`, `EventIndex.visit_passed_over`).
-/

namespace Hindsight

/-- What is on record after kinds that meet: the first, or float if it was integer and a float
came. -/
def ValueKind.onRecord : List ValueKind → Option ValueKind
  | [] => none
  | first :: later => some (if first = .int ∧ .float ∈ later then .float else first)

/-- A kind that meets the first of them leaves on record what they meet in. This is one step of
taking in values that all fit. -/
theorem ValueKind.onRecord_cons {r k l : ValueKind} (h : r.unify k = some l)
    (later : List ValueKind) : onRecord (r :: k :: later) = onRecord (l :: later) := by
  rcases (unify_eq_some h).2.2 with rfl | ⟨rfl, rfl⟩
  · cases l <;> cases k <;> first | cases h; done | simp [onRecord]
  · cases k <;> first | cases h; done | simp [onRecord]

/-- Nothing is on record just if no kind came. The values before may still have been many, all of
them null. -/
theorem ValueKind.onRecord_eq_none_iff {ks : List ValueKind} : onRecord ks = none ↔ ks = [] := by
  cases ks <;> simp [onRecord]

/-- Only null has no kind, so only null leaves what is on record as it is. -/
theorem ValueKind.of?_eq_none_iff {v : Value} : ValueKind.of? v = none ↔ v = .null := by
  cases v <;> simp [ValueKind.of?]

namespace Schema

variable {s t : Schema} {e : Event} {es : List Event}

/-- The schema after an event that is passed over if it is refused. -/
def pass (s : Schema) (e : Event) : Schema := (s.observe e).toOption.getD s

/-- The events that a schema takes, one after the other. -/
def taken (s : Schema) : List Event → List Event
  | [] => []
  | e :: es =>
    match s.observe e with
    | .ok t => e :: t.taken es
    | .error _ => s.taken es

/-- **A schema takes an event** if nothing of it is refused. -/
def takes (s : Schema) (e : Event) : Bool := (s.observe e).isOk

/-- An event is taken just if none of its attributes is refused: no list is nested, and each kind
meets the one on record. -/
theorem takes_iff (ordered : e.attributes.Ordered) : s.takes e = true ↔
    ∀ name, ∃ r, kindAfter (s.kind? e.type name) (e.attr name) = some r := by
  constructor
  · intro taken name
    rw [takes] at taken
    cases observed : s.observe e with
    | ok t => exact ⟨_, (learns_of_observe ordered observed).own name⟩
    | error fault =>
      rw [observed] at taken
      cases taken
  · intro admitted
    obtain ⟨t, observed⟩ := exists_observe ordered admitted
    rw [takes, observed]
    rfl

/-- What is admitted goes on to be admitted while what is on record grows, since an integer is
admitted where floats are. -/
theorem exists_kindAfter_of_grows {v : Value} {recorded after later : Option ValueKind}
    (h : kindAfter recorded v = some after)
    (kept : ∀ k, after = some k → later = some k ∨ k = .int ∧ later = some .float) :
    ∃ r, kindAfter later v = some r := by
  cases kind : ValueKind.of? v with
  | none => exact ⟨later, by rw [kindAfter, kind]⟩
  | some k =>
    obtain ⟨flat, m, recorded, covers⟩ := covers_of_kindAfter h kind
    have admits (l : ValueKind) (meets : l.unify k = some l) :
        kindAfter (some l) v = some (some l) := by
      rw [kindAfter, kind]
      simp [flat, meets]
    rcases kept m recorded with rfl | ⟨rfl, rfl⟩
    · exact ⟨_, admits m covers⟩
    · have widens : ValueKind.int.unify .float = some .float := rfl
      exact ⟨_, admits .float (ValueKind.unify_of_covers covers widens)⟩

/-- What is refused goes on to be refused while what is on record grows. Widening integers to floats
admits floats, and these were admitted before. -/
theorem kindAfter_eq_none_of_grows {v : Value} {recorded later : Option ValueKind}
    (h : kindAfter recorded v = none)
    (kept : ∀ k, recorded = some k → later = some k ∨ k = .int ∧ later = some .float) :
    kindAfter later v = none := by
  rw [kindAfter] at h ⊢
  cases kind : ValueKind.of? v with
  | none =>
    rw [kind] at h
    cases h
  | some k =>
    rw [kind] at h
    dsimp only at h ⊢
    split at h
    · rename_i nested
      rw [if_pos nested]
    rename_i flat
    rw [if_neg flat]
    cases recorded with
    | none => cases h
    | some l =>
      rcases kept l rfl with rfl | ⟨rfl, rfl⟩
      · exact h
      · cases k <;> first | rfl | cases h

/-- **The events that are taken** are what the schema learns from all. The others leave it as it is,
so a schema that passes over events is one that never met them. -/
theorem learnsAll_taken (ordered : ∀ e ∈ es, e.attributes.Ordered) :
    s.LearnsAll (s.taken es) (es.foldl pass s) := by
  induction es generalizing s with
  | nil => exact ⟨fun _ _ => rfl, fun type => by simp [taken]⟩
  | cons e es ih =>
    obtain ⟨here, rest⟩ := List.forall_mem_cons.1 ordered
    rw [taken, List.foldl_cons, pass]
    cases observed : s.observe e with
    | ok t => exact (learns_of_observe here observed).learnsAll_iff.2 (ih rest)
    | error fault => exact ih rest

/-- Passing over what is refused, a schema only grows, by induction on the events. It grows at each
that is taken and stays at the others. -/
theorem growsInto_foldl_pass (s : Schema) (es : List Event) : s.GrowsInto (es.foldl pass s) := by
  induction es generalizing s with
  | nil => exact .refl s
  | cons e es ih =>
    refine GrowsInto.trans ?_ (ih _)
    rw [pass]
    cases observed : s.observe e with
    | ok t => exact growsInto_of_observe observed
    | error fault => exact .refl s

/-- **The events that were taken** are those that the schema in the end takes. So which they were
can be told without going through the history. -/
theorem taken_eq_filter (ordered : ∀ e ∈ es, e.attributes.Ordered) :
    s.taken es = es.filter (es.foldl pass s).takes := by
  induction es generalizing s with
  | nil => rfl
  | cons e es ih =>
    obtain ⟨here, rest⟩ := List.forall_mem_cons.1 ordered
    rw [taken, List.foldl_cons, pass]
    cases observed : s.observe e with
    | ok t =>
      have grows := growsInto_foldl_pass t es
      have goesOn : (es.foldl pass t).takes e = true := (takes_iff here).2 fun name =>
        exists_kindAfter_of_grows ((learns_of_observe here observed).own name)
          fun k held => grows.kept e.type name k held
      exact (congrArg (e :: ·) (ih rest)).trans (List.filter_cons_of_pos goesOn).symm
    | error fault =>
      have grows := growsInto_foldl_pass s es
      have notTaken : ¬s.takes e = true := by
        rw [takes, observed]
        exact Bool.false_ne_true
      have goesOn : ¬(es.foldl pass s).takes e = true := by
        rw [takes_iff here] at notTaken ⊢
        refine fun admitted => notTaken fun name => ?_
        by_contra refused
        have refused' : kindAfter (s.kind? e.type name) (e.attr name) = none :=
          Option.eq_none_iff_forall_ne_some.2 fun r hr => refused ⟨r, hr⟩
        obtain ⟨r, hr⟩ := admitted name
        rw [kindAfter_eq_none_of_grows refused' fun k held => grows.kept e.type name k held] at hr
        cases hr
      exact (ih rest).trans (List.filter_cons_of_neg goesOn).symm

/-- **What values leave on record** is decided by the kind on record before and theirs: where they
come from and in which order does not matter, as long as all of them fit. -/
theorem eq_onRecord_of_foldlM_kindAfter {vs : List Value} {recorded r : Option ValueKind}
    (h : vs.foldlM kindAfter recorded = some r) :
    r = ValueKind.onRecord (recorded.toList ++ vs.filterMap ValueKind.of?) := by
  induction vs generalizing recorded with
  | nil =>
    cases h
    cases r with
    | none => rfl
    | some k => simp [ValueKind.onRecord]
  | cons v vs ih =>
    rw [List.foldlM_cons] at h
    obtain ⟨next, admitted, h⟩ := Option.bind_eq_some_iff.1 h
    rw [kindAfter] at admitted
    cases kind : ValueKind.of? v with
    | none =>
      rw [kind] at admitted
      cases admitted
      rw [List.filterMap_cons_none kind]
      exact ih h
    | some k =>
      rw [kind] at admitted
      dsimp only at admitted
      rw [List.filterMap_cons_some kind]
      split at admitted
      · cases admitted
      cases recorded with
      | none =>
        cases admitted
        exact ih h
      | some l =>
        obtain ⟨m, unified, rfl⟩ := Option.map_eq_some_iff.1 admitted
        exact (ih h).trans (ValueKind.onRecord_cons unified _).symm

end Schema

namespace EventIndex

variable {x y : EventIndex} {e : Event}

/-- **An index without validation:** its schema has passed over all its events in their order, and
taken those that it could. -/
structure Lenient (x : EventIndex) : Prop where
  validates : x.validates = false
  schema : x.schema = x.arena.toList.foldl Schema.pass .empty
  ordered (e : Event) : e ∈ x.arena → e.attributes.Ordered

/-- An event that an index without validation accepts keeps the schema at what it has taken so
far. -/
theorem Lenient.insert (h : x.Lenient) (ordered : e.attributes.Ordered)
    (accepted : x.insert e = .ok y) : y.Lenient := by
  have arena := insert_arena accepted
  rw [EventIndex.insert] at accepted
  split at accepted
  · cases accepted
  obtain ⟨s, after, rfl⟩ := map_eq_ok_iff.1 accepted
  refine ⟨h.validates, ?_, fun f hf => ?_⟩
  rotate_left
  · rw [arena, Array.mem_push] at hf
    rcases hf with old | rfl
    · exact h.ordered f old
    · exact ordered
  rw [arena, Array.toList_push, List.foldl_concat, ← h.schema, Schema.pass]
  rw [schemaAfter] at after
  cases observed : x.schema.observe e with
  | ok t =>
    rw [observed] at after
    exact (Except.ok.inj after).symm
  | error fault =>
    rw [observed] at after
    dsimp only at after
    rw [h.validates] at after
    exact (Except.ok.inj after).symm

/-- **What is on record without validation** comes from the stored events that the schema takes. An
event that conflicts is stored, and leaves no trace in the schema. -/
theorem Lenient.kind?_eq (h : x.Lenient) (type name : String) : x.schema.kind? type name =
    ValueKind.onRecord
      ((Schema.history (x.arena.toList.filter x.schema.takes) type name).filterMap
        ValueKind.of?) := by
  have ordered : ∀ e ∈ x.arena.toList, e.attributes.Ordered := fun e he =>
    h.ordered e (Array.mem_toList_iff.1 he)
  have learned := (Schema.learnsAll_taken (s := .empty) ordered).kinds type name
  rw [Schema.taken_eq_filter ordered, ← h.schema] at learned
  exact Schema.eq_onRecord_of_foldlM_kindAfter learned

/-- **What can be asked for without validation.** After events have been brought in, accepted or
refused, what is on record comes from those stored events that the schema takes: of each attribute
it is the kind that they gave it first, or the float that it widened to. A query is refused for an
attribute only if none of them that is of a type in question has it, and a query that reads such an
attribute is refused, unless no type in question is known at all. -/
theorem recorded_after (calls : List Call) (intake : ∀ c ∈ calls, c.isIntake = true)
    (ordered : ∀ c ∈ calls, ∀ e ∈ c.events, e.attributes.Ordered) :
    let x := (empty false).after calls
    let taken := x.arena.toList.filter x.schema.takes
    (∀ type name, x.schema.kind? type name =
      ValueKind.onRecord ((Schema.history taken type name).filterMap ValueKind.of?)) ∧
    ∀ q : FeatureSet, q.FromTexts →
      (∀ name types, ((Binder.ofSchema x.schema).bindQuery q).1 =
          .error (.unknownAttribute name types) →
        ∀ e ∈ taken, e.type ∈ types → e.attr name = .null) ∧
      ∀ p ∈ q.slots, ∀ name ∈ p.2.attributes.toList,
        let types := Binder.candidates x.schema p.2.eventTypes
        types ≠ [] → (∀ e ∈ taken, e.type ∈ types → e.attr name = .null) →
          Fails ((Binder.ofSchema x.schema).bindQuery q).1 := by
  intro x taken
  have lenient : x.Lenient := after_induction Lenient.insert
    ⟨rfl, rfl, fun e he => absurd he (Array.not_mem_empty e)⟩ intake ordered
  have recorded := lenient.kind?_eq
  have unknown_iff (type name : String) :
      x.schema.kind? type name = none ↔ ∀ e ∈ taken, e.type = type → e.attr name = .null := by
    rw [recorded, ValueKind.onRecord_eq_none_iff, List.filterMap_eq_nil_iff, Schema.history,
      List.forall_mem_map]
    simp only [taken, List.mem_filter, beq_iff_eq, ValueKind.of?_eq_none_iff, and_imp]
  refine ⟨recorded, fun q texts => ⟨fun name types refused e he own => ?_,
    fun p slot name read some none => ?_⟩⟩
  · obtain ⟨-, -, -, -, -, unknown⟩ := Binder.unknown_of_bindQuery texts refused
    exact (unknown_iff e.type name).1 (unknown e.type own) e he rfl
  · exact Binder.fails_bindQuery texts slot read some fun t ht =>
      (unknown_iff t name).2 fun e he own => none e he (own ▸ ht)

/-- A visit with attributes. -/
def visitWith (attributes : Dict String Value) : Event where
  type := "visit"
  time := .zero
  entities := ⟨[("patient", "1")]⟩
  id := none
  experiment := none
  attributes := attributes

/-- Three visits are brought in. The second one has a text where the first one has a number, and an
attribute of its own. -/
def conflictingVisits : List Call :=
  [.insert (visitWith ⟨[("v", .int 1)]⟩),
    .insertMany [visitWith ⟨[("v", .text "x"), ("w", .int 2)]⟩,
      visitWith ⟨[("u", .bool true), ("v", .float 2.5)]⟩]]

/-- The third visit widens the number of the first and brings its own attribute. What only the
second one has is not on record, and a query for it is refused. -/
theorem recorded_after_visits :
    let x := (empty false).after conflictingVisits
    let q := Binder.countAs "count(w) over past as n" "w"
    (∀ c ∈ conflictingVisits, c.isIntake = true) ∧
      (∀ c ∈ conflictingVisits, ∀ e ∈ c.events, e.attributes.Ordered) ∧ q.FromTexts ∧
        x.schema.kind? "visit" "v" = some .float ∧ x.schema.kind? "visit" "u" = some .bool ∧
          Fails ((Binder.ofSchema x.schema).bindQuery q).1 := by
  intro x q
  have intake : ∀ c ∈ conflictingVisits, c.isIntake = true := by decide
  have ordered : ∀ c ∈ conflictingVisits, ∀ e ∈ c.events, e.attributes.Ordered := by decide
  have texts : q.FromTexts := ⟨true, ["count(w) over past as n"], rfl⟩
  obtain ⟨recorded, queries⟩ := recorded_after conflictingVisits intake ordered
  have taken : x.arena.toList.filter x.schema.takes =
      [visitWith ⟨[("v", .int 1)]⟩, visitWith ⟨[("u", .bool true), ("v", .float 2.5)]⟩] := rfl
  have absent : ∀ e ∈ x.arena.toList.filter x.schema.takes, e.attr "w" = .null := by
    rw [taken]
    simp only [List.forall_mem_cons]
    exact ⟨rfl, rfl, fun e he => absurd he List.not_mem_nil⟩
  refine ⟨intake, ordered, texts, recorded "visit" "v", recorded "visit" "u", ?_⟩
  refine (queries q texts).2 _ List.mem_cons_self "w" (by decide) ?_ fun e he _ => absent e he
  exact List.cons_ne_nil "visit" []

/-- **A visit that is passed over** is there, with an attribute that it alone has and that no query
can ask for. -/
theorem visit_passed_over :
    let x := (empty false).after conflictingVisits
    (∃ e ∈ x.arena, e.type = "visit" ∧ e.attr "w" = .int 2) ∧
      x.schema.kind? "visit" "w" = none ∧
        FeatureSet.compile true ["count(w) over past as n"] =
            .ok (Binder.countAs "count(w) over past as n" "w") ∧
          ((Binder.ofSchema x.schema).bindQuery
              (Binder.countAs "count(w) over past as n" "w")).1 =
            .error (.unknownAttribute "w" ["visit"]) := by
  refine ⟨⟨visitWith ⟨[("v", .text "x"), ("w", .int 2)]⟩, ?_, rfl, rfl⟩, rfl, rfl, rfl⟩
  exact Array.mem_toList_iff.1 (List.mem_cons_of_mem _ List.mem_cons_self)

end EventIndex

end Hindsight
