import Hindsight.Proofs.Expr.Spans
import Hindsight.Proofs.Plan.Binding
import Hindsight.Proofs.Plan.Compile

/-!
# One binder for many requests

A binder may bind one query after the other, and conditions in between. What it remembers under a
key is right for a request just if all requests before that used the key meant the same thing by it
(`Binder.Request.AgreesWith`): binding anything else leaves the key alone
(`Binder.RecallsSubject.bindAll_snd`), and what is remembered then is what is found out
(`Binder.bindAll_fst`). **A request that agrees with those before it is answered as by a new
binder** (`Binder.ask_after`).

All keys are texts in one memory, so three things keep requests that were compiled from texts apart.
The key of a slot tells the name of its feature and the slot (`Binder.slotKey_inj`). No condition is
written like the key of a slot, since the lexer accepts no text that ends in a number sign and
digits (`Binder.slotKey_ne_raw`). And two conditions of one text are one condition, as are two
features. What is left to disagree on is the name that an alias gives to a feature: it does not have
to stand for one feature in two queries, and where it does not, a binder takes the one for the other
(`Binder.ask_after_texts`, `Binder.ask_ne_of_renamed`).
-/

namespace Hindsight

/-- The aggregates of a feature with their keys. -/
def Feature.slots (f : Feature) : List (String × Aggregate) :=
  f.aggregates.zipIdx.map fun p => (Binder.slotKey f.name p.2, p.1)

/-- The aggregates of a query with their keys. -/
def FeatureSet.slots (q : FeatureSet) : List (String × Aggregate) :=
  q.features.flatMap Feature.slots

namespace Binder

/-- What something is to be bound by: the types it is pinned to, its attributes, and its type. -/
structure Subject where
  pinned : Option NameSet
  attributes : NameSet
  infer : AttributeTypes → Except CompileError ValueType

/-- What an aggregate is bound by. -/
def ofAggregate (a : Aggregate) : Subject := ⟨a.eventTypes, a.attributes, a.infer⟩

/-- What a condition is bound by. -/
def ofCondition (c : Condition) : Subject :=
  ⟨c.eventTypes, c.formula.attributes, fun types => c.formula.infer types []⟩

variable {s : Schema} {b : Binder} {key key' : String} {x : Subject} {a : Aggregate}

/-- A binder recalls nothing wrong of a subject. -/
abbrev RecallsSubject (b : Binder) (s : Schema) (key : String) (x : Subject) : Prop :=
  b.Recalls s key (candidates s x.pinned) x.attributes x.infer

/-- Whether an aggregate can be bound, as the schema has it. -/
def judgeAggregate (s : Schema) (a : Aggregate) : Except CompileError Unit := do
  resolve s (candidates s a.eventTypes) a.attributes
  (candidates s a.eventTypes).forM fun t => discard (typeUnder s a.infer t)

namespace Recalls

variable {cs : List String} {attributes : NameSet}
  {infer : AttributeTypes → Except CompileError ValueType}

/-- Resolving something else leaves a key alone, since it is remembered under a key of its own. -/
theorem resolveOnce_of_ne (h : b.Recalls s key cs attributes infer) (other : key ≠ key')
    (cs' : List String) (attributes' : NameSet) :
    (b.resolveOnce key' cs' attributes').2.Recalls s key cs attributes infer := by
  rw [Binder.resolveOnce]
  cases b.resolved.lookup key' with
  | some found => exact h
  | none =>
    refine ⟨h.schema, fun found recalled => h.resolved found ?_, h.typed⟩
    rwa [List.lookup_cons, beq_eq_false_iff_ne.2 other] at recalled

/-- Inferring the type of something else leaves a key alone, since it is remembered under a key of
its own. -/
theorem typeOnce_of_ne (h : b.Recalls s key cs attributes infer) (other : key ≠ key') (t : String)
    (infer' : AttributeTypes → Except CompileError ValueType) :
    (b.typeOnce key' t infer').2.Recalls s key cs attributes infer := by
  rw [Binder.typeOnce]
  cases b.typed.lookup (key', t) with
  | some found => exact h
  | none =>
    refine ⟨h.schema, h.resolved, fun u found recalled => h.typed u found ?_⟩
    have apart : ((key, u) == (key', t)) = false := by simp [other]
    rwa [List.lookup_cons, apart] at recalled

/-- Typing under another key leaves what is recalled under this one, by induction on the types. -/
theorem typeAll_of_ne (h : b.Recalls s key cs attributes infer) (other : key ≠ key')
    (infer' : AttributeTypes → Except CompileError ValueType) (types : List String) :
    (b.typeAll key' infer' types).2.Recalls s key cs attributes infer := by
  induction types generalizing b with
  | nil => exact h
  | cons t types ih =>
    have kept := h.typeOnce_of_ne other t infer'
    rw [Binder.typeAll]
    generalize b.typeOnce key' t infer' = step at kept
    obtain ⟨r, b'⟩ := step
    cases r with
    | ok u => exact ih kept
    | error e => exact kept

/-- Types are inferred one by one as for the first time, up to the first fault. The binder after it
recalls them. -/
theorem typeAll (h : b.Recalls s key cs attributes infer) (types : List String) :
    ∃ b', b.typeAll key infer types =
        (types.forM fun t => discard (typeUnder s infer t), b') ∧
      b'.Recalls s key cs attributes infer := by
  induction types generalizing b with
  | nil => exact ⟨b, rfl, h⟩
  | cons t types ih =>
    obtain ⟨b', typed, h'⟩ := h.typeOnce t
    have unrolled : ((t :: types).forM fun t => discard (typeUnder s infer t)) =
        discard (typeUnder s infer t) >>= fun _ =>
          types.forM fun t => discard (typeUnder s infer t) := rfl
    rw [Binder.typeAll, typed, unrolled]
    cases typeUnder s infer t with
    | ok u => exact ih h'
    | error e => exact ⟨b', rfl, h'⟩

end Recalls

namespace RecallsSubject

/-- **An aggregate is bound** as the schema has it, whatever was bound of it before: its attributes
are resolved first, and then its types are inferred. -/
theorem bindAggregate (h : b.RecallsSubject s key (ofAggregate a)) :
    ∃ b', b.bindAggregate key a = (judgeAggregate s a, b') ∧
      b'.RecallsSubject s key (ofAggregate a) := by
  obtain ⟨b', resolved, h'⟩ := h.resolveOnce
  obtain ⟨b'', typed, h''⟩ := h'.typeAll (candidates s a.eventTypes)
  dsimp only [ofAggregate] at resolved typed
  rw [Binder.bindAggregate, h.schema, resolved, judgeAggregate]
  cases resolve s (candidates s a.eventTypes) a.attributes with
  | error e => exact ⟨b', rfl, h'⟩
  | ok _ => exact ⟨b'', typed, h''⟩

/-- Binding an aggregate under another key leaves a key alone, in both of its steps. -/
theorem bindAggregate_of_ne (h : b.RecallsSubject s key x) (other : key ≠ key') (a : Aggregate) :
    (b.bindAggregate key' a).2.RecallsSubject s key x := by
  have kept := h.resolveOnce_of_ne other (candidates b.schema a.eventTypes) a.attributes
  rw [Binder.bindAggregate]
  generalize b.resolveOnce key' (candidates b.schema a.eventTypes) a.attributes = step at kept
  obtain ⟨r, b'⟩ := step
  cases r with
  | error e => exact kept
  | ok _ => exact kept.typeAll_of_ne other a.infer _

/-- Binding an aggregate leaves a key alone unless it is bound under this key as something else. Two
features with one name and different texts would do this. -/
theorem bindAggregate_snd (h : b.RecallsSubject s key x) (a : Aggregate)
    (same : key' = key → ofAggregate a = x) :
    (b.bindAggregate key' a).2.RecallsSubject s key x := by
  by_cases other : key = key'
  · subst other
    obtain rfl := same rfl
    obtain ⟨b', bound, h'⟩ := h.bindAggregate
    rw [bound]
    exact h'
  · exact h.bindAggregate_of_ne other a

/-- Binding a condition with another text leaves a key alone. The text is the key of a condition. -/
theorem bindCondition_of_ne (h : b.RecallsSubject s key x) {c : Condition} (other : key ≠ c.raw)
    (t : String) : (b.bindCondition c t).2.RecallsSubject s key x := by
  have kept := h.resolveOnce_of_ne other (candidates b.schema c.eventTypes) c.formula.attributes
  rw [Binder.bindCondition]
  split
  · exact h
  generalize b.resolveOnce c.raw (candidates b.schema c.eventTypes) c.formula.attributes = step
    at kept
  obtain ⟨r, b'⟩ := step
  cases r with
  | error e => exact kept
  | ok _ =>
    dsimp only
    split
    · exact kept
    have kept' := kept.typeOnce_of_ne other t fun types => c.formula.infer types []
    generalize b'.typeOnce c.raw t (fun types => c.formula.infer types []) = step' at kept'
    obtain ⟨r', b''⟩ := step'
    cases r' <;> exact kept'

/-- Binding a condition leaves a key alone unless the condition is another one under this key. -/
theorem bindCondition_snd (h : b.RecallsSubject s key x) (c : Condition) (t : String)
    (same : c.raw = key → ofCondition c = x) :
    (b.bindCondition c t).2.RecallsSubject s key x := by
  by_cases other : key = c.raw
  · subst other
    obtain rfl := same rfl
    obtain ⟨b', bound, h'⟩ := RecallsCondition.bindCondition h t
    rw [bound]
    exact h'
  · exact h.bindCondition_of_ne other t

end RecallsSubject

section Slots

/-- Bind aggregates under keys, up to the first fault. -/
def bindAll (b : Binder) : List (String × Aggregate) → Except CompileError Unit × Binder
  | [] => (.ok (), b)
  | (key, a) :: rest =>
    match b.bindAggregate key a with
    | (.ok (), b) => bindAll b rest
    | (.error e, b) => (.error e, b)

/-- Binding two lists of aggregates is binding the second after the first, unless that fails. -/
theorem bindAll_append (b : Binder) (l l' : List (String × Aggregate)) :
    b.bindAll (l ++ l') =
      match b.bindAll l with
      | (.ok (), b) => b.bindAll l'
      | (.error e, b) => (.error e, b) := by
  induction l generalizing b with
  | nil => rfl
  | cons p l ih =>
    obtain ⟨key, a⟩ := p
    rw [List.cons_append, bindAll, bindAll]
    generalize b.bindAggregate key a = step
    obtain ⟨r, b'⟩ := step
    cases r with
    | ok _ => exact ih b'
    | error e => rfl

/-- **A query is bound aggregate by aggregate,** feature after feature, each aggregate under the key
of its slot. -/
theorem bindQuery_eq (b : Binder) (q : FeatureSet) : b.bindQuery q = b.bindAll q.slots := by
  have slots (name : String) (n : Nat) (as : List Aggregate) (b : Binder) :
      b.bindSlots name n as =
        b.bindAll ((as.zipIdx n).map fun p => (slotKey name p.2, p.1)) := by
    induction as generalizing b n with
    | nil => rfl
    | cons a as ih =>
      rw [bindSlots, List.zipIdx_cons, List.map_cons, bindAll]
      generalize b.bindAggregate (slotKey name n) a = step
      obtain ⟨r, b'⟩ := step
      cases r with
      | ok _ => exact ih (n + 1) b'
      | error e => rfl
  rw [bindQuery, FeatureSet.slots]
  induction q.features generalizing b with
  | nil => rfl
  | cons f fs ih =>
    rw [bindFeatures, List.flatMap_cons, bindAll_append, slots]
    rw [Feature.slots]
    generalize b.bindAll (f.aggregates.zipIdx.map fun p => (slotKey f.name p.2, p.1)) = step
    obtain ⟨r, b'⟩ := step
    cases r with
    | ok _ => exact ih b'
    | error e => rfl

/-- Aggregates are bound as the schema has them, up to the first fault, if nothing wrong is recalled
of any and no two share a key. -/
theorem bindAll_fst {l : List (String × Aggregate)}
    (recalls : ∀ p ∈ l, b.RecallsSubject s p.1 (ofAggregate p.2))
    (apart : ∀ p ∈ l, ∀ q ∈ l, p.1 = q.1 → ofAggregate p.2 = ofAggregate q.2) :
    (b.bindAll l).1 = l.forM fun p => judgeAggregate s p.2 := by
  induction l generalizing b with
  | nil => rfl
  | cons p l ih =>
    obtain ⟨key, a⟩ := p
    have unrolled : (((key, a) :: l).forM fun p => judgeAggregate s p.2) =
        judgeAggregate s a >>= fun _ => l.forM fun p => judgeAggregate s p.2 := rfl
    obtain ⟨b', bound, -⟩ := RecallsSubject.bindAggregate (recalls _ List.mem_cons_self)
    have recalls' : ∀ q ∈ l, b'.RecallsSubject s q.1 (ofAggregate q.2) := by
      intro q hq
      have kept := (recalls q (List.mem_cons_of_mem _ hq)).bindAggregate_snd a fun same =>
        apart _ List.mem_cons_self q (List.mem_cons_of_mem _ hq) same
      rwa [bound] at kept
    rw [bindAll, bound, unrolled]
    cases judgeAggregate s a with
    | error e => rfl
    | ok _ =>
      exact ih recalls' fun p hp q hq =>
        apart p (List.mem_cons_of_mem _ hp) q (List.mem_cons_of_mem _ hq)

/-- Binding aggregates leaves a key alone unless one is bound under it as something else, by
induction on them and also if one of them fails. -/
theorem RecallsSubject.bindAll_snd (h : b.RecallsSubject s key x)
    {l : List (String × Aggregate)} (same : ∀ p ∈ l, p.1 = key → ofAggregate p.2 = x) :
    (b.bindAll l).2.RecallsSubject s key x := by
  induction l generalizing b with
  | nil => exact h
  | cons p l ih =>
    obtain ⟨key', a⟩ := p
    obtain ⟨here, rest⟩ := List.forall_mem_cons.1 same
    have kept := h.bindAggregate_snd a here
    rw [bindAll]
    generalize b.bindAggregate key' a = step at kept
    obtain ⟨r, b'⟩ := step
    cases r with
    | ok _ => exact ih kept rest
    | error e => exact kept

end Slots

/-- Something that a binder is asked for: a query, or a condition on events of a type. -/
inductive Request where
  | query (q : FeatureSet)
  | condition (c : Condition) (eventType : String)

/-- What a binder answers. -/
inductive Answer where
  | query (r : Except CompileError Unit)
  | condition (r : Except CompileError Bool)

/-- What a binder answers to a request, and what it remembers then. -/
def ask (b : Binder) : Request → Answer × Binder
  | .query q => ((b.bindQuery q).map Answer.query id)
  | .condition c t => ((b.bindCondition c t).map Answer.condition id)

/-- The binder after requests. -/
def after (b : Binder) (rs : List Request) : Binder := rs.foldl (fun b r => (b.ask r).2) b

namespace Request

/-- What is bound for a request, with the keys under which it is remembered. -/
def subjects : Request → List (String × Subject)
  | query q => q.slots.map fun p => (p.1, ofAggregate p.2)
  | condition c _ => [(c.raw, ofCondition c)]

/-- **Requests agree** if they mean the same thing by each key. -/
def AgreesWith (r r' : Request) : Prop :=
  ∀ p ∈ r.subjects, ∀ p' ∈ r'.subjects, p.1 = p'.1 → p.2 = p'.2

/-- A request that was compiled from texts. -/
def FromText : Request → Prop
  | query q => q.FromTexts
  | condition c _ => c.FromText

end Request

/-- What is remembered of a subject stays right with each request that means the same by its key.
This is the step of the induction on requests. -/
theorem RecallsSubject.ask_snd (h : b.RecallsSubject s key x) {r : Request}
    (same : ∀ p ∈ r.subjects, p.1 = key → p.2 = x) : (b.ask r).2.RecallsSubject s key x := by
  cases r with
  | query q =>
    have slots : ∀ p ∈ q.slots, p.1 = key → ofAggregate p.2 = x := fun p hp =>
      same (p.1, ofAggregate p.2) (List.mem_map_of_mem hp)
    show (b.bindQuery q).2.RecallsSubject s key x
    rw [bindQuery_eq]
    exact h.bindAll_snd slots
  | condition c t =>
    exact h.bindCondition_snd c t (same _ List.mem_cons_self)

/-- What is remembered of a subject stays right over requests that mean the same by its key. Other
keys they may use as they like. -/
theorem RecallsSubject.after (h : b.RecallsSubject s key x) {rs : List Request}
    (same : ∀ r ∈ rs, ∀ p ∈ r.subjects, p.1 = key → p.2 = x) :
    (b.after rs).RecallsSubject s key x := by
  induction rs generalizing b with
  | nil => exact h
  | cons r rs ih =>
    obtain ⟨here, rest⟩ := List.forall_mem_cons.1 same
    exact ih (h.ask_snd here) rest

/-- What the schema has on a request. -/
def verdict (s : Schema) : Request → Answer
  | .query q => .query (q.slots.forM fun p => judgeAggregate s p.2)
  | .condition c t => .condition (judge s c t)

/-- A request is answered as the schema has it, if it agrees with itself and nothing wrong is
recalled of what it binds. -/
theorem ask_fst {r : Request} (recalls : ∀ p ∈ r.subjects, b.RecallsSubject s p.1 p.2)
    (agrees : r.AgreesWith r) : (b.ask r).1 = verdict s r := by
  cases r with
  | query q =>
    have slots : ∀ p ∈ q.slots, (p.1, ofAggregate p.2) ∈ (Request.query q).subjects := fun p hp =>
      List.mem_map_of_mem hp
    have bound : (b.bindQuery q).1 = q.slots.forM fun p => judgeAggregate s p.2 := by
      rw [bindQuery_eq]
      exact bindAll_fst (fun p hp => recalls _ (slots p hp)) fun p hp p' hp' =>
        agrees _ (slots p hp) _ (slots p' hp')
    exact congrArg Answer.query bound
  | condition c t =>
    obtain ⟨b', bound, -⟩ := RecallsCondition.bindCondition (recalls _ List.mem_cons_self) t
    show Answer.condition (b.bindCondition c t).1 = _
    rw [bound]
    rfl

/-- **A request is answered as by a new binder** if it agrees with itself and with all requests
before it. -/
theorem ask_after (s : Schema) {before : List Request} {r : Request} (own : r.AgreesWith r)
    (agrees : ∀ r' ∈ before, r'.AgreesWith r) :
    (((ofSchema s).after before).ask r).1 = ((ofSchema s).ask r).1 := by
  have recalls (p : String × Subject) : (ofSchema s).RecallsSubject s p.1 p.2 :=
    recalls_ofSchema ..
  rw [ask_fst (fun p _ => recalls p) own]
  refine ask_fst (fun p hp => ?_) own
  exact (recalls p).after fun r' hr' p' hp' => agrees r' hr' p' hp' p hp

/-- **No condition has the key of a slot** for its text: the lexer accepts no text that ends in a
number sign and digits, and that is how the key of a slot ends. -/
theorem slotKey_ne_raw {c : Condition} (h : c.FromText) (name : String) (n : Nat) :
    slotKey name n ≠ c.raw := by
  obtain ⟨text, e, parsed, lowered⟩ := Condition.exists_of_fromText h
  obtain ⟨ls, lexed, -⟩ := bind_eq_ok_iff.1 parsed
  have tokens : tokenize text = .ok ls := by
    unfold lexemes at lexed
    split at lexed
    · cases lexed
    · exact lexed
  obtain ⟨⟨f, slots⟩, -, made⟩ := bind_eq_ok_iff.1 lowered
  cases made
  intro same
  have chars : (slotKey name n).toList = Text.trimChars text.toList := by
    rw [same, Text.trim, String.toList_ofList]
  rw [toList_slotKey] at chars
  exact trimChars_ne_of_tokenize tokens _ (fun _ => Number.isDigit_of_mem_toDigits) chars.symm

namespace Request

/-- Two queries mean the same by the names that they share: features of different texts that have
one name, which only an alias can give them, have the same aggregates as far as both have any. -/
def NamesAgree : Request → Request → Prop
  | query q, query q' => ∀ f ∈ q.features, ∀ g ∈ q'.features, f.name = g.name → f.raw ≠ g.raw →
      ∀ (n : Nat) a a', f.aggregates[n]? = some a → g.aggregates[n]? = some a' → a = a'
  | _, _ => True

/-- What a query binds are the aggregates of its features, each under the key of its slot. -/
theorem exists_of_mem_slots {q : FeatureSet} {p : String × Subject}
    (h : p ∈ (query q).subjects) :
    ∃ f ∈ q.features, ∃ n a, f.aggregates[n]? = some a ∧ p = (slotKey f.name n, ofAggregate a) := by
  obtain ⟨⟨key, a⟩, slot, rfl⟩ := List.mem_map.1 h
  obtain ⟨f, hf, slot⟩ := List.mem_flatMap.1 slot
  obtain ⟨⟨_, n⟩, indexed, same⟩ := List.mem_map.1 slot
  cases same
  exact ⟨f, hf, n, _, List.mem_zipIdx_iff_getElem?.1 indexed, rfl⟩

/-- **Requests from texts agree** if they mean the same by the names that they share. A key of both
is that of one slot of features with one name, or the text of one condition, and never both. -/
theorem FromText.agreesWith {r r' : Request} (h : r.FromText) (h' : r'.FromText)
    (names : r.NamesAgree r') : r.AgreesWith r' := by
  intro p hp p' hp' same
  cases r with
  | query q =>
    obtain ⟨f, hf, n, a, ha, rfl⟩ := exists_of_mem_slots hp
    cases r' with
    | query q' =>
      obtain ⟨g, hg, m, a', ha', rfl⟩ := exists_of_mem_slots hp'
      obtain ⟨name, rfl⟩ := slotKey_inj.1 same
      have aggregates : a = a' := by
        by_cases raw : f.raw = g.raw
        · obtain rfl : f = g := Feature.eq_of_raw_eq (h.fromText f hf) (h'.fromText g hg) raw
          exact Option.some.inj (ha.symm.trans ha')
        · exact names f hf g hg name raw n a a' ha ha'
      rw [aggregates]
    | condition c t =>
      obtain rfl := List.mem_singleton.1 hp'
      exact absurd same (slotKey_ne_raw h' f.name n)
  | condition c t =>
    obtain rfl := List.mem_singleton.1 hp
    cases r' with
    | query q' =>
      obtain ⟨g, hg, m, a', ha', rfl⟩ := exists_of_mem_slots hp'
      exact absurd same.symm (slotKey_ne_raw h g.name m)
    | condition c' t' =>
      obtain rfl := List.mem_singleton.1 hp'
      rw [Condition.eq_of_raw_eq h h' same]

/-- A request from texts means one thing by each of its names. Keys of slots tell features and slots
apart, and no text of a condition is such a key. -/
theorem FromText.namesAgree_self {r : Request} (h : r.FromText) : r.NamesAgree r := by
  cases r with
  | query q =>
    intro f hf g hg name raw
    exact absurd (congrArg Feature.raw (h.eq_of_name_eq hf hg name)) raw
  | condition c t => trivial

end Request

/-- **What a binder remembers does not show** to requests from texts. Whatever was asked before, a
query or a condition is answered as by a new binder, unless a feature of the query has the name of
a feature of an earlier query by an alias, and another aggregate at the same place. -/
theorem ask_after_texts (s : Schema) {before : List Request} {r : Request}
    (texts : ∀ r' ∈ r :: before, r'.FromText) (names : ∀ r' ∈ before, r'.NamesAgree r) :
    (((ofSchema s).after before).ask r).1 = ((ofSchema s).ask r).1 := by
  obtain ⟨text, textsBefore⟩ := List.forall_mem_cons.1 texts
  refine ask_after s (text.agreesWith text text.namesAgree_self) fun r' hr' => ?_
  exact (textsBefore r' hr').agreesWith text (names r' hr')

section Counts

/-- The query that counts an attribute under a name that says nothing of it. -/
def countAs (raw attr : String) : FeatureSet where
  features :=
    [{ name := "n"
       raw := raw
       formula := .slot 0
       aggregates := [⟨.count, .attr attr, .past, none, none, none, none⟩] }]

/-- The schema of visits with a number. -/
def visitSchema : Schema := Schema.declare .empty "visit" "v" .int

/-- A query written with other blanks takes up the name of one that was bound before, and a
condition was bound in between: it is answered as by a new binder. -/
theorem ask_after_counts :
    let c : Condition := ⟨"v > 1", .binary (.attr "v") (.compare .gt) (.literal (.int 1)), none⟩
    let before : List Request :=
      [.query (countAs "count(v) over past as n" "v"), .condition c "visit"]
    let r : Request := .query (countAs "count( v ) over past as n" "v")
    (∀ r' ∈ r :: before, r'.FromText) ∧ (∀ r' ∈ before, r'.NamesAgree r) ∧
      (((ofSchema visitSchema).after before).ask r).1 = ((ofSchema visitSchema).ask r).1 := by
  intro c before r
  have text (raw : String) (compiled : FeatureSet.compile true [raw] = .ok (countAs raw "v")) :
      (Request.query (countAs raw "v")).FromText := ⟨true, [raw], compiled⟩
  have texts : ∀ r' ∈ r :: before, r'.FromText := by
    have condition : (Request.condition c "visit").FromText := ⟨true, "v > 1", rfl⟩
    simpa [before] using ⟨text "count( v ) over past as n" rfl,
      text "count(v) over past as n" rfl, condition⟩
  have names : ∀ r' ∈ before, r'.NamesAgree r := by
    have query : (Request.query (countAs "count(v) over past as n" "v")).NamesAgree r := by
      intro f hf g hg _ _ n a a' ha ha'
      obtain rfl := List.mem_singleton.1 hf
      obtain rfl := List.mem_singleton.1 hg
      exact Option.some.inj (ha.symm.trans ha')
    simpa [before] using ⟨query, trivial⟩
  exact ⟨texts, names, ask_after_texts visitSchema texts names⟩

/-- **An alias that stands for something else** in a later query hides that its attribute is not
known: the binder remembers the name for the query before. -/
theorem ask_ne_of_renamed :
    let first := countAs "count(v) over past as n" "v"
    let second := countAs "count(w) over past as n" "w"
    FeatureSet.compile true ["count(v) over past as n"] = .ok first ∧
      FeatureSet.compile true ["count(w) over past as n"] = .ok second ∧
        (((ofSchema visitSchema).after [.query first]).ask (.query second)).1 =
            .query (.ok ()) ∧
          ((ofSchema visitSchema).ask (.query second)).1 =
            .query (.error (.unknownAttribute "w" ["visit"])) :=
  ⟨rfl, rfl, rfl, rfl⟩

end Counts

end Binder
end Hindsight
