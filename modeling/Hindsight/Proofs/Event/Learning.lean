import Hindsight.Event.Schema
import Hindsight.Proofs.Dict
import Hindsight.Proofs.Except

/-!
# What a schema learns

A value of an attribute is admitted if its kind meets the kind on record, and leaves a kind on
record that covers both (`Schema.kindAfter`, `Schema.covers_of_kindAfter`). Kinds meet like the
elements of a partial semilattice (`ValueKind.unify_eq_some`, `ValueKind.unify_right_comm`), so
values are admitted in any order with the same result (`Schema.foldlM_kindAfter_of_perm`).

An event is observed just if each of its attributes is admitted (`Schema.learns_of_observe`,
`Schema.exists_observe`). What a list of events leaves on record is therefore decided attribute by
attribute, by the values that the events of one type give it (`Schema.foldlM_observe_eq_ok_iff`),
and the order in which they come does not matter (`Schema.LearnsAll.of_perm`).
-/

namespace Hindsight

namespace ValueKind

/-- **The kind that two kinds meet in** covers both. It is the recorded one, or integers become
floats. -/
theorem unify_eq_some {r k l : ValueKind} (h : r.unify k = some l) :
    l.unify k = some l ∧ l.unify r = some l ∧ (l = r ∨ r = int ∧ l = float) := by
  cases r <;> cases k <;> first
    | cases h; exact ⟨rfl, rfl, .inl rfl⟩
    | cases h; exact ⟨rfl, rfl, .inr ⟨rfl, rfl⟩⟩
    | cases h

/-- A kind that is covered stays covered when the recorded kind meets a further one, for it only
widens. -/
theorem unify_of_covers {r k l m : ValueKind} (covers : r.unify k = some r)
    (h : r.unify m = some l) : l.unify k = some l := by
  rcases (unify_eq_some h).2.2 with rfl | ⟨rfl, rfl⟩
  · exact covers
  · cases k <;> first | rfl | cases covers

/-- Kinds meet a recorded kind in either order, or are refused in either order. -/
theorem unify_right_comm (r k l : ValueKind) :
    ((r.unify k).bind fun s => s.unify l) = (r.unify l).bind fun s => s.unify k := by
  cases r <;> cases k <;> cases l <;> rfl

end ValueKind

namespace Event

variable {e : Event} {name : String}

/-- An event has the value of each entry of its attributes; with ordered keys there is only one
entry of a name. -/
theorem attr_of_mem (ordered : e.attributes.Ordered) {v : Value}
    (h : (name, v) ∈ e.attributes.entries) : e.attr name = v := by
  rw [attr, (Dict.mem_entries_iff ordered).1 h]
  rfl

/-- An attribute without an entry reads as null, and null is admitted everywhere. -/
theorem attr_eq_null (ordered : e.attributes.Ordered)
    (h : ∀ v, (name, v) ∉ e.attributes.entries) : e.attr name = .null := by
  rw [attr]
  cases found : e.attributes.get? name with
  | none => rfl
  | some v => exact absurd ((Dict.mem_entries_iff ordered).2 found) (h v)

end Event

namespace Schema

section Values

/-- **The kind on record after a value,** or nothing if the value is refused. -/
def kindAfter (recorded : Option ValueKind) (v : Value) : Option (Option ValueKind) :=
  match ValueKind.of? v with
  | none => some recorded
  | some k =>
    if (nested? v).isSome then none
    else
      match recorded with
      | none => some (some k)
      | some r => (r.unify k).map some

/-- An attribute is checked for what it leaves on record. How a fault is reported is left out
here. -/
theorem toOption_checkAttribute (recorded : Option ValueKind) (eventType name : String)
    (v : Value) : (checkAttribute recorded eventType name v).toOption.map (·.or recorded) =
      kindAfter recorded v := by
  rw [checkAttribute, kindAfter]
  cases ValueKind.of? v with
  | none => rfl
  | some k =>
    dsimp only
    cases nested? v with
    | some found => rfl
    | none =>
      cases recorded with
      | none => rfl
      | some r =>
        dsimp only
        cases r.unify k with
        | none => rfl
        | some l =>
          by_cases same : l = r
          · simp [Except.toOption, same]
          · simp [Except.toOption, same]

/-- A value that is admitted is no nested list, and its kind is covered by what it leaves on
record. -/
theorem covers_of_kindAfter {recorded after : Option ValueKind} {v : Value}
    (h : kindAfter recorded v = some after) {k : ValueKind} (kind : ValueKind.of? v = some k) :
    nested? v = none ∧ ∃ r, after = some r ∧ r.unify k = some r := by
  rw [kindAfter, kind] at h
  dsimp only at h
  split at h
  · cases h
  · next flat =>
    refine ⟨Option.not_isSome_iff_eq_none.1 flat, ?_⟩
    cases recorded with
    | none =>
      cases h
      exact ⟨k, rfl, k.unify_self⟩
    | some r =>
      obtain ⟨l, unified, rfl⟩ := Option.map_eq_some_iff.1 h
      exact ⟨l, rfl, (ValueKind.unify_eq_some unified).1⟩

/-- What is on record meets the kind of a value that is admitted, or stays as it is. Both are told
by one kind, which for null is the recorded one. -/
theorem meets_of_kindAfter {recorded : ValueKind} {after : Option ValueKind} {v : Value}
    (h : kindAfter (some recorded) v = some after) :
    ∃ k l, recorded.unify k = some l ∧ after = some l := by
  rw [kindAfter] at h
  cases kind : ValueKind.of? v with
  | none =>
    rw [kind] at h
    exact ⟨recorded, recorded, recorded.unify_self, (Option.some.inj h).symm⟩
  | some k =>
    rw [kind] at h
    dsimp only at h
    split at h
    · cases h
    · obtain ⟨l, unified, rfl⟩ := Option.map_eq_some_iff.1 h
      exact ⟨k, l, unified, rfl⟩

/-- **Two values of one attribute** are admitted in either order, and leave the same on record. This
is where an integer before a float and after it are seen to come to the same. -/
theorem kindAfter_comm (recorded : Option ValueKind) (v w : Value) :
    ((kindAfter recorded v).bind fun r => kindAfter r w) =
      (kindAfter recorded w).bind fun r => kindAfter r v := by
  unfold kindAfter
  cases ValueKind.of? v with
  | none => simp only [Option.bind_some, Option.bind_fun_some]
  | some k =>
    cases ValueKind.of? w with
    | none => simp only [Option.bind_some, Option.bind_fun_some]
    | some l =>
      dsimp only
      by_cases hv : (nested? v).isSome = true
      · simp only [if_pos hv, Option.bind_none, Option.bind_fun_none]
      · by_cases hw : (nested? w).isSome = true
        · simp only [if_pos hw, Option.bind_none, Option.bind_fun_none]
        · simp only [if_neg hv, if_neg hw]
          cases recorded with
          | none => exact congrArg (Option.map some) (ValueKind.unify_comm k l)
          | some r =>
            have commute := congrArg (Option.map some) (ValueKind.unify_right_comm r k l)
            rw [Option.map_bind, Option.map_bind] at commute
            rw [Option.bind_map, Option.bind_map]
            exact commute

/-- **Values are admitted in any order,** and leave the same on record. By induction on the
permutation, from the case of two. -/
theorem foldlM_kindAfter_of_perm {vs ws : List Value} (h : vs.Perm ws)
    (recorded : Option ValueKind) :
    vs.foldlM kindAfter recorded = ws.foldlM kindAfter recorded := by
  induction h generalizing recorded with
  | nil => rfl
  | cons v _ ih =>
    rw [List.foldlM_cons, List.foldlM_cons]
    exact congrArg _ (funext ih)
  | swap v w vs =>
    simp only [List.foldlM_cons, Option.bind_eq_bind]
    rw [← Option.bind_assoc, ← Option.bind_assoc, kindAfter_comm]
  | trans _ _ ih ih' => exact (ih recorded).trans (ih' recorded)

end Values

/-- A schema of some events and the schemas of its types are in order of their keys. -/
structure WellOrdered (s : Schema) : Prop where
  types : Dict.Ordered s
  attributes (type : String) (a : EventSchema) : s.get? type = some a → Dict.Ordered a

namespace WellOrdered

variable {s t : Schema}

/-- A schema that knows nothing has no keys out of order. -/
theorem empty : WellOrdered .empty where
  types := Dict.ordered_empty
  attributes type a h := by cases h

/-- Changing the schema of one type in order keeps the order, as long as the change itself does. -/
theorem update (h : s.WellOrdered) (eventType : String) {f : EventSchema → EventSchema}
    (keeps : ∀ a, Dict.Ordered a → Dict.Ordered (f a)) :
    WellOrdered (Dict.update s eventType .empty f) where
  types := Dict.ordered_update h.types eventType .empty f
  attributes type a found := by
    by_cases same : type = eventType
    · rw [same, Dict.get?_update_self] at found
      obtain rfl := Option.some.inj found
      refine keeps _ ?_
      cases known : Dict.get? s eventType with
      | none => exact Dict.ordered_empty
      | some a => exact h.attributes eventType a known
    · rw [Dict.get?_update_of_ne same] at found
      exact h.attributes type a found

/-- Declaring an attribute writes its kind, which keeps the order of the keys. -/
theorem declare (h : s.WellOrdered) (eventType attr : String) (k : ValueKind) :
    (s.declare eventType attr k).WellOrdered :=
  h.update eventType fun _ ha => Dict.ordered_insert ha attr k

/-- Recording kinds writes them one by one, which keeps the order of the keys. -/
theorem record (h : s.WellOrdered) (eventType : String) (updates : List (String × ValueKind)) :
    (s.record eventType updates).WellOrdered :=
  h.update eventType fun _ ha => Dict.ordered_foldl_insert ha updates

/-- **Schemas are the same** if they know the same types and have the same kinds on record. Their
keys are in order, so there is nothing else in which they could differ. -/
theorem ext (hs : s.WellOrdered) (ht : t.WellOrdered)
    (known : ∀ type, s.contains type = true ↔ t.contains type = true)
    (kinds : ∀ type name, s.kind? type name = t.kind? type name) : s = t := by
  refine hs.types.ext ht.types fun type => ?_
  have here := known type
  have same := kinds type
  unfold Schema.kind? at same
  rw [Dict.contains, Dict.contains] at here
  cases hst : Dict.get? s type with
  | none =>
    rw [hst] at here
    exact (Option.not_isSome_iff_eq_none.1 fun h => Bool.false_ne_true (here.2 h)).symm
  | some a =>
    rw [hst] at here same
    obtain ⟨b, htt⟩ := Option.isSome_iff_exists.1 (here.1 rfl)
    rw [htt] at same ⊢
    rw [(hs.attributes type a hst).ext (ht.attributes type b htt) same]

end WellOrdered

section Observing

variable {s t : Schema} {e : Event}

/-- What an attribute of an event changes in a schema. -/
def verdict (s : Schema) (e : Event) (a : String × Value) : Except EventError (Option ValueKind) :=
  checkAttribute (s.kind? e.type a.1) e.type a.1 a.2

/-- The kinds that an event changes in a schema. -/
def changes (s : Schema) (e : Event) : List (String × ValueKind) :=
  e.attributes.entries.filterMap fun a => (s.verdict e a).toOption.join.map fun k => (a.1, k)

/-- What an event changes are the kinds of those attributes that are admitted with a new kind. The
others stay as they are. -/
theorem mem_changes {name : String} {k : ValueKind} :
    (name, k) ∈ s.changes e ↔
      ∃ v, (name, v) ∈ e.attributes.entries ∧ s.verdict e (name, v) = .ok (some k) := by
  rw [changes, List.mem_filterMap]
  constructor
  · rintro ⟨⟨n, v⟩, member, changed⟩
    obtain ⟨l, found, same⟩ := Option.map_eq_some_iff.1 changed
    cases same
    refine ⟨v, member, ?_⟩
    cases result : s.verdict e (n, v) with
    | error fault => rw [result] at found; cases found
    | ok u => rw [result] at found; exact congrArg Except.ok found
  · rintro ⟨v, member, result⟩
    exact ⟨(name, v), member, by rw [result]; rfl⟩

/-- **An event is observed** just if no attribute is refused, and then its changes are recorded.
Each attribute is checked against the schema from before the event. -/
theorem observe_eq_ok_iff : s.observe e = .ok t ↔
    (∀ a ∈ e.attributes.entries, ∃ u, s.verdict e a = .ok u) ∧
      t = s.record e.type (s.changes e) := by
  by_cases taken : ∀ a ∈ e.attributes.entries, ∃ u, s.verdict e a = .ok u
  · have checked : s.check e = .ok (s.changes e) := by
      have each : ∀ a ∈ e.attributes.entries,
          (s.verdict e a >>= fun u => pure (u.map fun k => (a.1, k))) =
            Except.ok ((s.verdict e a).toOption.join.map fun k => (a.1, k)) := by
        intro a ha
        obtain ⟨u, hu⟩ := taken a ha
        rw [hu]
        rfl
      have all := mapM_eq_ok_map each
      unfold verdict at all
      rw [check, all, ok_bind, List.filterMap_map]
      rfl
    rw [observe, checked, ok_bind]
    constructor
    · intro same
      exact ⟨taken, (Except.ok.inj same).symm⟩
    · rintro ⟨-, rfl⟩
      rfl
  · refine iff_of_false (fun observed => ?_) fun h => taken h.1
    obtain ⟨updates, checked, -⟩ := bind_eq_ok_iff.1 observed
    obtain ⟨found, each, -⟩ := bind_eq_ok_iff.1 checked
    refine taken fun a ha => ?_
    refine not_fails_iff.1 fun fails => not_fails_of_eq_ok each (fails_mapM_iff.2 ⟨a, ha, ?_⟩)
    exact fails_bind_iff.2 (.inl fails)

/-- A type is known after an event if it was before, or is the type of the event, also if nothing is
recorded of it. -/
theorem contains_record (eventType type : String) (updates : List (String × ValueKind)) :
    (s.record eventType updates).contains type = true ↔
      s.contains type = true ∨ type = eventType :=
  Dict.contains_update s eventType type .empty _

/-- Recording kinds for one type leaves those of all other types. -/
theorem kind?_record_of_ne {eventType type : String} (differ : type ≠ eventType)
    (updates : List (String × ValueKind)) (name : String) :
    (s.record eventType updates).kind? type name = s.kind? type name := by
  rw [kind?, record, Dict.get?_update_of_ne differ, kind?]

/-- What is on record of a type is what an update of it says, or what was before where none does. -/
theorem kind?_record_self (eventType name : String) (updates : List (String × ValueKind)) :
    (∃ k, (name, k) ∈ updates ∧ (s.record eventType updates).kind? eventType name = some k) ∨
      (∀ k, (name, k) ∉ updates) ∧
        (s.record eventType updates).kind? eventType name = s.kind? eventType name := by
  have before : ((s.get? eventType).getD .empty).get? name = s.kind? eventType name := by
    rw [kind?]
    cases s.get? eventType with
    | none => rfl
    | some a => rfl
  have after : (s.record eventType updates).kind? eventType name =
      (updates.foldl (fun a u => a.insert u.1 u.2) ((s.get? eventType).getD .empty)).get? name := by
    rw [kind?, record, Dict.get?_update_self, Option.bind_some]
  rw [after, ← before]
  exact Dict.get?_foldl_insert _ updates name

/-- **A schema grows into another** if nothing that is on record is lost or changed, except that
integers may become floats. -/
structure GrowsInto (s t : Schema) : Prop where
  known (type : String) : s.contains type = true → t.contains type = true
  kept (type name : String) (k : ValueKind) : s.kind? type name = some k →
    t.kind? type name = some k ∨ k = .int ∧ t.kind? type name = some .float

/-- A schema grows into itself, as it does when an event brings nothing new. -/
theorem GrowsInto.refl (s : Schema) : s.GrowsInto s := ⟨fun _ h => h, fun _ _ _ h => .inl h⟩

/-- Growth goes on: what is known stays known, and a kind stays what it is or turns from integers to
floats, after which it stays. -/
theorem GrowsInto.trans {u : Schema} (first : s.GrowsInto t) (next : t.GrowsInto u) :
    s.GrowsInto u where
  known type h := next.known type (first.known type h)
  kept type name k h := by
    rcases first.kept type name k h with kept | ⟨rfl, widened⟩
    · exact next.kept type name k kept
    · rcases next.kept type name .float widened with kept | ⟨int, -⟩
      · exact .inr ⟨rfl, kept⟩
      · cases int

/-- What an attribute leaves on record where it is not refused: its new kind, or the one from
before. -/
theorem kindAfter_of_verdict {a : String × Value} {u : Option ValueKind}
    (h : s.verdict e a = .ok u) :
    kindAfter (s.kind? e.type a.1) a.2 = some (u.or (s.kind? e.type a.1)) := by
  rw [← toOption_checkAttribute _ e.type a.1, ← verdict, h]
  rfl

/-- **What an event brings** makes the schema grow. No type is forgotten, and a kind changes only
from integers to floats. -/
theorem growsInto_of_observe (h : s.observe e = .ok t) : s.GrowsInto t := by
  obtain ⟨-, rfl⟩ := observe_eq_ok_iff.1 h
  refine ⟨fun type known => (contains_record ..).2 (.inl known), fun type name k held => ?_⟩
  by_cases own : type = e.type
  · subst own
    have after := kind?_record_self (s := s) e.type name (s.changes e)
    rcases after with ⟨l, changed, after⟩ | ⟨-, after⟩
    · obtain ⟨v, -, result⟩ := mem_changes.1 changed
      have admitted := kindAfter_of_verdict result
      rw [held] at admitted
      obtain ⟨m, r, unified, same⟩ := meets_of_kindAfter admitted
      rw [after.trans same]
      rcases (ValueKind.unify_eq_some unified).2.2 with rfl | ⟨rfl, rfl⟩
      · exact .inl rfl
      · exact .inr ⟨rfl, rfl⟩
    · exact .inl (after.trans held)
  · exact .inl ((kind?_record_of_ne own _ _).trans held)

/-- **What an event leaves on record,** attribute by attribute, if it repeats none. -/
structure Learns (s : Schema) (e : Event) (t : Schema) : Prop where
  own (name : String) : kindAfter (s.kind? e.type name) (e.attr name) = some (t.kind? e.type name)
  other (type name : String) : type ≠ e.type → t.kind? type name = s.kind? type name
  known (type : String) : t.contains type = true ↔ s.contains type = true ∨ type = e.type

/-- **A schema that observes an event learns what the event has to teach**: the type becomes known,
and each of its attributes leaves the kind that its value asks for. -/
theorem learns_of_observe (ordered : e.attributes.Ordered) (h : s.observe e = .ok t) :
    s.Learns e t := by
  obtain ⟨taken, rfl⟩ := observe_eq_ok_iff.1 h
  refine ⟨fun name => ?_, fun type name differ => kind?_record_of_ne differ _ _,
    fun type => contains_record ..⟩
  have after := kind?_record_self (s := s) e.type name (s.changes e)
  by_cases present : ∃ v, (name, v) ∈ e.attributes.entries
  · obtain ⟨v, member⟩ := present
    obtain ⟨u, result⟩ := taken _ member
    rw [Event.attr_of_mem ordered member, kindAfter_of_verdict result]
    rcases after with ⟨l, changed, after⟩ | ⟨unchanged, after⟩
    · obtain ⟨w, member', result'⟩ := mem_changes.1 changed
      have value := Event.attr_of_mem ordered member
      have value' := Event.attr_of_mem ordered member'
      obtain rfl : v = w := value.symm.trans value'
      rw [result] at result'
      rw [after, Except.ok.inj result']
      rfl
    · rw [after]
      cases u with
      | none => rfl
      | some k => exact absurd (mem_changes.2 ⟨v, member, result⟩) (unchanged k)
  · rw [Event.attr_eq_null ordered fun v member => present ⟨v, member⟩]
    rcases after with ⟨l, changed, -⟩ | ⟨-, after⟩
    · obtain ⟨w, member, -⟩ := mem_changes.1 changed
      exact absurd ⟨w, member⟩ present
    · rw [after]
      rfl

/-- An event of which every attribute is admitted is observed. An attribute that it does not have
reads as null. -/
theorem exists_observe (ordered : e.attributes.Ordered)
    (admitted : ∀ name, ∃ r, kindAfter (s.kind? e.type name) (e.attr name) = some r) :
    ∃ t, s.observe e = .ok t := by
  refine ⟨_, observe_eq_ok_iff.2 ⟨fun a ha => ?_, rfl⟩⟩
  obtain ⟨r, here⟩ := admitted a.1
  rw [Event.attr_of_mem ordered ha, ← toOption_checkAttribute _ e.type a.1, ← verdict] at here
  cases result : s.verdict e a with
  | ok u => exact ⟨u, rfl⟩
  | error fault => rw [result] at here; cases here

end Observing

section Histories

variable {s t u : Schema} {e : Event} {es fs : List Event}

/-- The values that the events of a type give an attribute. -/
def history (es : List Event) (type name : String) : List Value :=
  (es.filter fun e => e.type == type).map fun e => e.attr name

/-- **What events leave on record:** for each attribute what its values do, one after the other. -/
structure LearnsAll (s : Schema) (es : List Event) (t : Schema) : Prop where
  kinds (type name : String) :
    (history es type name).foldlM kindAfter (s.kind? type name) = some (t.kind? type name)
  known (type : String) :
    t.contains type = true ↔ s.contains type = true ∨ ∃ e ∈ es, e.type = type

/-- An event of another type does not enter the history of an attribute. -/
theorem history_cons_of_ne {type : String} (differ : type ≠ e.type) (name : String) :
    history (e :: es) type name = history es type name := by
  rw [history, List.filter_cons_of_neg (by simpa using differ.symm), history]

/-- An event of the type enters the history of each attribute, with null for one that it does not
have. -/
theorem history_cons_self (e : Event) (es : List Event) (name : String) :
    history (e :: es) e.type name = e.attr name :: history es e.type name := by
  rw [history, List.filter_cons_of_pos (by simp), List.map_cons, history]

/-- What events leave on record is what the later ones do after the first. This is the step of an
induction on events. -/
theorem Learns.learnsAll_iff (first : s.Learns e u) :
    s.LearnsAll (e :: es) t ↔ u.LearnsAll es t := by
  have kinds (type name : String) :
      (history (e :: es) type name).foldlM kindAfter (s.kind? type name) =
        (history es type name).foldlM kindAfter (u.kind? type name) := by
    by_cases own : type = e.type
    · subst own
      rw [history_cons_self, List.foldlM_cons, first.own name]
      rfl
    · rw [history_cons_of_ne own, first.other type name own]
  have known (type : String) : (s.contains type = true ∨ ∃ f ∈ e :: es, f.type = type) ↔
      u.contains type = true ∨ ∃ f ∈ es, f.type = type := by
    rw [first.known, List.exists_mem_cons_iff, or_assoc, eq_comm (a := type)]
  constructor
  · intro h
    exact ⟨fun type name => (kinds type name).symm.trans (h.kinds type name),
      fun type => (h.known type).trans (known type)⟩
  · intro h
    exact ⟨fun type name => (kinds type name).trans (h.kinds type name),
      fun type => (h.known type).trans (known type).symm⟩

/-- **Events are observed** just if the values of each attribute are admitted, and this is all that
they leave on record. -/
theorem foldlM_observe_eq_ok_iff (hs : s.WellOrdered)
    (ordered : ∀ e ∈ es, e.attributes.Ordered) :
    es.foldlM observe s = .ok t ↔ t.WellOrdered ∧ s.LearnsAll es t := by
  induction es generalizing s with
  | nil =>
    constructor
    · intro same
      obtain rfl := Except.ok.inj same
      exact ⟨hs, fun _ _ => rfl, fun type => by simp⟩
    · rintro ⟨ht, learns⟩
      refine congrArg Except.ok (hs.ext ht (fun type => ?_) fun type name => ?_)
      · simpa using (learns.known type).symm
      · exact Option.some.inj (learns.kinds type name)
  | cons e es ih =>
    obtain ⟨here, rest⟩ := List.forall_mem_cons.1 ordered
    have step {u : Schema} (observed : s.observe e = .ok u) :
        es.foldlM observe u = .ok t ↔ t.WellOrdered ∧ s.LearnsAll (e :: es) t := by
      have after : u.WellOrdered := (observe_eq_ok_iff.1 observed).2 ▸ hs.record _ _
      rw [ih after rest, (learns_of_observe here observed).learnsAll_iff]
    rw [List.foldlM_cons, bind_eq_ok_iff]
    constructor
    · rintro ⟨u, observed, later⟩
      exact (step observed).1 later
    · intro h
      have admitted : ∀ name, ∃ r, kindAfter (s.kind? e.type name) (e.attr name) = some r := by
        intro name
        have values := h.2.kinds e.type name
        rw [history_cons_self, List.foldlM_cons] at values
        obtain ⟨r, first, -⟩ := Option.bind_eq_some_iff.1 values
        exact ⟨r, first⟩
      obtain ⟨u, observed⟩ := exists_observe here admitted
      exact ⟨u, observed, (step observed).2 h⟩

/-- **The order of events** does not matter for what they leave on record. The history of each
attribute is permuted, and that of values does not matter. -/
theorem LearnsAll.of_perm (perm : es.Perm fs) (h : s.LearnsAll es t) : s.LearnsAll fs t where
  kinds type name := by
    have same : (history es type name).Perm (history fs type name) :=
      (perm.filter _).map _
    rw [← foldlM_kindAfter_of_perm same]
    exact h.kinds type name
  known type := (h.known type).trans (or_congr_right ⟨
    fun ⟨e, he, own⟩ => ⟨e, perm.mem_iff.1 he, own⟩,
    fun ⟨e, he, own⟩ => ⟨e, perm.mem_iff.2 he, own⟩⟩)

end Histories

end Schema
end Hindsight
