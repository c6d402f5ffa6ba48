import Hindsight.Dict
import Mathlib.Data.List.Induction
import Mathlib.Data.List.Sort

/-!
# Laws of dictionaries

What is bound after a key is bound or forgotten, whatever the order of the entries. Of entries with
one key the last stays (`Dict.get?_ofList`). In a dictionary whose keys increase the entries are
exactly what is bound (`Dict.mem_entries_iff`), so dictionaries that bind the same are the same
(`Dict.Ordered.ext`), and its entries make it again (`Dict.ofList_entries`). The names of a name set
increase as well (`NameSet.pairwise_insertName`), and what is in a set that is made of others is
told by those.
-/

namespace Hindsight
namespace Dict

universe u v w

variable {κ : Type u} {α : Type v} {β : Type w} [Ord κ]

/-- A key is bound to what becomes of what it was bound to. -/
theorem get?_map (f : α → β) (d : Dict κ α) (k : κ) : (d.map f).get? k = (d.get? k).map f := by
  show findEntry k (d.entries.map fun e => (e.1, f e.2)) = (findEntry k d.entries).map f
  induction d.entries with
  | nil => rfl
  | cons e rest ih =>
    rw [List.map_cons, findEntry, findEntry]
    cases compare k e.1 with
    | eq => rfl
    | lt => exact ih
    | gt => exact ih

/-- Changing all entries after one was written is writing the changed one into the changed
entries. -/
theorem map_insert (f : α → β) (d : Dict κ α) (k : κ) (a : α) :
    (d.insert k a).map f = (d.map f).insert k (f a) := by
  suffices entries : (insertEntry k a d.entries).map (fun e => (e.1, f e.2)) =
      insertEntry k (f a) (d.entries.map fun e => (e.1, f e.2)) from congrArg Dict.mk entries
  induction d.entries with
  | nil => rfl
  | cons e rest ih =>
    rw [List.map_cons, insertEntry, insertEntry]
    cases compare k e.1 with
    | lt => rfl
    | eq => rfl
    | gt => exact congrArg ((e.1, f e.2) :: ·) ih

/-- A dictionary of entries is made from the left, so the last entry is the last one written.
Inductions on entries go from the end for this. -/
theorem ofList_concat (es : List (κ × α)) (e : κ × α) :
    ofList (es ++ [e]) = (ofList es).insert e.1 e.2 := by
  rw [ofList, List.foldl_concat]
  rfl

/-- Entries may be changed before they are written or afterwards, as long as the keys are left. -/
theorem map_ofList (f : α → β) (es : List (κ × α)) :
    (ofList es).map f = ofList (es.map fun e => (e.1, f e.2)) := by
  induction es using List.reverseRecOn with
  | nil => rfl
  | append_singleton es e ih =>
    rw [List.map_append, List.map_singleton, ofList_concat, ofList_concat, map_insert, ih]

/-- The keys increase from entry to entry. -/
def Ordered (d : Dict κ α) : Prop := d.entries.Pairwise fun x y => compare x.1 y.1 = .lt

instance (d : Dict κ α) : Decidable d.Ordered :=
  inferInstanceAs (Decidable (d.entries.Pairwise _))

/-- The empty dictionary has no two keys that could be out of order. -/
theorem ordered_empty : (empty : Dict κ α).Ordered := List.Pairwise.nil

/-- Changing what keys are bound to leaves the keys as they are, in their order. -/
theorem Ordered.map {d : Dict κ α} (h : d.Ordered) (f : α → β) : (d.map f).Ordered :=
  List.pairwise_map.2 h

/-- Forgetting a key leaves the order of the others. -/
theorem ordered_erase {d : Dict κ α} (h : d.Ordered) (k : κ) : (d.erase k).Ordered :=
  List.Pairwise.filter _ h

section Lookup

variable [Std.LawfulEqOrd κ]

/-- A key is found at an entry that binds it. -/
theorem findEntry_cons_self (k : κ) (a : α) (es : List (κ × α)) :
    findEntry k ((k, a) :: es) = some a := by
  simp [findEntry, Std.ReflOrd.compare_self]

/-- An entry of another key is passed over; that keys compare as equal only when they are the same
is what this takes. -/
theorem findEntry_cons_of_ne {k k' : κ} (h : k' ≠ k) (a : α) (es : List (κ × α)) :
    findEntry k' ((k, a) :: es) = findEntry k' es := by
  have differ : compare k' k ≠ .eq := fun same => h (Std.LawfulEqOrd.eq_of_compare same)
  rw [findEntry]
  split
  · exact absurd ‹_› differ
  · rfl

/-- A key that was bound to a value is bound to it. -/
@[simp] theorem get?_insert_self (d : Dict κ α) (k : κ) (a : α) :
    (d.insert k a).get? k = some a := by
  show findEntry k (insertEntry k a d.entries) = some a
  induction d.entries with
  | nil => exact findEntry_cons_self k a []
  | cons e rest ih =>
    obtain ⟨k', a'⟩ := e
    rw [insertEntry]
    split
    · exact findEntry_cons_self k a _
    · exact findEntry_cons_self k a _
    · next greater =>
      have differ : k ≠ k' := by
        rintro rfl
        rw [Std.ReflOrd.compare_self] at greater
        cases greater
      rw [findEntry_cons_of_ne differ, ih]

/-- Binding a key leaves the others alone, whether the keys are in order or not. -/
theorem get?_insert_of_ne {k k' : κ} (h : k' ≠ k) (d : Dict κ α) (a : α) :
    (d.insert k a).get? k' = d.get? k' := by
  show findEntry k' (insertEntry k a d.entries) = findEntry k' d.entries
  induction d.entries with
  | nil => exact findEntry_cons_of_ne h a []
  | cons e rest ih =>
    obtain ⟨l, b⟩ := e
    rw [insertEntry]
    split
    · exact findEntry_cons_of_ne h a _
    · next same =>
      obtain rfl := Std.LawfulEqOrd.eq_of_compare same
      rw [findEntry_cons_of_ne h, findEntry_cons_of_ne h]
    · by_cases hl : k' = l
      · rw [hl, findEntry_cons_self, findEntry_cons_self]
      · rw [findEntry_cons_of_ne hl, findEntry_cons_of_ne hl, ih]

/-- After an update the key is bound to what the update makes of its old binding, or of the start if
it had none. -/
theorem get?_update_self (d : Dict κ α) (k : κ) (start : α) (f : α → α) :
    (d.update k start f).get? k = some (f ((d.get? k).getD start)) :=
  get?_insert_self d k _

/-- An update of one key leaves all others. -/
theorem get?_update_of_ne {k k' : κ} (h : k' ≠ k) (d : Dict κ α) (start : α) (f : α → α) :
    (d.update k start f).get? k' = d.get? k' :=
  get?_insert_of_ne h d _

/-- Of two bindings of one key the later one stays, and the place of the key as well. -/
theorem insert_insert_self (d : Dict κ α) (k : κ) (a b : α) :
    (d.insert k a).insert k b = d.insert k b := by
  show (⟨insertEntry k b (insertEntry k a d.entries)⟩ : Dict κ α) = ⟨insertEntry k b d.entries⟩
  congr 1
  induction d.entries with
  | nil => simp [insertEntry]
  | cons e rest ih =>
    obtain ⟨k', a'⟩ := e
    rw [insertEntry, insertEntry]
    cases order : compare k k' with
    | lt => simp [insertEntry]
    | eq => simp [insertEntry]
    | gt => simp [insertEntry, order, ih]

/-- Of two changes at one key the second goes on from the first. -/
theorem update_update_self (d : Dict κ α) (k : κ) (start start' : α) (f g : α → α) :
    (d.update k start f).update k start' g = d.update k start (g ∘ f) := by
  rw [update, get?_update_self, update, insert_insert_self]
  rfl

/-- An update binds its key and no other, so the keys are those from before and that one. -/
theorem contains_update (d : Dict κ α) (k k' : κ) (start : α) (f : α → α) :
    (d.update k start f).contains k' = true ↔ d.contains k' = true ∨ k' = k := by
  by_cases same : k' = k
  · rw [same, contains, get?_update_self]
    simp
  · rw [contains, get?_update_of_ne same, contains]
    simp [same]

/-- **After several keys are bound** a key is bound to what one of the bindings gives it, or to what
it was bound to before. -/
theorem get?_foldl_insert (d : Dict κ α) (us : List (κ × α)) (k : κ) :
    (∃ a, (k, a) ∈ us ∧ (us.foldl (fun d u => d.insert u.1 u.2) d).get? k = some a) ∨
      (∀ a, (k, a) ∉ us) ∧ (us.foldl (fun d u => d.insert u.1 u.2) d).get? k = d.get? k := by
  induction us generalizing d with
  | nil => exact .inr ⟨fun a => List.not_mem_nil, rfl⟩
  | cons u us ih =>
    obtain ⟨l, b⟩ := u
    rw [List.foldl_cons]
    rcases ih (d.insert l b) with ⟨a, member, bound⟩ | ⟨absent, kept⟩
    · exact .inl ⟨a, List.mem_cons_of_mem _ member, bound⟩
    · by_cases same : k = l
      · subst same
        exact .inl ⟨b, List.mem_cons_self, kept.trans (get?_insert_self d k b)⟩
      · refine .inr ⟨fun a member => ?_, kept.trans (get?_insert_of_ne same d b)⟩
        rcases List.mem_cons.1 member with here | later
        · exact same (congrArg Prod.fst here)
        · exact absent a later

/-- **A key is bound to what is written for it last.** Earlier entries of the key are
overwritten. -/
theorem get?_ofList [BEq κ] [LawfulBEq κ] (es : List (κ × α)) (k : κ) :
    (ofList es).get? k = (es.reverse.find? fun e => e.1 == k).map (·.2) := by
  induction es using List.reverseRecOn with
  | nil => rfl
  | append_singleton es e ih =>
    obtain ⟨l, b⟩ := e
    rw [ofList_concat, List.reverse_concat]
    by_cases same : k = l
    · subst same
      simp
    · have differ : (l == k) = false := by simpa using Ne.symm same
      rw [get?_insert_of_ne same, ih, List.find?_cons_of_neg (by simp [differ])]

/-- A forgotten key is not bound. -/
@[simp] theorem get?_erase_self (d : Dict κ α) (k : κ) : (d.erase k).get? k = none := by
  show findEntry k (d.entries.filter fun e => compare k e.1 != .eq) = none
  induction d.entries with
  | nil => rfl
  | cons e rest ih =>
    by_cases same : compare k e.1 = .eq
    · rw [List.filter_cons_of_neg (by simp [same]), ih]
    · rw [List.filter_cons_of_pos (by simpa using same), findEntry_cons_of_ne _ e.2, ih]
      exact fun h => same (h ▸ Std.ReflOrd.compare_self)

/-- Forgetting a key leaves the others alone. -/
theorem get?_erase_of_ne {k k' : κ} (h : k' ≠ k) (d : Dict κ α) :
    (d.erase k).get? k' = d.get? k' := by
  show findEntry k' (d.entries.filter fun e => compare k e.1 != .eq) = findEntry k' d.entries
  induction d.entries with
  | nil => rfl
  | cons e rest ih =>
    obtain ⟨l, b⟩ := e
    by_cases same : compare k l = .eq
    · obtain rfl := Std.LawfulEqOrd.eq_of_compare same
      rw [List.filter_cons_of_neg (by simp), findEntry_cons_of_ne h, ih]
    · rw [List.filter_cons_of_pos (by simpa using same)]
      by_cases hl : k' = l
      · rw [hl, findEntry_cons_self, findEntry_cons_self]
      · rw [findEntry_cons_of_ne hl, findEntry_cons_of_ne hl, ih]

/-- **The entries are exactly what is bound.** If keys are not in order, an entry may hide
another. -/
theorem mem_entries_iff {d : Dict κ α} (h : d.Ordered) {k : κ} {a : α} :
    (k, a) ∈ d.entries ↔ d.get? k = some a := by
  obtain ⟨es⟩ := d
  show (k, a) ∈ es ↔ findEntry k es = some a
  induction es with
  | nil => simp [findEntry]
  | cons e rest ih =>
    obtain ⟨l, b⟩ := e
    obtain ⟨least, rest_ordered⟩ := List.pairwise_cons.1 h
    by_cases hl : k = l
    · subst hl
      have absent : (k, a) ∉ rest := by
        intro member
        have := least _ member
        rw [Std.ReflOrd.compare_self] at this
        cases this
      rw [findEntry_cons_self]
      simp [absent, eq_comm]
    · rw [findEntry_cons_of_ne hl, ← ih rest_ordered]
      simp [hl]

/-- The key of the first entry is not bound behind it, since the keys increase. -/
theorem Ordered.get?_rest {e : κ × α} {es : List (κ × α)} (h : Ordered ⟨e :: es⟩) :
    get? ⟨es⟩ e.1 = none := by
  obtain ⟨least, rest⟩ := List.pairwise_cons.1 h
  refine Option.eq_none_iff_forall_ne_some.2 fun a bound => ?_
  have less := least _ ((mem_entries_iff rest).2 bound)
  rw [Std.ReflOrd.compare_self] at less
  cases less

/-- No key of a dictionary whose keys increase occurs twice. -/
theorem Ordered.nodup_keys {d : Dict κ α} (h : d.Ordered) : d.keys.Nodup := by
  refine List.pairwise_map.2 (h.imp fun {x y} less same => ?_)
  rw [same, Std.ReflOrd.compare_self] at less
  cases less

/-- No entry of a dictionary whose keys increase occurs twice. -/
theorem Ordered.nodup {d : Dict κ α} (h : d.Ordered) : d.entries.Nodup :=
  .of_map _ h.nodup_keys

end Lookup

section Order

variable [Std.TransOrd κ] [Std.LawfulEqOrd κ]

/-- **Writing keeps the order of the keys**, so a dictionary that is only written to is ordered at
all times. -/
theorem ordered_insert {d : Dict κ α} (h : d.Ordered) (k : κ) (a : α) : (d.insert k a).Ordered :=
  insertEntry_pairwise k a h

/-- An update writes one entry, so it keeps the order as well. -/
theorem ordered_update {d : Dict κ α} (h : d.Ordered) (k : κ) (start : α) (f : α → α) :
    (d.update k start f).Ordered :=
  ordered_insert h k _

/-- Writing any number of entries keeps the order, by induction on the entries. -/
theorem ordered_foldl_insert {d : Dict κ α} (h : d.Ordered) (us : List (κ × α)) :
    (us.foldl (fun d u => d.insert u.1 u.2) d).Ordered := by
  induction us generalizing d with
  | nil => exact h
  | cons u us ih => exact ih (ordered_insert h u.1 u.2)

/-- **Dictionaries that bind the same are the same.** Keys in order leave no choice of how to write
them, so it is enough to look up each key. -/
theorem Ordered.ext {d e : Dict κ α} (hd : d.Ordered) (he : e.Ordered)
    (h : ∀ k, d.get? k = e.get? k) : d = e := by
  have irreflexive : Std.Irrefl fun x y : κ × α => compare x.1 y.1 = .lt :=
    ⟨fun x less => by rw [Std.ReflOrd.compare_self] at less; cases less⟩
  have asymmetric : Std.Antisymm fun x y : κ × α => compare x.1 y.1 = .lt :=
    ⟨fun x y less less' => absurd less' (Std.OrientedCmp.not_lt_of_lt less)⟩
  obtain ⟨ds⟩ := d
  obtain ⟨es⟩ := e
  have same : ds = es := hd.eq_of_mem_iff he fun ⟨k, a⟩ => by
    rw [mem_entries_iff hd, mem_entries_iff he, h]
  rw [same]

/-- A dictionary that is made of entries is ordered, whatever order the entries had. -/
theorem ordered_ofList (es : List (κ × α)) : (ofList es).Ordered :=
  ordered_foldl_insert ordered_empty es

/-- A dictionary that is written from a list has no entry that is not in the list. -/
theorem mem_of_mem_ofList {es : List (κ × α)} {e : κ × α} (h : e ∈ (ofList es).entries) :
    e ∈ es := by
  obtain ⟨k, a⟩ := e
  have bound := (mem_entries_iff (ordered_ofList es)).1 h
  rcases get?_foldl_insert empty es k with ⟨b, member, found⟩ | ⟨-, unbound⟩
  · rwa [Option.some.inj (bound.symm.trans found)]
  · cases bound.symm.trans unbound

/-- **Entries that bind each key to one thing** are those of the dictionary that is written from
them. -/
theorem mem_entries_ofList_iff {es : List (κ × α)}
    (one : ∀ d ∈ es, ∀ e ∈ es, d.1 = e.1 → d = e) {e : κ × α} :
    e ∈ (ofList es).entries ↔ e ∈ es := by
  refine ⟨mem_of_mem_ofList, fun member => (mem_entries_iff (ordered_ofList es)).2 ?_⟩
  rcases get?_foldl_insert empty es e.1 with ⟨b, written, found⟩ | ⟨absent, -⟩
  · have same : (e.1, b) = e := one _ written e member rfl
    exact found.trans (congrArg (some ∘ Prod.snd) same)
  · exact absurd member (absent e.2)

/-- **Entries of different keys** are the entries of the dictionary that is written from them, in
another order perhaps. -/
theorem perm_entries_ofList {es : List (κ × α)} (h : (es.map Prod.fst).Nodup) :
    (ofList es).entries.Perm es :=
  (List.perm_ext_iff_of_nodup (ordered_ofList es).nodup (.of_map _ h)).2 fun _ =>
    mem_entries_ofList_iff fun _ hd _ he same => List.inj_on_of_nodup_map h hd he same

/-- **Entries in the order of their keys** make the dictionary that has them. So writing and reading
entries undo each other. -/
theorem ofList_entries {d : Dict κ α} (h : d.Ordered) : ofList d.entries = d := by
  refine (ordered_ofList d.entries).ext h fun k => ?_
  rcases get?_foldl_insert empty d.entries k with ⟨a, member, found⟩ | ⟨absent, unbound⟩
  · exact found.trans ((mem_entries_iff h).1 member).symm
  · refine unbound.trans (Option.eq_none_iff_forall_ne_some.2 fun a bound => ?_).symm
    exact absent a ((mem_entries_iff h).2 bound)

end Order

end Dict

namespace NameSet

/-- **A new name keeps the names in increasing order.** Together with the empty set this makes every
set that is built from names ordered. -/
theorem pairwise_insertName (n : String) {ns : List String}
    (h : ns.Pairwise fun a b => compare a b = .lt) :
    (insertName n ns).Pairwise fun a b => compare a b = .lt := by
  induction ns with
  | nil => simp [insertName]
  | cons m rest ih =>
    obtain ⟨first, later⟩ := List.pairwise_cons.1 h
    rw [insertName]
    split
    · next less =>
      refine List.pairwise_cons.2 ⟨fun k hk => ?_, h⟩
      rcases List.mem_cons.1 hk with rfl | hk
      · exact less
      · exact Std.TransCmp.lt_trans less (first k hk)
    · exact h
    · next greater =>
      refine List.pairwise_cons.2 ⟨fun k hk => ?_, ih later⟩
      rcases mem_insertName.1 hk with rfl | hk
      · exact Std.OrientedCmp.lt_of_gt greater
      · exact first k hk

variable {s t : NameSet} {n m : String} {ns : List String}

/-- A name is in a set if it stands in the list of its names. -/
theorem contains_iff : s.contains n = true ↔ n ∈ s.toList := List.contains_iff_mem

/-- After an insertion a set holds the new name and those it held. -/
theorem contains_insert : (s.insert m).contains n = true ↔ n = m ∨ s.contains n = true := by
  rw [contains_iff, contains_iff]
  exact mem_insertName

/-- Inserting names one after the other adds all of them and nothing else, by induction on the
names. -/
theorem contains_foldl_insert :
    (ns.foldl insert s).contains n = true ↔ n ∈ ns ∨ s.contains n = true := by
  induction ns generalizing s with
  | nil => simp
  | cons m ns ih => rw [List.foldl_cons, ih, contains_insert, List.mem_cons, or_assoc, or_left_comm]

/-- A set made of names holds these names and no others. -/
theorem contains_ofList : (ofList ns).contains n = true ↔ n ∈ ns := by
  rw [ofList, contains_foldl_insert]
  simp [empty, contains]

/-- A union holds what either set holds. -/
theorem contains_union :
    (s.union t).contains n = true ↔ s.contains n = true ∨ t.contains n = true := by
  rw [union, contains_foldl_insert, ← contains_iff, or_comm]

/-- **What is collected over many things is what some of them gives**, besides what was there at the
start. This is how types, attributes and instants are gathered over candidates and frames. -/
theorem contains_foldl_union {α : Type} {f : α → NameSet} {as : List α} :
    (as.foldl (fun found a => found.union (f a)) s).contains n = true ↔
      s.contains n = true ∨ ∃ a ∈ as, (f a).contains n = true := by
  induction as generalizing s with
  | nil => simp
  | cons a as ih => simp [ih, contains_union, or_assoc]

/-- An intersection holds what both sets hold. -/
theorem contains_inter :
    (s.inter t).contains n = true ↔ s.contains n = true ∧ t.contains n = true := by
  rw [contains_iff, inter, List.mem_filter, ← contains_iff]

end NameSet

end Hindsight
