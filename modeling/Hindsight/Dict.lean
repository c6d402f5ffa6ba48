/-!
# Dictionaries and name sets

A dictionary is a list of entries in strictly increasing order of their keys, so two dictionaries
with the same entries are the same list: what a caller sees does not depend on the order in which
the entries were written. A later entry for a key replaces the earlier one.

`insertEntry_pairwise` says that writing keeps the order.
-/

namespace Hindsight

universe u v w

/-- Entries in increasing order of their keys. -/
structure Dict (κ : Type u) (α : Type v) where
  entries : List (κ × α)
deriving DecidableEq, Repr

namespace Dict

variable {κ : Type u} {α : Type v} {β : Type w}

/-- The dictionary without entries. -/
def empty : Dict κ α := ⟨[]⟩

instance : EmptyCollection (Dict κ α) := ⟨empty⟩

instance : Inhabited (Dict κ α) := ⟨empty⟩

section Ordered

variable [Ord κ]

/-- The entries with `k` bound to `a`, put where the order of keys wants it. -/
def insertEntry (k : κ) (a : α) : List (κ × α) → List (κ × α)
  | [] => [(k, a)]
  | (k', a') :: rest =>
    match compare k k' with
    | .lt => (k, a) :: (k', a') :: rest
    | .eq => (k, a) :: rest
    | .gt => (k', a') :: insertEntry k a rest

/-- What is bound to `k` among the entries. -/
def findEntry (k : κ) : List (κ × α) → Option α
  | [] => none
  | (k', a') :: rest =>
    match compare k k' with
    | .eq => some a'
    | _ => findEntry k rest

/-- Bind `k` to `a`, whatever it was bound to before. -/
def insert (d : Dict κ α) (k : κ) (a : α) : Dict κ α := ⟨insertEntry k a d.entries⟩

/-- What is bound to `k`. -/
def get? (d : Dict κ α) (k : κ) : Option α := findEntry k d.entries

/-- Whether `k` is bound. -/
def contains (d : Dict κ α) (k : κ) : Bool := (d.get? k).isSome

/-- Change what is bound to `k`, where an unbound key counts as bound to `start`. -/
def update (d : Dict κ α) (k : κ) (start : α) (f : α → α) : Dict κ α :=
  d.insert k (f ((d.get? k).getD start))

/-- Write the entries one after the other; the last entry for a key stays. -/
def ofList (es : List (κ × α)) : Dict κ α := es.foldl (fun d e => d.insert e.1 e.2) empty

/-- The entries without the one for `k`. -/
def erase (d : Dict κ α) (k : κ) : Dict κ α :=
  ⟨d.entries.filter fun e => compare k e.1 != .eq⟩

end Ordered

/-- The keys in increasing order. -/
def keys (d : Dict κ α) : List κ := d.entries.map (·.1)

/-- What is bound, in the order of the keys. -/
def values (d : Dict κ α) : List α := d.entries.map (·.2)

/-- The number of bound keys. -/
def size (d : Dict κ α) : Nat := d.entries.length

/-- Whether no key is bound. -/
def isEmpty (d : Dict κ α) : Bool := d.entries.isEmpty

/-- The same keys, bound to what `f` makes of their values. -/
def map (f : α → β) (d : Dict κ α) : Dict κ β := ⟨d.entries.map fun e => (e.1, f e.2)⟩

section Laws

variable [Ord κ]

/-- After writing, an entry has the key that was written or was there before. -/
theorem mem_insertEntry_key {k : κ} {a : α} {es : List (κ × α)} {e : κ × α}
    (h : e ∈ insertEntry k a es) : e.1 = k ∨ e ∈ es := by
  induction es with
  | nil => simp [insertEntry] at h; simp [h]
  | cons e' rest ih =>
    obtain ⟨k', a'⟩ := e'
    simp only [insertEntry] at h
    split at h
    · simp only [List.mem_cons] at h ⊢
      rcases h with rfl | h
      · exact .inl rfl
      · exact .inr h
    · simp only [List.mem_cons] at h ⊢
      rcases h with rfl | h
      · exact .inl rfl
      · exact .inr (.inr h)
    · simp only [List.mem_cons] at h ⊢
      rcases h with rfl | h
      · exact .inr (.inl rfl)
      · exact (ih h).imp_right .inr

/-- **Writing keeps the keys in strictly increasing order.** -/
theorem insertEntry_pairwise [Std.TransOrd κ] [Std.LawfulEqOrd κ] (k : κ) (a : α)
    {es : List (κ × α)} (h : es.Pairwise fun x y => compare x.1 y.1 = .lt) :
    (insertEntry k a es).Pairwise fun x y => compare x.1 y.1 = .lt := by
  induction es with
  | nil => simp [insertEntry]
  | cons e rest ih =>
    obtain ⟨k', a'⟩ := e
    rw [List.pairwise_cons] at h
    simp only [insertEntry]
    split
    · next hlt =>
      rw [List.pairwise_cons]
      refine ⟨fun y hy => ?_, List.pairwise_cons.2 h⟩
      rcases List.mem_cons.1 hy with rfl | hy
      · exact hlt
      · exact Std.TransCmp.lt_trans hlt (h.1 y hy)
    · next heq =>
      obtain rfl := Std.LawfulEqOrd.eq_of_compare heq
      exact List.pairwise_cons.2 h
    · next hgt =>
      rw [List.pairwise_cons]
      refine ⟨fun y hy => ?_, ih h.2⟩
      rcases mem_insertEntry_key hy with hk | hy
      · rw [hk]; exact Std.OrientedCmp.lt_of_gt hgt
      · exact h.1 y hy

end Laws

end Dict

/-- A set of names in increasing order, each once. -/
structure NameSet where
  toList : List String
deriving DecidableEq, Repr

namespace NameSet

/-- The set without names. -/
def empty : NameSet := ⟨[]⟩

instance : EmptyCollection NameSet := ⟨empty⟩

instance : Inhabited NameSet := ⟨empty⟩

/-- The names with `n` put where the order wants it, unless it is there already. -/
def insertName (n : String) : List String → List String
  | [] => [n]
  | m :: rest =>
    match compare n m with
    | .lt => n :: m :: rest
    | .eq => m :: rest
    | .gt => m :: insertName n rest

/-- The set with `n`. -/
def insert (s : NameSet) (n : String) : NameSet := ⟨insertName n s.toList⟩

/-- Whether `n` is in the set. -/
def contains (s : NameSet) (n : String) : Bool := s.toList.contains n

/-- The set of the names in a list. -/
def ofList (ns : List String) : NameSet := ns.foldl insert empty

/-- The names of either set. -/
def union (s t : NameSet) : NameSet := t.toList.foldl insert s

/-- The names of both sets. -/
def inter (s t : NameSet) : NameSet := ⟨s.toList.filter t.contains⟩

/-- Whether no name is in the set. -/
def isEmpty (s : NameSet) : Bool := s.toList.isEmpty

/-- After an insertion there are the names from before and the new one. -/
theorem mem_insertName {n m : String} {ns : List String} :
    m ∈ insertName n ns ↔ m = n ∨ m ∈ ns := by
  induction ns with
  | nil => simp [insertName]
  | cons k rest ih =>
    simp only [insertName]
    split
    · simp
    · next heq => obtain rfl := Std.LawfulEqOrd.eq_of_compare heq; simp
    · simp only [List.mem_cons, ih]; grind

end NameSet

end Hindsight
