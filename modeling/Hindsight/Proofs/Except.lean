import Mathlib.Data.List.Forall2

/-!
# Computations that may fail

When a computation in `Except` succeeds, and with what, read off the parts it is made of. A list of
computations succeeds just if each of them does (`mapM_eq_ok_iff`), and fails just if one of
them does (`fails_mapM_iff`). Where it succeeds, each part of the list does, with the values of one
function (`exists_mapM_eq_ok_map`).
-/

namespace Hindsight

universe u v

variable {ε ε' : Type u} {α β : Type v}

/-- A computation fails. -/
def Fails (x : Except ε α) : Prop := ∃ e, x = .error e

/-- What does not fail comes to something, and what comes to something does not fail. -/
theorem not_fails_iff {x : Except ε α} : ¬Fails x ↔ ∃ a, x = .ok a := by
  cases x with
  | error e => simp [Fails]
  | ok a => simp [Fails]

/-- A computation fails or comes to something; this is how proofs tell the two cases apart. -/
theorem fails_or_eq_ok (x : Except ε α) : Fails x ∨ ∃ a, x = .ok a := by
  rw [← not_fails_iff]
  exact Classical.em _

/-- What is a result already does not fail. -/
theorem not_fails_ok (a : α) : ¬Fails (.ok a : Except ε α) := not_fails_iff.2 ⟨a, rfl⟩

/-- What comes to something does not fail, in the form in which most hypotheses are at hand. -/
theorem not_fails_of_eq_ok {x : Except ε α} {a : α} (h : x = .ok a) : ¬Fails x :=
  not_fails_iff.2 ⟨a, h⟩

/-- What follows a result starts from the result. -/
@[simp] theorem ok_bind (a : α) (f : α → Except ε β) : (.ok a : Except ε α) >>= f = f a := rfl

/-- Nothing follows a fault: it is passed on as it is. -/
@[simp] theorem error_bind (e : ε) (f : α → Except ε β) :
    (.error e : Except ε α) >>= f = .error e := rfl

/-- **Two steps come to something just if the first comes to something from which the second comes
to it.** Most proofs about readers, decoders and walks take computations apart by this. -/
theorem bind_eq_ok_iff {x : Except ε α} {f : α → Except ε β} {b : β} :
    x >>= f = .ok b ↔ ∃ a, x = .ok a ∧ f a = .ok b := by
  cases x with
  | error e => simp [bind, Except.bind]
  | ok a => simp [bind, Except.bind]

/-- A computation that succeeds behind a guard was not stopped by it. The guard is then out of the
way of what follows. -/
theorem eq_ok_of_guard {refuses : Bool} {e : ε} {x : Except ε α} {f : β → Except ε α} {a : α}
    (h : (if refuses = true then throw e >>= f else x) = .ok a) : x = .ok a := by
  split at h
  · cases h
  · exact h

/-- A sequence of two computations fails if the first does, or the second does after it. -/
theorem fails_bind_iff {x : Except ε α} {f : α → Except ε β} :
    Fails (x >>= f) ↔ Fails x ∨ ∃ a, x = .ok a ∧ Fails (f a) := by
  cases x with
  | error e => simp [bind, Except.bind, Fails]
  | ok a => simp [bind, Except.bind, Fails]

/-- What is made of a result is at hand just if the result was. -/
theorem map_eq_ok_iff {x : Except ε α} {f : α → β} {b : β} :
    x.map f = .ok b ↔ ∃ a, x = .ok a ∧ f a = b := by
  cases x with
  | error e => simp [Except.map]
  | ok a => simp [Except.map]

/-- Making something of a result neither adds nor removes a failure. -/
theorem fails_map_iff {x : Except ε α} {f : α → β} : Fails (x.map f) ↔ Fails x := by
  cases x with
  | error e => simp [Except.map, Fails]
  | ok a => simp [Except.map, Fails]

/-- Telling a fault in other words leaves results as they are. -/
theorem mapError_eq_ok_iff {x : Except ε α} {f : ε → ε'} {a : α} :
    x.mapError f = .ok a ↔ x = .ok a := by
  cases x with
  | error e => simp [Except.mapError]
  | ok a => simp [Except.mapError]

/-- The faults of two steps may be told in other words at each of the steps, or once for both. -/
theorem mapError_bind (x : Except ε α) (f : α → Except ε β) (g : ε → ε') :
    (x >>= f).mapError g = x.mapError g >>= fun a => (f a).mapError g := by
  cases x <;> rfl

/-- **Two computations are related** if both fail, or they come to values that are. -/
inductive Related (R : α → β → Prop) : Except ε α → Except ε β → Prop
  | ok {a : α} {b : β} (h : R a b) : Related R (.ok a) (.ok b)
  | error (e e' : ε) : Related R (.error e) (.error e')

namespace Related

variable {R : α → β → Prop} {x : Except ε α} {y : Except ε β}

/-- Related computations come to related values, or both fail. The two faults need not be the
same. -/
theorem ok_or_error (h : Related R x y) :
    (∃ a b, x = .ok a ∧ y = .ok b ∧ R a b) ∨ ∃ e e', x = .error e ∧ y = .error e' := by
  cases h with
  | ok h => exact .inl ⟨_, _, rfl, rfl, h⟩
  | error e e' => exact .inr ⟨e, e', rfl, rfl⟩

/-- The same computation is related to itself by every relation that results have to themselves. -/
theorem of_eq {R : α → α → Prop} {x y : Except ε α} (same : x = y) (refl : ∀ a, R a a) :
    Related R x y := by
  subst same
  cases x with
  | error e => exact .error e e
  | ok a => exact .ok (refl a)

/-- A computation comes to the same as itself. -/
theorem refl (x : Except ε α) : Related Eq x x := .of_eq rfl fun _ => rfl

/-- **Two pairs of steps are related if the first steps are and the second steps are from related
results on.** A failure of the first steps is one on both sides. -/
theorem bind {γ δ : Type v} {S : γ → δ → Prop} {f : α → Except ε γ} {g : β → Except ε δ}
    (h : Related R x y) (next : ∀ a b, R a b → Related S (f a) (g b)) :
    Related S (x >>= f) (y >>= g) := by
  cases h with
  | ok h => exact next _ _ h
  | error e e' => exact .error e e'

/-- What is made of related results is related if making it keeps the relation. -/
theorem map {γ δ : Type v} {S : γ → δ → Prop} {f : α → γ} {g : β → δ} (h : Related R x y)
    (next : ∀ a b, R a b → S (f a) (g b)) : Related S (x.map f) (y.map g) := by
  cases h with
  | ok h => exact .ok (next _ _ h)
  | error e e' => exact .error e e'

/-- Computations that are related one by one come to lists of related values, or both lists fail. -/
theorem mapM {γ δ : Type v} {S : γ → δ → Prop} {f : α → Except ε γ} {g : β → Except ε δ}
    {l : List α} {l' : List β} (each : List.Forall₂ (fun a b => Related S (f a) (g b)) l l') :
    Related (List.Forall₂ S) (l.mapM f) (l'.mapM g) := by
  induction each with
  | nil => exact .ok .nil
  | cons here _ ih =>
    rw [List.mapM_cons, List.mapM_cons]
    exact here.bind fun c d hcd => ih.bind fun cs ds hrest => .ok (.cons hcd hrest)

end Related

/-- **A list of computations succeeds** just if each of them does. Its values then correspond to the
list item by item. -/
theorem mapM_eq_ok_iff {f : α → Except ε β} {l : List α} {bs : List β} :
    l.mapM f = .ok bs ↔ List.Forall₂ (fun a b => f a = .ok b) l bs := by
  induction l generalizing bs with
  | nil => cases bs <;> simp [pure, Except.pure]
  | cons a l ih =>
    rw [List.mapM_cons, bind_eq_ok_iff]
    constructor
    · rintro ⟨b, hb, h⟩
      obtain ⟨rest, hrest, h⟩ := bind_eq_ok_iff.1 h
      obtain rfl : b :: rest = bs := by simpa [pure, Except.pure] using h
      exact .cons hb (ih.1 hrest)
    · rintro (_ | ⟨hb, hrest⟩)
      exact ⟨_, hb, bind_eq_ok_iff.2 ⟨_, ih.2 hrest, rfl⟩⟩

/-- Steps over a list come to the same if the steps do for each of its elements, in the same order
with the same fault. -/
theorem mapM_congr {f g : α → Except ε β} {l : List α} (h : ∀ a ∈ l, f a = g a) :
    l.mapM f = l.mapM g := by
  induction l with
  | nil => rfl
  | cons a l ih =>
    obtain ⟨here, rest⟩ := List.forall_mem_cons.1 h
    rw [List.mapM_cons, List.mapM_cons, here, ih rest]

/-- A list of computations comes to the values of a function if each of them does. The function may
be chosen for items outside the list as one likes. -/
theorem mapM_eq_ok_map {f : α → Except ε β} {g : α → β} {l : List α}
    (h : ∀ a ∈ l, f a = .ok (g a)) : l.mapM f = .ok (l.map g) := by
  rw [mapM_eq_ok_iff, List.forall₂_map_right_iff, List.forall₂_same]
  exact h

/-- **A list of computations fails** just if one of them does. Which of them is reported is not said
here. -/
theorem fails_mapM_iff {f : α → Except ε β} {l : List α} :
    Fails (l.mapM f) ↔ ∃ a ∈ l, Fails (f a) := by
  induction l with
  | nil => simp [pure, Except.pure, Fails]
  | cons a l ih =>
    rw [List.mapM_cons, fails_bind_iff, List.exists_mem_cons_iff]
    rcases fails_or_eq_ok (f a) with ha | ⟨b, hb⟩
    · simp [ha]
    · simp only [not_fails_of_eq_ok hb, false_or]
      constructor
      · rintro ⟨b', -, h⟩
        exact ih.1 ((fails_bind_iff.1 h).resolve_right fun ⟨_, _, h⟩ => not_fails_ok _ h)
      · intro h
        exact ⟨b, hb, fails_bind_iff.2 (.inl (ih.2 h))⟩

/-- What a list of computations comes to, its parts come to as well. The function is the same for
all parts, so values may be compared between them. -/
theorem exists_mapM_eq_ok_map [Nonempty β] {f : α → Except ε β} {l : List α} {bs : List β}
    (h : l.mapM f = .ok bs) : ∃ g : α → β, ∀ l' ⊆ l, l'.mapM f = .ok (l'.map g) := by
  have each : ∀ a, ∃ b, a ∈ l → f a = .ok b := by
    intro a
    by_cases ha : a ∈ l
    · have succeeds : ¬Fails (f a) := fun fails =>
        not_fails_of_eq_ok h (fails_mapM_iff.2 ⟨a, ha, fails⟩)
      exact (not_fails_iff.1 succeeds).imp fun b hb _ => hb
    · exact ⟨Classical.arbitrary β, fun yes => absurd yes ha⟩
  choose g hg using each
  exact ⟨g, fun l' sub => mapM_eq_ok_map fun a ha => hg a (sub ha)⟩

/-- **What each step keeps** the steps of a list keep together, by induction on the list. -/
theorem foldlM_preserves {f : β → α → Except ε β} {P : β → Prop} {l : List α} {b c : β}
    (h : l.foldlM f b = .ok c) (start : P b)
    (step : ∀ a ∈ l, ∀ b c, f b a = .ok c → P b → P c) : P c := by
  induction l generalizing b with
  | nil =>
    obtain rfl := Except.ok.inj h
    exact start
  | cons a l ih =>
    obtain ⟨here, rest⟩ := List.forall_mem_cons.1 step
    obtain ⟨next, first, later⟩ := bind_eq_ok_iff.1 (by rwa [List.foldlM_cons] at h)
    exact ih later (here b next first start) rest

/-- **What one step reaches** and the others keep holds in the end, whichever place that step has in
the list. -/
theorem foldlM_reaches {f : β → α → Except ε β} {P : β → Prop} {l : List α} {b c : β} {a : α}
    (h : l.foldlM f b = .ok c) (member : a ∈ l) (reach : ∀ b c, f b a = .ok c → P c)
    (keep : ∀ a ∈ l, ∀ b c, f b a = .ok c → P b → P c) : P c := by
  induction l generalizing b with
  | nil => cases member
  | cons a' l ih =>
    obtain ⟨next, first, later⟩ := bind_eq_ok_iff.1 (by rwa [List.foldlM_cons] at h)
    have keep_later := fun a ha => keep a (List.mem_cons_of_mem a' ha)
    rcases List.mem_cons.1 member with rfl | member
    · exact foldlM_preserves later (reach b next first) keep_later
    · exact ih later member keep_later

/-- **A list of computations in another order** fails as well, or comes to the values in that
order. -/
theorem Related.mapM_of_perm [Nonempty β] {f : α → Except ε β} {l l' : List α} (h : l.Perm l') :
    Related List.Perm (l.mapM f) (l'.mapM f) := by
  rcases fails_or_eq_ok (l.mapM f) with ⟨e, he⟩ | ⟨bs, hbs⟩
  · obtain ⟨a, ha, fails⟩ := fails_mapM_iff.1 ⟨e, he⟩
    obtain ⟨e', he'⟩ := fails_mapM_iff.2 ⟨a, h.mem_iff.1 ha, fails⟩
    rw [he, he']
    exact .error e e'
  · obtain ⟨g, values⟩ := exists_mapM_eq_ok_map hbs
    rw [values l (List.Subset.refl l), values l' h.symm.subset]
    exact .ok (h.map g)

end Hindsight
