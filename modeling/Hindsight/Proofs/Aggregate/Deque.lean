import Hindsight.Aggregate.Deque
import Mathlib.Data.List.Induction

/-!
# What a deque keeps of a window

Whether an entry stays in a deque is decided by the entries that come after it. So what was pushed
before a window started is gone once it is evicted, and the deque is the one of the entries of the
window alone (`MonotoneDeque.evictBefore_pushAll_append`). This holds for all values, whether or not
they compare with each other.
-/

namespace Hindsight
namespace MonotoneDeque

/-- The deque with further entries, one after the other. -/
def pushAll (d : MonotoneDeque) (es : List DequeEntry) : MonotoneDeque := es.foldl push d

/-- Pushing one entry after others is pushing all of them. -/
theorem pushAll_concat (d : MonotoneDeque) (es : List DequeEntry) (e : DequeEntry) :
    d.pushAll (es ++ [e]) = (d.pushAll es).push e := by
  rw [pushAll, List.foldl_append]
  rfl

/-- Pushing two lists one after the other is pushing all entries. -/
theorem pushAll_append (d : MonotoneDeque) (es es' : List DequeEntry) :
    d.pushAll (es ++ es') = (d.pushAll es).pushAll es' := by
  rw [pushAll, List.foldl_append]
  rfl

/-- Pushing changes no function. -/
@[simp] theorem function_pushAll (d : MonotoneDeque) (es : List DequeEntry) :
    (d.pushAll es).function = d.function := by
  induction es using List.reverseRecOn with
  | nil => rfl
  | append_singleton es e ih => rw [pushAll_concat]; exact ih

/-- Pushing changes nothing about which entries are kept. -/
@[simp] theorem retention_pushAll (d : MonotoneDeque) (es : List DequeEntry) :
    (d.pushAll es).retention = d.retention := by
  induction es using List.reverseRecOn with
  | nil => rfl
  | append_singleton es e ih => rw [pushAll_concat]; exact ih

/-- Pruning starts at the end: it reaches the front part of a list only if nothing of the back part
is left. -/
theorem prune_append (x : Extreme) (v : Value) (front back : List DequeEntry) :
    prune x v (front ++ back) =
      if prune x v back = [] then prune x v front else front ++ prune x v back := by
  simp only [prune, List.reverse_append, List.dropWhile_append, List.reverse_eq_nil_iff,
    List.isEmpty_iff]
  split
  · rfl
  · rw [List.reverse_append, List.reverse_reverse]

/-- Pruning adds nothing. What it drops are entries at the end that the new value dominates, and
these alone. -/
theorem prune_subset (x : Extreme) (v : Value) (es : List DequeEntry) : prune x v es ⊆ es := by
  intro e he
  have kept := (List.dropWhile_sublist _).subset (List.mem_reverse.1 he)
  exact List.mem_reverse.1 kept

/-- The entries that a deque keeps before it takes a new one. -/
def kept (r : Retention) (v : Value) (es : List DequeEntry) : List DequeEntry :=
  match r with
  | .best x => prune x v es
  | .all => es
  | .newest => []

/-- **A push keeps some of the entries and puts the new one behind them.** Which it keeps is decided
by the way of keeping and by the new value, in the same way at every push. -/
theorem entries_push (d : MonotoneDeque) (e : DequeEntry) :
    (d.push e).entries = kept d.retention e.input.value d.entries ++ [e] := by
  rw [push]
  cases d.retention <;> rfl

/-- What is kept was there before, in all three ways of keeping. -/
theorem kept_subset (r : Retention) (v : Value) (es : List DequeEntry) : kept r v es ⊆ es := by
  cases r with
  | best x => exact prune_subset x v es
  | all => exact List.Subset.refl es
  | newest => exact List.nil_subset es

/-- **Of two parts of a deque the back part is kept as if it were alone**, and of the front part
some entries are kept. This is why entries from before a window leave no trace once they are
evicted. -/
theorem exists_kept_append (r : Retention) (v : Value) (front back : List DequeEntry) :
    ∃ front' ⊆ front, kept r v (front ++ back) = front' ++ kept r v back := by
  cases r with
  | best x =>
    rw [kept, kept, prune_append]
    split
    · next cleared => exact ⟨_, prune_subset x v front, by rw [cleared, List.append_nil]⟩
    · exact ⟨front, List.Subset.refl front, rfl⟩
  | all => exact ⟨front, List.Subset.refl front, rfl⟩
  | newest => exact ⟨[], List.nil_subset front, rfl⟩

/-- A deque holds only entries that were pushed since it was empty, by induction on the pushes. -/
theorem entries_pushAll_subset (d : MonotoneDeque) (es : List DequeEntry) :
    (d.clear.pushAll es).entries ⊆ es := by
  induction es using List.reverseRecOn with
  | nil => exact List.Subset.refl []
  | append_singleton es e ih =>
    rw [pushAll_concat, entries_push]
    intro a ha
    rcases List.mem_append.1 ha with ha | ha
    · exact List.mem_append_left _ (ih (kept_subset _ _ _ ha))
    · exact List.mem_append_right _ ha

/-- **What is in a deque does not change what becomes of later entries.** It only stays in front of
them, as far as it stays. -/
theorem exists_entries_pushAll (d : MonotoneDeque) (es : List DequeEntry) :
    ∃ front ⊆ d.entries,
      (d.pushAll es).entries = front ++ (d.clear.pushAll es).entries := by
  induction es using List.reverseRecOn with
  | nil => exact ⟨d.entries, List.Subset.refl _, (List.append_nil _).symm⟩
  | append_singleton es e ih =>
    obtain ⟨front, hfront, split⟩ := ih
    obtain ⟨front', hfront', split'⟩ :=
      exists_kept_append d.retention e.input.value front (d.clear.pushAll es).entries
    refine ⟨front', List.Subset.trans hfront' hfront, ?_⟩
    rw [pushAll_concat, pushAll_concat, entries_push, entries_push, split, retention_pushAll,
      retention_pushAll, split', List.append_assoc]
    rfl

/-- Deques of one function and retention with the same entries are the same, since a deque is
nothing else. -/
theorem ext_entries {d e : MonotoneDeque} (function : d.function = e.function)
    (retention : d.retention = e.retention) (entries : d.entries = e.entries) : d = e := by
  cases d
  cases e
  simp_all

/-- **A deque is the one of its window alone.** Once the entries from before the window are evicted
nothing is left of them. -/
theorem evictBefore_pushAll_append (d : MonotoneDeque) {old new : List DequeEntry} {n : Nat}
    (before : ∀ e ∈ old, e.number < n) (since : ∀ e ∈ new, n ≤ e.number) :
    (d.clear.pushAll (old ++ new)).evictBefore n = d.clear.pushAll new := by
  obtain ⟨front, hfront, split⟩ := exists_entries_pushAll (d.clear.pushAll old) new
  have alone : (d.clear.pushAll old).clear.pushAll new = d.clear.pushAll new := by
    congr 1
    exact ext_entries (function_pushAll _ _) (retention_pushAll _ _) rfl
  have gone : ∀ e ∈ front, decide (e.number < n) = true := fun e he =>
    decide_eq_true (before e (entries_pushAll_subset d old (hfront he)))
  have stay : (d.clear.pushAll new).entries.dropWhile (fun e => decide (e.number < n)) =
      (d.clear.pushAll new).entries := by
    cases h : (d.clear.pushAll new).entries with
    | nil => rfl
    | cons e rest =>
      have first : e ∈ new := entries_pushAll_subset d new (h ▸ List.mem_cons_self)
      exact List.dropWhile_cons_of_neg (by simpa using since e first)
  refine ext_entries (by simp [evictBefore]) (by simp [evictBefore]) ?_
  show ((d.clear.pushAll (old ++ new)).entries.dropWhile fun e => decide (e.number < n)) = _
  rw [pushAll_append, split, alone, List.dropWhile_append_of_pos gone, stay]

end MonotoneDeque
end Hindsight
