import Hindsight.Proofs.Time.Instant
import Mathlib.Data.List.Sort

/-!
# Sorting by time is stable

Sorting by time inserts each element before the first one of those behind it that is not earlier
(`inOrder_cons`). So sorting leaves the elements of one kind in the order in which they are sorted
alone (`filter_inOrder`), and a walk over the elements comes to the same result before and after, if
its steps take an element that is earlier as well before a later one as behind it (`foldl_inOrder`).
-/

namespace Hindsight

open Time (Instant)

variable {α β σ : Type}

/-- Elements in the order of time, where those of one time stay in the order they had. -/
def inOrder (time : α → Instant) (l : List α) : List α :=
  l.mergeSort fun a b => decide (time a ≤ time b)

variable {time : α → Instant}

/-- Nothing is in order. -/
theorem inOrder_nil : inOrder time [] = [] := List.mergeSort_nil

/-- What is in order stays as it is, elements at one time included. -/
theorem inOrder_of_pairwise {l : List α} (sorted : l.Pairwise fun a b => time a ≤ time b) :
    inOrder time l = l :=
  List.mergeSort_of_pairwise (sorted.imp decide_eq_true)

/-- The times of elements decide the order, whatever is made of the elements. So sorting may come
before or after. -/
theorem map_inOrder (f : α → β) (time : β → Instant) (l : List α) :
    (inOrder (fun a => time (f a)) l).map f = inOrder time (l.map f) :=
  List.map_mergeSort fun _ _ _ _ => rfl

section Relation

variable (time)

/-- To come no later is transitive, as the sort asks for it. -/
theorem decide_le_trans (a b c : α) (h : decide (time a ≤ time b) = true)
    (h' : decide (time b ≤ time c) = true) : decide (time a ≤ time c) = true :=
  decide_eq_true ((of_decide_eq_true h).trans (of_decide_eq_true h'))

/-- Of two elements one comes no later than the other, as the sort asks for it. -/
theorem decide_le_total (a b : α) :
    (decide (time a ≤ time b) || decide (time b ≤ time a)) = true := by
  simpa using le_total (time a) (time b)

/-- Sorting neither adds nor drops an element. -/
theorem inOrder_perm (l : List α) : (inOrder time l).Perm l := List.mergeSort_perm _ _

/-- What is sorted is in the order of time. -/
theorem pairwise_inOrder (l : List α) : (inOrder time l).Pairwise fun a b => time a ≤ time b :=
  (List.pairwise_mergeSort (decide_le_trans time) (decide_le_total time) l).imp of_decide_eq_true

/-- One more element, before the first one that is not earlier. -/
def insertInOrder (a : α) (l : List α) : List α :=
  l.orderedInsert (fun a b => time a ≤ time b) a

end Relation

/-- An element is inserted before those that are not earlier, and so in front where none is
earlier. -/
theorem insertInOrder_of_le {a : α} {l : List α} (least : ∀ b ∈ l, time a ≤ time b) :
    insertInOrder time a l = a :: l := by
  cases l with
  | nil => rfl
  | cons b l => exact List.orderedInsert_cons_of_le _ l (least b List.mem_cons_self)

/-- An element is inserted behind those that are earlier, one of them at each step. -/
theorem insertInOrder_cons_of_lt {a b : α} (earlier : time b < time a) (l : List α) :
    insertInOrder time a (b :: l) = b :: insertInOrder time a l :=
  List.orderedInsert_of_not_le _ l (not_le.2 earlier)

/-- An element is inserted behind all elements that are earlier, wherever it goes among the rest. -/
theorem insertInOrder_append_of_lt {a : α} {l : List α} (earlier : ∀ b ∈ l, time b < time a)
    (l' : List α) : insertInOrder time a (l ++ l') = l ++ insertInOrder time a l' := by
  induction l with
  | nil => rfl
  | cons b l ih =>
    obtain ⟨here, rest⟩ := List.forall_mem_cons.1 earlier
    rw [List.cons_append, insertInOrder_cons_of_lt here, ih rest, List.cons_append]

/-- **The first element is inserted** before the first one of the others that is not earlier. In
this form sorting is followed by induction, and elements at one time stay in their order. -/
theorem inOrder_cons (a : α) (l : List α) :
    inOrder time (a :: l) = insertInOrder time a (inOrder time l) := by
  obtain ⟨front, back, whole, rest, passed⟩ :=
    List.mergeSort_cons (decide_le_trans time) (decide_le_total time) a l
  have sorted := pairwise_inOrder time (a :: l)
  rw [inOrder, whole] at sorted
  obtain ⟨least, -⟩ := List.pairwise_cons.1 (List.pairwise_append.1 sorted).2.1
  have earlier : ∀ b ∈ front, time b < time a := fun b hb => by simpa using passed b hb
  rw [inOrder, whole, inOrder, rest, insertInOrder_append_of_lt earlier, insertInOrder_of_le least]

/-- What is kept of elements in order and one more is what is kept of them, and the one if it is
kept, again in order. -/
theorem filter_insertInOrder {l : List α} (sorted : l.Pairwise fun a b => time a ≤ time b)
    (keep : α → Bool) (a : α) : (insertInOrder time a l).filter keep =
      if keep a then insertInOrder time a (l.filter keep) else l.filter keep := by
  induction l with
  | nil => exact List.filter_cons
  | cons b l ih =>
    obtain ⟨least, rest⟩ := List.pairwise_cons.1 sorted
    rcases le_or_gt (time a) (time b) with first | later
    · have first_of_all : ∀ c ∈ b :: l, time a ≤ time c :=
        List.forall_mem_cons.2 ⟨first, fun c hc => first.trans (least c hc)⟩
      rw [insertInOrder_of_le first_of_all, insertInOrder_of_le fun c hc =>
        first_of_all c (List.mem_of_mem_filter hc), List.filter_cons]
    · rw [insertInOrder_cons_of_lt later, List.filter_cons, List.filter_cons, ih rest]
      cases keep b with
      | true => cases keep a <;> simp [insertInOrder_cons_of_lt later]
      | false => rfl

/-- **Sorting keeps the order** in which some of the elements are sorted alone, by induction with
one insertion at each step. -/
theorem filter_inOrder (keep : α → Bool) (l : List α) :
    (inOrder time l).filter keep = inOrder time (l.filter keep) := by
  induction l with
  | nil => rw [List.filter_nil, inOrder_nil, List.filter_nil]
  | cons a l ih =>
    rw [inOrder_cons, filter_insertInOrder (pairwise_inOrder time l), ih]
    cases kept : keep a with
    | true => rw [if_pos rfl, List.filter_cons_of_pos kept, inOrder_cons]
    | false => rw [if_neg Bool.false_ne_true, List.filter_cons_of_neg (by simp [kept])]

/-- A walk takes the inserted element first, if it may be taken before those that are earlier. By
this a walk over sorted elements is one over the elements as they came. -/
theorem foldl_insertInOrder {step : σ → α → σ}
    (swap : ∀ s a b, time b < time a → step (step s a) b = step (step s b) a) (a : α) (l : List α)
    (s : σ) : (insertInOrder time a l).foldl step s = l.foldl step (step s a) := by
  induction l generalizing s with
  | nil => rfl
  | cons b l ih =>
    rcases le_or_gt (time a) (time b) with first | later
    · exact congrArg (List.foldl step s) (List.orderedInsert_cons_of_le _ l first)
    · rw [insertInOrder_cons_of_lt later, List.foldl_cons, ih, List.foldl_cons, swap s a b later]

/-- **Sorting does not change the result** of a walk over the elements, if an element that is
earlier may as well be taken before a later one. -/
theorem foldl_inOrder {step : σ → α → σ}
    (swap : ∀ s a b, time b < time a → step (step s a) b = step (step s b) a) (l : List α) (s : σ) :
    (inOrder time l).foldl step s = l.foldl step s := by
  induction l generalizing s with
  | nil => rw [inOrder_nil]
  | cons a l ih => rw [inOrder_cons, foldl_insertInOrder swap, ih, List.foldl_cons]

end Hindsight
