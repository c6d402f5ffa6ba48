import Hindsight.Store.Timeline
import Mathlib.Data.List.Forall2

/-!
# Stretches of a list

Consecutive stretches of a list make one (`segment_append`), a stretch depends only on the places
before its end (`segment_take`), and its items are those at its places (`mem_segment`). It filters
the list if its places are those of the items that pass (`segment_eq_filter`). Lists that correspond
do so place by place (`exists_getElem?_of_forall₂`). The frame of some bounds on a timeline never
reaches past its end (`Timeline.stop_frame_le`).
-/

namespace Hindsight

section Segment

variable {α β : Type} {i j k n : Nat} {l : List α}

/-- Between a place and itself there is nothing. -/
@[simp] theorem segment_self (i : Nat) (l : List α) : segment i i l = [] := by
  simp [segment]

/-- **Consecutive stretches make one.** So a range is cut in two at any place between its ends. -/
theorem segment_append (hij : i ≤ j) (hjk : j ≤ k) (l : List α) :
    segment i j l ++ segment j k l = segment i k l := by
  simp only [segment, List.drop_take]
  have split : k - i = (j - i) + (k - j) := by omega
  have start : j = i + (j - i) := by omega
  rw [split, List.take_add, List.drop_drop, ← start]

/-- A stretch depends only on the places before its end. What is appended to a list later is not
seen. -/
theorem segment_take (h : j ≤ n) (l : List α) : segment i j (l.take n) = segment i j l := by
  rw [segment, segment, List.take_take, Nat.min_eq_left h]

/-- A place of a segment is that many places behind its start, up to its end. So stretches can be
compared place by place. -/
theorem getElem?_segment (i j n : Nat) (l : List α) :
    (segment i j l)[n]? = if i + n < j then l[i + n]? else none := by
  rw [segment, List.getElem?_drop, List.getElem?_take]

/-- A stretch depends only on the items at its places, so lists may differ everywhere else. -/
theorem segment_congr {l' : List α} (h : ∀ n, i ≤ n → n < j → l[n]? = l'[n]?) :
    segment i j l = segment i j l' := by
  refine List.ext_getElem? fun n => ?_
  rw [getElem?_segment, getElem?_segment]
  split
  · next inside => exact h (i + n) (by omega) inside
  · rfl

/-- The items of a stretch are those at its places, an item as often as it stands there. -/
theorem mem_segment {a : α} : a ∈ segment i j l ↔ ∃ n, i ≤ n ∧ n < j ∧ l[n]? = some a := by
  rw [List.mem_iff_getElem?]
  constructor
  · rintro ⟨n, hn⟩
    rw [getElem?_segment] at hn
    split at hn
    · exact ⟨i + n, by omega, by assumption, hn⟩
    · simp at hn
  · rintro ⟨n, hi, hj, hn⟩
    refine ⟨n - i, ?_⟩
    rw [getElem?_segment, Nat.add_sub_cancel' hi, if_pos hj, hn]

/-- What is in a segment is in the list. -/
theorem mem_of_mem_segment {a : α} (h : a ∈ segment i j l) : a ∈ l := by
  obtain ⟨n, -, -, hn⟩ := mem_segment.1 h
  exact List.mem_of_getElem? hn

/-- A stretch starts before its items if it ends before them. A frame that grows at its start loses
nothing. -/
theorem segment_subset (h : i ≤ k) {a : α} (ha : a ∈ segment k j l) : a ∈ segment i j l := by
  obtain ⟨n, hk, hj, hn⟩ := mem_segment.1 ha
  exact mem_segment.2 ⟨n, by omega, hj, hn⟩

/-- Stretches of two lists correspond as the lists do. -/
theorem forall₂_segment {R : α → β → Prop} {bs : List β} (h : List.Forall₂ R l bs) (i j : Nat) :
    List.Forall₂ R (segment i j l) (segment i j bs) :=
  List.forall₂_drop i (List.forall₂_take j h)

/-- What stands at a place corresponds to what stands there in the other list, which is as long. -/
theorem exists_getElem?_of_forall₂ {R : α → β → Prop} {bs : List β} (h : List.Forall₂ R l bs)
    {a : α} (ha : l[n]? = some a) : ∃ b, bs[n]? = some b ∧ R a b := by
  obtain ⟨inside, rfl⟩ := List.getElem?_eq_some_iff.1 ha
  have each := List.forall₂_iff_get.1 h
  have inside' : n < bs.length := each.1 ▸ inside
  exact ⟨bs[n], List.getElem?_eq_getElem inside', each.2 n inside inside'⟩

/-- What is in a list corresponds to something in the other. -/
theorem exists_mem_of_forall₂ {R : α → β → Prop} {bs : List β} (h : List.Forall₂ R l bs)
    {a : α} (ha : a ∈ l) : ∃ b ∈ bs, R a b := by
  obtain ⟨n, hn⟩ := List.mem_iff_getElem?.1 ha
  obtain ⟨b, hb, related⟩ := exists_getElem?_of_forall₂ h hn
  exact ⟨b, List.mem_of_getElem? hb, related⟩

/-- Lists that correspond to one list correspond to each other. Two evaluations are compared through
the events that both of them are of. -/
theorem forall₂_of_common {γ : Type} {R : α → β → Prop} {S : α → γ → Prop} {Q : β → γ → Prop}
    {bs : List β} {cs : List γ} (related : ∀ a ∈ l, ∀ b c, R a b → S a c → Q b c)
    (h : List.Forall₂ R l bs) (h' : List.Forall₂ S l cs) : List.Forall₂ Q bs cs := by
  induction h generalizing cs with
  | nil => cases h'; exact .nil
  | cons hab _ ih =>
    obtain _ | ⟨hac, rest⟩ := h'
    exact .cons (related _ List.mem_cons_self _ _ hab hac)
      (ih (fun a ha => related a (List.mem_cons_of_mem _ ha)) rest)

/-- Lists that correspond to one list in a way that leaves no choice are the same. -/
theorem eq_of_forall₂ {R S : α → β → Prop} {bs cs : List β}
    (same : ∀ a ∈ l, ∀ b c, R a b → S a c → b = c) (h : List.Forall₂ R l bs)
    (h' : List.Forall₂ S l cs) : bs = cs := by
  rw [← List.forall₂_eq_eq_eq]
  exact forall₂_of_common same h h'

/-- **A stretch filters a list** if its places are those of the items that pass. On a timeline in
order, bounds are passed by such a stretch. -/
theorem segment_eq_filter {p : α → Bool} (hij : i ≤ j) (hj : j ≤ l.length)
    (places : ∀ (n : Nat) (a : α), l[n]? = some a → (i ≤ n ∧ n < j ↔ p a = true)) :
    segment i j l = l.filter p := by
  have before : (segment 0 i l).filter p = [] := by
    refine List.filter_eq_nil_iff.2 fun a ha passes => ?_
    obtain ⟨n, -, less, hn⟩ := mem_segment.1 ha
    have := (places n a hn).2 passes
    omega
  have inside : (segment i j l).filter p = segment i j l := by
    refine List.filter_eq_self.2 fun a ha => ?_
    obtain ⟨n, start, stop, hn⟩ := mem_segment.1 ha
    exact (places n a hn).1 ⟨start, stop⟩
  have behind : (segment j l.length l).filter p = [] := by
    refine List.filter_eq_nil_iff.2 fun a ha passes => ?_
    obtain ⟨n, start, -, hn⟩ := mem_segment.1 ha
    have := (places n a hn).2 passes
    omega
  have whole : segment 0 i l ++ segment i j l ++ segment j l.length l = l := by
    rw [segment_append (Nat.zero_le i) hij, segment_append (Nat.zero_le j) hj, segment,
      List.take_length, List.drop_zero]
  calc segment i j l = (segment 0 i l ++ segment i j l ++ segment j l.length l).filter p := by
        rw [List.filter_append, List.filter_append, before, inside, behind, List.nil_append,
          List.append_nil]
    _ = l.filter p := by rw [whole]

end Segment

section Leading

variable {α : Type} (test : α → Bool)

/-- The elements in front that pass a test are as many as are taken while they pass. This is what a
binary search finds if they are in order. -/
theorem leading_eq_length_takeWhile (l : List α) : leading test l = (l.takeWhile test).length := by
  induction l with
  | nil => rfl
  | cons a l ih =>
    rw [leading, List.takeWhile_cons]
    split
    · rw [ih, List.length_cons]
    · rfl

/-- No more elements lead than there are, so a place that is found is never past the end. -/
theorem leading_le_length (l : List α) : leading test l ≤ l.length := by
  rw [leading_eq_length_takeWhile]
  exact (List.takeWhile_sublist test).length_le

variable {test}

/-- **The leading items are those that pass,** if what passes stands before what does not. On a
timeline in order the tests are those of the bounds. -/
theorem lt_leading_iff {l : List α} (front : l.Pairwise fun a b => test b = true → test a = true)
    {n : Nat} {a : α} (h : l[n]? = some a) : n < leading test l ↔ test a = true := by
  induction l generalizing n with
  | nil => simp at h
  | cons b l ih =>
    obtain ⟨first, rest⟩ := List.pairwise_cons.1 front
    rw [leading]
    cases n with
    | zero =>
      obtain rfl : b = a := by simpa using h
      split <;> simp_all
    | succ n =>
      rw [List.getElem?_cons_succ] at h
      split
      · rw [Nat.succ_lt_succ_iff]
        exact ih rest h
      · next fails =>
        refine iff_of_false (Nat.not_lt_zero _) fun passes => fails ?_
        exact first a (List.mem_of_getElem? h) passes

end Leading

/-- **A frame never reaches past the end of its timeline.** So the two ends of a window can be moved
along it without leaving it. -/
theorem Timeline.stop_frame_le (t : Timeline) (b : Time.Bounds) : (t.frame b).stop ≤ t.length :=
  Nat.max_le.2 ⟨leading_le_length _ t, leading_le_length _ t⟩

end Hindsight
