import Hindsight.Observation.Sample
import Hindsight.Proofs.Time.Instant
import Mathlib.Order.Compare

/-!
# The order of points

Points are compared field by field. The order is total, and points that compare equal are equal
(`ObservationPoint.eq_of_order`), because entities that compare equal have the same entries
(`Entities.eq_of_order`). So points that are put in order come out the same in whatever order they
went in (`ObservationPoint.mergeSort_eq_of_perm`).
-/

namespace Hindsight

/-- **Items that are in order** are in strict order when each is kept once. The order need not be
one of points. -/
theorem pairwise_eraseDups {α : Type} [DecidableEq α] {R S : α → α → Prop}
    (strict : ∀ a b, R a b → a ≠ b → S a b) {l : List α} (h : l.Pairwise R) :
    l.eraseDups.Pairwise S := by
  match l with
  | [] => exact List.Pairwise.nil
  | a :: l =>
    obtain ⟨first, rest⟩ := List.pairwise_cons.1 h
    rw [List.eraseDups_cons, List.pairwise_cons]
    refine ⟨fun b hb => ?_, pairwise_eraseDups strict (rest.filter _)⟩
    obtain ⟨member, differ⟩ := List.mem_filter.1 (List.mem_eraseDups.1 hb)
    exact strict a b (first b member) fun same => by simp [same] at differ
termination_by l.length
decreasing_by exact Nat.lt_succ_of_le (List.length_filter_le _ _)

/-- Once repetitions are dropped no item occurs twice, in whatever order they are. -/
theorem nodup_eraseDups {α : Type} [DecidableEq α] (l : List α) : l.eraseDups.Nodup :=
  pairwise_eraseDups (fun _ _ _ differ => differ) (List.pairwise_of_forall fun _ _ => trivial)

namespace Entities

/-- The order of the entries: by type, then by id. -/
def entryOrder : String × String → String × String → Ordering :=
  compareLex (compareOn Prod.fst) (compareOn Prod.snd)

instance : Std.TransCmp entryOrder := by unfold entryOrder; infer_instance

instance : Std.LawfulEqCmp entryOrder where
  compare_self := Std.ReflCmp.compare_self
  eq_of_compare {x y} h := by
    obtain ⟨first, second⟩ := Ordering.then_eq_eq.1 h
    exact Prod.ext (Std.LawfulEqOrd.eq_of_compare first) (Std.LawfulEqOrd.eq_of_compare second)

/-- Contexts are ordered by their entries, one after the other, so a shorter one stands before those
that continue it. -/
theorem order_eq (a b : Entities) :
    order a b = List.compareLex entryOrder a.entries b.entries := rfl

instance : Std.TransCmp order where
  eq_swap {a b} := by
    rw [order_eq, order_eq]
    exact Std.OrientedCmp.eq_swap
  isLE_trans {a b c} hab hbc := by
    rw [order_eq] at hab hbc ⊢
    exact Std.TransCmp.isLE_trans hab hbc

/-- Entities that compare equal are equal, since the entries tell everything about them. -/
theorem eq_of_order {a b : Entities} (h : order a b = .eq) : a = b := by
  obtain ⟨l⟩ := a
  obtain ⟨l'⟩ := b
  have entries : List.compareLex entryOrder l l' = .eq := h
  exact congrArg Dict.mk (Std.LawfulEqCmp.eq_of_compare entries)

end Entities

namespace ObservationPoint

variable {p q : ObservationPoint} {ps qs : List ObservationPoint}

instance : Std.TransCmp fun p q : ObservationPoint => Entities.order p.context q.context where
  eq_swap := Std.OrientedCmp.eq_swap
  isLE_trans := Std.TransCmp.isLE_trans

/-- The order of points, one field after the other: type, id, instant, event and, in the end, the
context. -/
theorem order_eq_compareLex : order =
    compareLex (compareOn entityType) (compareLex (compareOn entityId)
      (compareLex (compareOn ObservationPoint.instant) (compareLex (compareOn eventId)
        fun p q => Entities.order p.context q.context))) := rfl

instance : Std.TransCmp order := by
  rw [order_eq_compareLex]
  infer_instance

/-- **Points that compare equal** are equal. So sorting brings repetitions side by side, and nothing
else. -/
theorem eq_of_order (h : p.order q = .eq) : p = q := by
  simp only [order, Ordering.then_eq_eq] at h
  obtain ⟨type, id, time, event, context⟩ := h
  obtain ⟨pType, pId, pTime, pEvent, pContext⟩ := p
  obtain rfl : pType = q.entityType := Std.LawfulEqOrd.eq_of_compare type
  obtain rfl : pId = q.entityId := Std.LawfulEqOrd.eq_of_compare id
  obtain rfl : pTime = q.instant := Std.LawfulEqOrd.eq_of_compare time
  obtain rfl : pEvent = q.eventId := Std.LawfulEqOrd.eq_of_compare event
  obtain rfl : pContext = q.context := Entities.eq_of_order context
  rfl

/-- Sorted points stand in the order of points, some of them perhaps more than once. -/
theorem pairwise_mergeSort (ps : List ObservationPoint) :
    (ps.mergeSort fun p q => (p.order q).isLE).Pairwise fun p q => (p.order q).isLE = true := by
  refine List.pairwise_mergeSort (fun _ _ _ => Std.TransCmp.isLE_trans) (fun p q => ?_) ps
  have turned : q.order p = (p.order q).swap := Std.OrientedCmp.eq_swap
  rw [turned]
  cases p.order q <;> rfl

/-- **Points that are put in order** are in strict order when each is kept once. This is the shape
in which rules give their points. -/
theorem pairwise_eraseDups_mergeSort (ps : List ObservationPoint) :
    (ps.mergeSort fun p q => (p.order q).isLE).eraseDups.Pairwise fun p q => p.order q = .lt := by
  refine pairwise_eraseDups (fun p q less differ => ?_) (pairwise_mergeSort ps)
  cases h : p.order q with
  | lt => rfl
  | eq => exact absurd (eq_of_order h) differ
  | gt =>
    rw [h] at less
    cases less

/-- **Points that are put in order** come out the same in whatever order they went in, because
points that compare equal are equal. -/
theorem mergeSort_eq_of_perm (h : ps.Perm qs) :
    (ps.mergeSort fun p q => (p.order q).isLE) = qs.mergeSort fun p q => (p.order q).isLE := by
  have same : (ps.mergeSort fun p q => (p.order q).isLE).Perm
      (qs.mergeSort fun p q => (p.order q).isLE) :=
    (List.mergeSort_perm ps _).trans (h.trans (List.mergeSort_perm qs _).symm)
  refine same.eq_of_pairwise (fun p q _ _ less less' => ?_) (pairwise_mergeSort ps)
    (pairwise_mergeSort qs)
  exact eq_of_order (Std.OrientedCmp.isLE_antisymm less less')

end ObservationPoint
end Hindsight
