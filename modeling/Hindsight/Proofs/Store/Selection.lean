import Hindsight.Proofs.Store.Reachable
import Mathlib.Data.List.Nodup

/-!
# Timelines that select events

A timeline selects the events of an arena that have a property if it lists each of them under its
number, and no other, in the strict order of time and number (`Timeline.Selects`). There is only one
such timeline (`Timeline.Selects.unique`), and it has as many events as the arena has of this
property (`Timeline.Selects.length_eq`).

Bounds cut out of a timeline the events that they contain (`Timeline.slice_eq_filter`), since the
events before the lower bound stand in front, and so do those that do not lie behind the upper one.
-/

namespace Hindsight

open Time (Bounds Instant)

namespace Time.Bounds

variable {b : Bounds} {s t : Instant}

/-- What is before an instant that lies before the bounds lies before them as well. So those that
lie before stand at the front of a timeline. -/
theorem isBefore_of_le (h : s ≤ t) (before : b.isBefore t = true) : b.isBefore s = true := by
  rw [isBefore] at before ⊢
  split at before
  · exact decide_eq_true (lt_of_le_of_lt h (of_decide_eq_true before))
  · exact decide_eq_true (le_trans h (of_decide_eq_true before))
  · cases before

/-- What is before an instant that the bounds reach is reached as well, which gives the end of a
frame. -/
theorem reaches_of_le (h : s ≤ t) (reached : b.reaches t = true) : b.reaches s = true := by
  rw [reaches] at reached ⊢
  split at reached
  · exact decide_eq_true (le_trans h (of_decide_eq_true reached))
  · exact decide_eq_true (lt_of_le_of_lt h (of_decide_eq_true reached))
  · rfl

end Time.Bounds

namespace Timeline

variable {s t : Timeline} {arena : Array Event} {P Q : Event → Prop} {e : Event}

/-- **The places in the frame of some bounds** are those of the events that the bounds contain, on a
timeline in the order of time. -/
theorem mem_frame_iff (ordered : t.InOrder) (b : Bounds) {n : Nat} {x : StoredEvent}
    (h : t[n]? = some x) :
    ((t.frame b).start ≤ n ∧ n < (t.frame b).stop) ↔ b.contains x.event.time = true := by
  have before : n < leading (fun x => b.isBefore x.event.time) t ↔
      b.isBefore x.event.time = true :=
    lt_leading_iff (ordered.imp fun le => Bounds.isBefore_of_le le) h
  have reached : n < leading (fun x => b.reaches x.event.time) t ↔
      b.reaches x.event.time = true :=
    lt_leading_iff (ordered.imp fun le => Bounds.reaches_of_le le) h
  rw [Bounds.contains, Bool.and_eq_true, Bool.not_eq_true', ← Bool.not_eq_true, ← before,
    ← reached]
  simp only [frame]
  omega

/-- **Bounds cut out the events that they contain.** Cutting looks at two places only, filtering at
every event. -/
theorem slice_eq_filter (ordered : t.InOrder) (b : Bounds) :
    t.slice b = t.filter fun x => b.contains x.event.time :=
  segment_eq_filter (t.frame b).start_le_stop (t.stop_frame_le b)
    fun _ _ h => mem_frame_iff ordered b h

/-- **A timeline selects the events of an arena that have a property:** it lists them with the
numbers under which the arena holds them, each once, by time and number. -/
structure Selects (t : Timeline) (arena : Array Event) (P : Event → Prop) : Prop where
  mem_iff (x : StoredEvent) : x ∈ t ↔ arena[x.slot]? = some x.event ∧ P x.event
  ordered : t.Pairwise StoredEvent.Precedes

namespace Selects

/-- A timeline that selects events lists them in the order of time, as every selection does. -/
theorem lists (h : t.Selects arena P) : t.Lists arena where
  stored x hx := ((h.mem_iff x).1 hx).1
  inOrder := h.ordered.imp StoredEvent.Precedes.time_le

/-- A number occurs once, since the events of a timeline stand strictly in the order of
precedence. -/
theorem nodup_slots (h : t.Selects arena P) : (t.map StoredEvent.slot).Nodup := by
  have distinct : t.Nodup := by
    refine List.Pairwise.imp ?_ h.ordered
    rintro x y precedes rfl
    exact StoredEvent.Precedes.irrefl x precedes
  exact (List.nodup_map_iff_inj_on distinct).2 fun x hx y hy slot =>
    h.lists.eq_of_slot h.lists hx hy slot

/-- **Only one timeline selects the events of a property.** Its events are determined, and their
order is that of precedence. -/
theorem unique (h : s.Selects arena P) (h' : t.Selects arena P) : s = t := by
  have irreflexive : Std.Irrefl StoredEvent.Precedes := ⟨StoredEvent.Precedes.irrefl⟩
  have asymmetric : Std.Antisymm StoredEvent.Precedes :=
    ⟨fun x y before after => absurd (before.trans after) (StoredEvent.Precedes.irrefl x)⟩
  exact h.ordered.eq_of_mem_iff h'.ordered fun x => (h.mem_iff x).trans (h'.mem_iff x).symm

/-- What a timeline selects may be told in other words, as long as they come to the same for every
event. -/
theorem congr (h : t.Selects arena P) (same : ∀ e, P e ↔ Q e) : t.Selects arena Q :=
  ⟨fun x => (h.mem_iff x).trans (and_congr_right fun _ => same _), h.ordered⟩

/-- An empty arena has nothing to select. -/
theorem nil (P : Event → Prop) : Selects [] #[] P := ⟨by simp, List.Pairwise.nil⟩

/-- An event without the property is passed over. The arena grows, and the selection stays. -/
theorem push_of_not (h : t.Selects arena P) (lacks : ¬P e) : t.Selects (arena.push e) P := by
  refine ⟨fun x => (h.mem_iff x).trans ?_, h.ordered⟩
  rw [Array.getElem?_push]
  split
  · next newest =>
    rw [newest, Array.getElem?_eq_none (Nat.le_refl _), Option.some.injEq]
    refine iff_of_false (by simp) ?_
    rintro ⟨rfl, has⟩
    exact lacks has
  · rfl

/-- **An event with the property** is put on the timeline under the number that it gets, behind
events of the same time. -/
theorem insert (h : t.Selects arena P) (has : P e) :
    (Timeline.insert ⟨arena.size, e⟩ t).Selects (arena.push e) P := by
  have older : ∀ y ∈ t, y.slot < arena.size := fun y hy =>
    (Array.getElem?_eq_some_iff.1 (h.lists.stored y hy)).1
  refine ⟨fun x => ?_, insert_ordered h.ordered older⟩
  rw [mem_insert, h.mem_iff, Array.getElem?_push]
  obtain ⟨n, f⟩ := x
  dsimp only
  split
  · next newest =>
    subst newest
    rw [Array.getElem?_eq_none (Nat.le_refl _)]
    simp only [StoredEvent.mk.injEq, true_and, reduceCtorEq, false_and, or_false,
      Option.some.injEq]
    constructor
    · rintro rfl
      exact ⟨rfl, has⟩
    · exact fun same => same.1.symm
  · next older => simp [older]

/-- Of a selection the events with a further property are one. Visibility is such a property. -/
theorem filter (h : t.Selects arena P) (p : Event → Bool) :
    Selects (t.filter fun x => p x.event) arena fun e => P e ∧ p e = true := by
  refine ⟨fun x => ?_, h.ordered.filter _⟩
  rw [List.mem_filter, h.mem_iff, and_assoc]

/-- **Bounds select** the events that they contain. This ties a range that is cut out to the
arena. -/
theorem slice (h : t.Selects arena P) (b : Bounds) :
    (t.slice b).Selects arena fun e => P e ∧ b.contains e.time = true := by
  rw [slice_eq_filter h.lists.inOrder]
  exact h.filter fun e => b.contains e.time

/-- **The union of two selections** selects what has either property, each event once. -/
theorem union (h : s.Selects arena P) (h' : t.Selects arena Q) :
    (Timeline.union s t).Selects arena fun e => P e ∨ Q e := by
  refine ⟨fun x => ?_, pairwise_union id StoredEvent.Precedes.trans h.lists h'.lists h.ordered
    h'.ordered⟩
  rw [mem_union_iff h.lists h'.lists, h.mem_iff, h'.mem_iff, and_or_left]

/-- The selected events are those of the arena that have the property, each as often as there. In
which order is a matter of time and numbers. -/
theorem map_event_perm [DecidablePred P] (h : t.Selects arena P) :
    (t.map StoredEvent.event).Perm (arena.toList.filter fun e => decide (P e)) := by
  let numbered := arena.toList.zipIdx.filter fun a => decide (P a.1)
  have perm : (t.map fun x => (x.event, x.slot)).Perm numbered := by
    refine (List.perm_ext_iff_of_nodup ?_ ?_).2 fun ⟨e, n⟩ => ?_
    · refine List.Nodup.of_map Prod.snd ?_
      rw [List.map_map]
      exact h.nodup_slots
    · refine List.Nodup.filter _ (List.Nodup.of_map Prod.snd ?_)
      rw [List.zipIdx_map_snd]
      exact List.nodup_range'
    · rw [List.mem_filter, List.mk_mem_zipIdx_iff_getElem?, Array.getElem?_toList, List.mem_map,
        decide_eq_true_eq]
      constructor
      · rintro ⟨x, hx, same⟩
        cases same
        exact (h.mem_iff x).1 hx
      · intro held
        exact ⟨⟨n, e⟩, (h.mem_iff ⟨n, e⟩).2 held, rfl⟩
  have events : numbered.map Prod.fst = arena.toList.filter fun e => decide (P e) := by
    have commute := List.filter_map (f := Prod.fst) (l := arena.toList.zipIdx)
      (p := fun e => decide (P e))
    rw [List.zipIdx_map_fst] at commute
    exact commute.symm
  rw [← events]
  have mapped := perm.map Prod.fst
  rwa [List.map_map] at mapped

/-- **A selection has as many events** as the arena has of the property. So counting a range counts
events that were stored. -/
theorem length_eq [DecidablePred P] (h : t.Selects arena P) :
    t.length = arena.toList.countP fun e => decide (P e) := by
  rw [List.countP_eq_length_filter, ← h.map_event_perm.length_eq, List.length_map]

end Selects
end Timeline
end Hindsight
