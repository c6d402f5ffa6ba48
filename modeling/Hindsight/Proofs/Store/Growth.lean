import Hindsight.Proofs.Store.Reachable

/-!
# Indexes that grow by later events

An index grows after an instant if further events are accepted that are all later than the instant
(`EventIndex.GrowsAfter`). Its timelines stay the same up to the instant
(`EventIndex.GrowsAfter.upTo_timeline`, `EventIndex.GrowsAfter.upTo_entity`), and so does what is
made of timelines by union (`Timeline.upTo_union`).
-/

namespace Hindsight

open Time (Instant)

namespace Timeline

/-- The events at the front of a timeline that are not later than an instant. -/
def upTo (T : Instant) (t : Timeline) : Timeline := t.takeWhile fun x => decide (x.event.time ≤ T)

variable {T : Instant} {x : StoredEvent} {t : Timeline}

/-- An event that is not later stands in front of what is left of the others, so the front of a
timeline is read from its first event on. -/
theorem upTo_cons_of_le (h : x.event.time ≤ T) (t : Timeline) : upTo T (x :: t) = x :: upTo T t :=
  List.takeWhile_cons_of_pos (decide_eq_true h)

/-- Behind an event that is later there are only later ones, so nothing is left. This is where the
order of a timeline is used. -/
theorem upTo_cons_of_lt (h : T < x.event.time) (t : Timeline) : upTo T (x :: t) = [] :=
  List.takeWhile_cons_of_neg (by simpa using h)

/-- **A later event changes nothing up to an instant.** It is put behind all the events that are not
later, wherever else it is put. -/
theorem upTo_insert (later : T < x.event.time) (t : Timeline) : upTo T (insert x t) = upTo T t := by
  induction t with
  | nil => exact upTo_cons_of_lt later []
  | cons y t ih =>
    rw [insert]
    split
    · rcases le_or_gt y.event.time T with early | late
      · rw [upTo_cons_of_le early, upTo_cons_of_le early, ih]
      · rw [upTo_cons_of_lt late, upTo_cons_of_lt late]
    · next behind =>
      rw [upTo_cons_of_lt later, upTo_cons_of_lt (later.trans (not_le.1 behind))]

/-- On a timeline in the order of time the events at the front are all that are not later, so taking
a front and filtering are one. -/
theorem upTo_eq_filter (ordered : t.InOrder) :
    upTo T t = t.filter fun x => decide (x.event.time ≤ T) := by
  induction t with
  | nil => rfl
  | cons x t ih =>
    obtain ⟨first, rest⟩ := List.pairwise_cons.1 ordered
    rcases le_or_gt x.event.time T with early | late
    · rw [upTo_cons_of_le early, ih rest, List.filter_cons, if_pos (decide_eq_true early)]
    · rw [upTo_cons_of_lt late, eq_comm, List.filter_eq_nil_iff]
      intro y hy
      have later : T < y.event.time := lt_of_lt_of_le late
        ((List.forall_mem_cons.2 ⟨le_refl _, first⟩ :
          ∀ z ∈ x :: t, x.event.time ≤ z.event.time) y hy)
      simpa using later

/-- Leaving out events commutes with looking up to an instant. Visibility is applied to a timeline
after it is cut, or before, to the same effect. -/
theorem upTo_filter (ordered : t.InOrder) (p : StoredEvent → Bool) :
    upTo T (t.filter p) = (upTo T t).filter p := by
  rw [upTo_eq_filter ordered, upTo_eq_filter (ordered.filter p), List.filter_filter,
    List.filter_filter]
  simp only [Bool.and_comm]

/-- A timeline united with an empty one is unchanged, which is how the union of several timelines
starts. -/
theorem union_nil (t : Timeline) : union t [] = t := by
  cases t <;> simp [union]

/-- **The union up to an instant** is the union of the timelines up to the instant. Both list the
same events in the order of precedence, and this fixes them. -/
theorem upTo_union {s t : Timeline} {arena : Array Event} (hs : s.Lists arena)
    (ht : t.Lists arena) : upTo T (union s t) = union (upTo T s) (upTo T t) := by
  induction s, t using union.induct with
  | case1 t => simp [union, upTo]
  | case2 s nonempty => rw [union_nil]; exact (union_nil _).symm
  | case3 x s y t same ih =>
    obtain rfl := hs.eq_of_slot ht List.mem_cons_self List.mem_cons_self same
    rw [union, if_pos rfl]
    rcases le_or_gt x.event.time T with early | late
    · rw [upTo_cons_of_le early, upTo_cons_of_le early, upTo_cons_of_le early, union, if_pos rfl,
        ih hs.tail ht.tail]
    · rw [upTo_cons_of_lt late, upTo_cons_of_lt late, upTo_cons_of_lt late, union_nil]
  | case4 x s y t differ first ih =>
    rw [union, if_neg differ, if_pos first]
    rcases le_or_gt x.event.time T with early | late
    · rw [upTo_cons_of_le early, upTo_cons_of_le early, ih hs.tail ht]
      rcases le_or_gt y.event.time T with early' | late'
      · rw [upTo_cons_of_le early', union, if_neg differ, if_pos first]
      · rw [upTo_cons_of_lt late', union_nil, union_nil]
    · have late' : T < y.event.time := by
        rcases first with earlier | ⟨same, -⟩
        · exact late.trans earlier
        · exact same ▸ late
      rw [upTo_cons_of_lt late, upTo_cons_of_lt late, upTo_cons_of_lt late', union_nil]
  | case5 x s y t differ second ih =>
    rw [union, if_neg differ, if_neg second]
    have before : y.event.time ≤ x.event.time := not_lt.1 fun earlier => second (.inl earlier)
    rcases le_or_gt y.event.time T with early | late
    · rw [upTo_cons_of_le early, upTo_cons_of_le early, ih hs ht.tail]
      rcases le_or_gt x.event.time T with early' | late'
      · rw [upTo_cons_of_le early', union, if_neg differ, if_neg second]
      · rw [upTo_cons_of_lt late']
        simp [union]
    · rw [upTo_cons_of_lt late, upTo_cons_of_lt late, upTo_cons_of_lt (lt_of_lt_of_le late before),
        union_nil]

end Timeline

namespace EventIndex

/-- An index comes from another by accepting events that are later than an instant. -/
inductive GrowsAfter (T : Instant) (x : EventIndex) : EventIndex → Prop
  | refl : GrowsAfter T x x
  | insert {y z : EventIndex} {e : Event} (h : GrowsAfter T x y) (later : T < e.time)
    (accepted : y.insert e = .ok z) : GrowsAfter T x z

namespace GrowsAfter

variable {T : Instant} {x y : EventIndex}

/-- What grows from a reachable index is reachable, since each step of growth is an event that was
accepted. -/
theorem reachable (h : GrowsAfter T x y) (hx : x.Reachable) : y.Reachable := by
  induction h with
  | refl => exact hx
  | insert _ _ accepted ih => exact ih.insert accepted

/-- Inserting many later events is growth, also if some of them are refused: those before the first
refusal are accepted, and the others never come in. -/
theorem insertMany (h : GrowsAfter T x y) {es : List Event} (later : ∀ e ∈ es, T < e.time) :
    GrowsAfter T x (y.insertMany es).2 := by
  induction es generalizing y with
  | nil => exact h
  | cons e es ih =>
    obtain ⟨first, rest⟩ := List.forall_mem_cons.1 later
    rw [EventIndex.insertMany]
    split
    · exact h
    · next accepted => exact ih (h.insert first accepted) rest

/-- **Later events change nothing in the past** of the timeline of all events, by induction on the
events. -/
theorem upTo_timeline (h : GrowsAfter T x y) : y.timeline.upTo T = x.timeline.upTo T := by
  induction h with
  | refl => rfl
  | insert _ later accepted ih =>
    obtain ⟨s, -, rfl⟩ := insert_eq_ok accepted
    rw [place, Timeline.upTo_insert (x := ⟨_, _⟩) later, ih]

/-- **Later events change nothing in the past** of an entity, whether they are listed with it or
not. -/
theorem upTo_entity (h : GrowsAfter T x y) (type id : String) :
    (y.entity type id).all.upTo T = (x.entity type id).all.upTo T := by
  induction h with
  | refl => rfl
  | insert _ later accepted ih =>
    obtain ⟨s, -, rfl⟩ := insert_eq_ok accepted
    refine entityOf_foldl_insertSeries
      (P := fun t => t.all.upTo T = (x.entity type id).all.upTo T) (fun t ht => ?_) ih _
    rw [EntityTimelines.insert, Timeline.upTo_insert (x := ⟨_, _⟩) later, ht]

end GrowsAfter
end EventIndex
end Hindsight
