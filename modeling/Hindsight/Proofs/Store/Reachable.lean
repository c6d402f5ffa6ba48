import Hindsight.Proofs.Dict
import Hindsight.Proofs.Store.Segment
import Hindsight.Proofs.Time.Instant
import Hindsight.Store.Index
import Mathlib.Data.List.TakeWhile

/-!
# Reachable indexes

An index is reachable if it comes from an empty one by declarations and accepted events. Its
timelines, that of all events and that of each entity, hold stored events in the order of time
(`EventIndex.Reachable.consistent`). The union of two such timelines is one again
(`Timeline.Lists.union`).
-/

namespace Hindsight

open Time (Bounds)

namespace StoredEvent.Precedes

variable {x y z : StoredEvent}

/-- An event that precedes another is no later. At one time the number decides. -/
theorem time_le (h : x.Precedes y) : x.event.time ≤ y.event.time := by
  rcases h with earlier | ⟨same, -⟩
  · exact le_of_lt earlier
  · exact le_of_eq same

/-- Precedence is transitive: by time first, and at one time by slots. -/
theorem trans (h : x.Precedes y) (h' : y.Precedes z) : x.Precedes z := by
  rcases h with earlier | ⟨same, less⟩
  · exact .inl (lt_of_lt_of_le earlier h'.time_le)
  · rcases h' with earlier' | ⟨same', less'⟩
    · exact .inl (same ▸ earlier')
    · exact .inr ⟨same.trans same', less.trans less'⟩

/-- No event precedes itself. -/
theorem irrefl (x : StoredEvent) : ¬x.Precedes x := by
  rintro (earlier | ⟨-, less⟩)
  · exact lt_irrefl _ earlier
  · exact lt_irrefl _ less

/-- Of two events with different numbers one precedes the other. So events of an arena can always be
put in order. -/
theorem of_not_precedes (differ : x.slot ≠ y.slot) (h : ¬x.Precedes y) : y.Precedes x := by
  rcases lt_trichotomy y.event.time x.event.time with earlier | same | later
  · exact .inl earlier
  · refine .inr ⟨same, lt_of_le_of_ne (not_lt.1 fun less => h (.inr ⟨same.symm, less⟩)) ?_⟩
    exact differ.symm
  · exact absurd (.inl later) h

end StoredEvent.Precedes

namespace Timeline

/-- The events are in the order of time. -/
def InOrder (t : Timeline) : Prop := t.Pairwise fun x y => x.event.time ≤ y.event.time

/-- A timeline lists events of an arena, with the numbers under which the arena holds them, in the
order of time. -/
structure Lists (t : Timeline) (arena : Array Event) : Prop where
  stored : ∀ x ∈ t, arena[x.slot]? = some x.event
  inOrder : t.InOrder

namespace Lists

variable {s t : Timeline} {arena : Array Event} {x : StoredEvent}

/-- An empty timeline lists events of every arena, since it has none to be found there. -/
theorem nil (arena : Array Event) : Lists [] arena := ⟨by simp, List.Pairwise.nil⟩

/-- Events that are stored later change nothing: those that are listed keep their numbers, and what
is at these. -/
theorem push (h : t.Lists arena) (e : Event) : t.Lists (arena.push e) := by
  refine ⟨fun x hx => ?_, h.inOrder⟩
  have held := h.stored x hx
  obtain ⟨inside, -⟩ := Array.getElem?_eq_some_iff.1 held
  rw [Array.getElem?_push_lt inside, ← held, Array.getElem?_eq_getElem inside]

/-- **A stored event can be put on a timeline.** It takes its place in the order of time, behind
events of the same time that were stored before it. -/
theorem insert (h : t.Lists arena) (stored : arena[x.slot]? = some x.event) :
    (Timeline.insert x t).Lists arena := by
  constructor
  · intro y hy
    rcases mem_insert.1 hy with rfl | hy
    · exact stored
    · exact h.stored y hy
  · obtain ⟨-, ordered⟩ := h
    induction t with
    | nil => exact List.pairwise_singleton _ _
    | cons y rest ih =>
      obtain ⟨first, rest_ordered⟩ := List.pairwise_cons.1 ordered
      rw [Timeline.insert]
      split
      · next not_later =>
        refine List.pairwise_cons.2 ⟨fun z hz => ?_, ih rest_ordered⟩
        rcases mem_insert.1 hz with rfl | hz
        · exact not_later
        · exact first z hz
      · next later =>
        have before := le_of_lt (not_le.1 later)
        refine List.pairwise_cons.2 ⟨fun z hz => ?_, ordered⟩
        rcases List.mem_cons.1 hz with rfl | hz
        · exact before
        · exact before.trans (first z hz)

/-- Two listed events with one number are the same, even on two timelines: both are what the arena
has at the number. -/
theorem eq_of_slot {y : StoredEvent} (hs : s.Lists arena) (ht : t.Lists arena) (hx : x ∈ s)
    (hy : y ∈ t) (slot : x.slot = y.slot) : x = y := by
  have same := (slot ▸ hs.stored x hx).symm.trans (ht.stored y hy)
  obtain ⟨n, e⟩ := x
  obtain ⟨m, f⟩ := y
  cases slot
  cases same
  rfl

/-- What is left of a timeline without its first event lists events of the arena in order.
Inductions along a timeline use it. -/
theorem tail (h : Lists (x :: t) arena) : t.Lists arena :=
  ⟨fun y hy => h.stored y (List.mem_cons_of_mem _ hy), (List.pairwise_cons.1 h.inOrder).2⟩

end Lists

section Union

variable {s t : Timeline} {arena : Array Event}

/-- **The union of two timelines** holds the events of either. An event on both is taken once, since
it has one number. -/
theorem mem_union_iff (hs : s.Lists arena) (ht : t.Lists arena) {z : StoredEvent} :
    z ∈ union s t ↔ z ∈ s ∨ z ∈ t := by
  induction s, t using union.induct with
  | case1 t => simp [union]
  | case2 s nonempty => simp [union]
  | case3 x s y t same ih =>
    obtain rfl := hs.eq_of_slot ht List.mem_cons_self List.mem_cons_self same
    rw [union, if_pos rfl]
    simp only [List.mem_cons, ih hs.tail ht.tail]
    tauto
  | case4 x s y t differ first ih =>
    rw [union, if_neg differ, if_pos first]
    simp only [List.mem_cons, ih hs.tail ht]
    tauto
  | case5 x s y t differ second ih =>
    rw [union, if_neg differ, if_neg second]
    simp only [List.mem_cons, ih hs ht.tail]
    tauto

/-- The union of two timelines is in an order that both are in, if this order follows from that of
timelines. -/
theorem pairwise_union {R : StoredEvent → StoredEvent → Prop}
    (follows : ∀ {x y}, x.Precedes y → R x y) (trans : ∀ {x y z}, R x y → R y z → R x z)
    (hs : s.Lists arena) (ht : t.Lists arena) (ordered : s.Pairwise R) (ordered' : t.Pairwise R) :
    (union s t).Pairwise R := by
  induction s, t using union.induct with
  | case1 t => rwa [union]
  | case2 s nonempty => rwa [union]; exact nonempty
  | case3 x s y t same ih =>
    obtain rfl := hs.eq_of_slot ht List.mem_cons_self List.mem_cons_self same
    obtain ⟨first, rest⟩ := List.pairwise_cons.1 ordered
    obtain ⟨first', rest'⟩ := List.pairwise_cons.1 ordered'
    rw [union, if_pos rfl]
    refine List.pairwise_cons.2 ⟨fun z hz => ?_, ih hs.tail ht.tail rest rest'⟩
    rcases (mem_union_iff hs.tail ht.tail).1 hz with hz | hz
    · exact first z hz
    · exact first' z hz
  | case4 x s y t differ before ih =>
    obtain ⟨first, rest⟩ := List.pairwise_cons.1 ordered
    rw [union, if_neg differ, if_pos before]
    refine List.pairwise_cons.2 ⟨fun z hz => ?_, ih hs.tail ht rest ordered'⟩
    rcases (mem_union_iff hs.tail ht).1 hz with hz | hz
    · exact first z hz
    · rcases List.mem_cons.1 hz with rfl | hz
      · exact follows before
      · exact trans (follows before) ((List.pairwise_cons.1 ordered').1 z hz)
  | case5 x s y t differ second ih =>
    obtain ⟨first', rest'⟩ := List.pairwise_cons.1 ordered'
    have before := StoredEvent.Precedes.of_not_precedes differ second
    rw [union, if_neg differ, if_neg second]
    refine List.pairwise_cons.2 ⟨fun z hz => ?_, ih hs ht.tail ordered rest'⟩
    rcases (mem_union_iff hs ht.tail).1 hz with hz | hz
    · rcases List.mem_cons.1 hz with rfl | hz
      · exact follows before
      · exact trans (follows before) ((List.pairwise_cons.1 ordered).1 z hz)
    · exact first' z hz

/-- **The union of two timelines is one.** Merging keeps the order, and an event that is on both
comes once. -/
theorem Lists.union (hs : s.Lists arena) (ht : t.Lists arena) : (union s t).Lists arena where
  stored z hz := ((mem_union_iff hs ht).1 hz).elim (hs.stored z) (ht.stored z)
  inOrder := pairwise_union StoredEvent.Precedes.time_le le_trans hs ht hs.inOrder ht.inOrder

end Union

/-- Bounds that exclude nothing leave a timeline as it is. So a whole timeline may be treated as a
range. -/
theorem slice_all (t : Timeline) : t.slice .all = t := by
  have start : (t.frame .all).start = 0 := by cases t <;> rfl
  have stop : (t.frame .all).stop = t.length := by
    have everything : leading (fun x => Bounds.all.reaches x.event.time) t = t.length := by
      rw [leading_eq_length_takeWhile, List.takeWhile_eq_self_iff.2]
      intro x _
      rfl
    show max (t.frame .all).start _ = _
    rw [start, everything, Nat.zero_max]
  rw [slice, Frame.of, start, stop, segment, List.take_length, List.drop_zero]

end Timeline

namespace EventIndex

/-- The timelines of an entity in a series. -/
def entityOf (series : Dict String (Dict String EntityTimelines)) (type id : String) :
    EntityTimelines :=
  ((series.get? type).bind fun ids => ids.get? id).getD .empty

/-- Listing an event with an entity changes the timelines of this entity only. An entity that was
not known starts with empty ones. -/
theorem entityOf_insertSeries (x : StoredEvent) (series : Dict String (Dict String EntityTimelines))
    (entity : String × String) (type id : String) :
    entityOf (insertSeries x series entity) type id =
      if (type, id) = entity then (entityOf series type id).insert x
      else entityOf series type id := by
  obtain ⟨type', id'⟩ := entity
  rw [entityOf, entityOf, insertSeries]
  by_cases hType : type = type'
  · subst hType
    rw [Dict.get?_update_self, Option.bind_some]
    have held : ∀ id, ((series.get? type).getD .empty).get? id =
        (series.get? type).bind fun ids => ids.get? id := by
      intro id
      cases series.get? type <;> rfl
    by_cases hId : id = id'
    · subst hId
      rw [Dict.get?_update_self, if_pos rfl, held]
      rfl
    · rw [Dict.get?_update_of_ne hId, if_neg (by simp [hId]), held]
  · rw [Dict.get?_update_of_ne hType, if_neg (by simp [hType])]

/-- What listing an event keeps of the timelines of an entity is kept by listing it with several
entities. -/
theorem entityOf_foldl_insertSeries {P : EntityTimelines → Prop} {x : StoredEvent}
    (step : ∀ t, P t → P (t.insert x)) {series : Dict String (Dict String EntityTimelines)}
    {type id : String} (h : P (entityOf series type id)) (entities : List (String × String)) :
    P (entityOf (entities.foldl (insertSeries x) series) type id) := by
  induction entities generalizing series with
  | nil => exact h
  | cons entity rest ih =>
    rw [List.foldl_cons]
    refine ih ?_
    rw [entityOf_insertSeries]
    split
    · exact step _ h
    · exact h

/-- The timelines of an index list events of its arena. -/
structure Consistent (x : EventIndex) : Prop where
  timeline : x.timeline.Lists x.arena
  entity (type id : String) : (x.entity type id).all.Lists x.arena

/-- **An index without events is consistent**: all of its timelines are empty, so there is no event
that could be missing or out of order. -/
theorem consistent_empty (validates : Bool) : (empty validates).Consistent :=
  ⟨Timeline.Lists.nil _, fun _ _ => Timeline.Lists.nil _⟩

/-- **Placing an event keeps the timelines consistent.** It is put on the timeline of all events and
on those of its entities under a number that is new. -/
theorem Consistent.place {x : EventIndex} (h : x.Consistent) (e : Event) (s : Schema) :
    (x.place e s).Consistent := by
  have stored : (x.arena.push e)[x.arena.size]? = some e := Array.getElem?_push_size
  refine ⟨(h.timeline.push e).insert stored, fun type id => ?_⟩
  exact entityOf_foldl_insertSeries (P := fun t => t.all.Lists (x.arena.push e))
    (fun t ht => ht.insert stored) ((h.entity type id).push e) e.entities.entries

/-- An index that comes from an empty one by declarations and accepted events. -/
inductive Reachable : EventIndex → Prop
  | empty (validates : Bool) : Reachable (.empty validates)
  | declare {x : EventIndex} (h : Reachable x) (eventType attr : String) (k : ValueKind) :
    Reachable (x.declare eventType attr k)
  | insert {x y : EventIndex} {e : Event} (h : Reachable x) (accepted : x.insert e = .ok y) :
    Reachable y

/-- Inserting many events leads from a reachable index to a reachable one, also if some of them are
refused. -/
theorem Reachable.insertMany {x : EventIndex} (h : x.Reachable) (es : List Event) :
    (x.insertMany es).2.Reachable := by
  induction es generalizing x with
  | nil => exact h
  | cons e es ih =>
    rw [EventIndex.insertMany]
    split
    · exact h
    · next accepted => exact ih (h.insert accepted)

/-- **The timelines of a reachable index are consistent.** All that is known of ranges and windows
starts from this. -/
theorem Reachable.consistent {x : EventIndex} (h : x.Reachable) : x.Consistent := by
  induction h with
  | empty validates => exact consistent_empty validates
  | declare _ _ _ _ ih => exact ⟨ih.timeline, ih.entity⟩
  | insert _ accepted ih =>
    obtain ⟨s, -, rfl⟩ := insert_eq_ok accepted
    exact ih.place _ s

end EventIndex
end Hindsight
