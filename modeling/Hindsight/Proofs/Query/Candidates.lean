import Hindsight.Proofs.Store.Growth
import Hindsight.Proofs.Store.Representation
import Hindsight.Query.Candidates

/-!
# The candidates of a group

The candidates of a group are events of the index in the order of time
(`EventScope.lists_candidates`). When the index grows by later events they stay the same up to the
instant after which it grows (`EventScope.upTo_candidates`).

The events of a scope at a point are those that carry the entity of the point, or an entity of a
related type that the context of the point names (`EventScope.Counts`). Each of several entities has
a timeline of its own, and an event may carry more than one of them. The union of these timelines
lists it once (`EventScope.selects_events`), so the candidates of a group are exactly the visible
events that count, by time and number (`EventScope.selects_candidates`).
-/

namespace Hindsight

open Time (Instant)

/-- The events of an entity are those on its timeline of all types. -/
theorem EventIndex.entityEvents_eq (x : EventIndex) (type id : String) :
    x.entityEvents type id = (x.entity type id).all :=
  Timeline.slice_all _

namespace Timeline

variable {arena : Array Event} {T : Instant}

/-- The union of several timelines is one, by induction on them, with the union of two as the
step. -/
theorem Lists.foldl_union {α : Type} {f : α → Timeline} (each : ∀ e, (f e).Lists arena)
    (es : List α) {t : Timeline} (h : t.Lists arena) :
    (es.foldl (fun t e => t.union (f e)) t).Lists arena := by
  induction es generalizing t with
  | nil => exact h
  | cons e es ih => exact ih (h.union (each e))

/-- The union of several timelines up to an instant is that of the timelines up to it. -/
theorem upTo_foldl_union {α : Type} {f : α → Timeline} (each : ∀ e, (f e).Lists arena)
    (es : List α) {t : Timeline} (h : t.Lists arena) :
    upTo T (es.foldl (fun t e => t.union (f e)) t) =
      es.foldl (fun t e => t.union (upTo T (f e))) (upTo T t) := by
  induction es generalizing t with
  | nil => rfl
  | cons e es ih =>
    rw [List.foldl_cons, List.foldl_cons, ih (h.union (each e)), upTo_union h (each e)]

end Timeline

namespace EventScope

variable {s : EventScope} {x y : EventIndex} {g : PointGroup} {T : Instant}

/-- The events that a group looks at are listed in the order of time, also where timelines are
united. -/
theorem lists_events (h : x.Consistent) : (s.events x g).Lists x.arena := by
  cases s with
  | allEvents => exact h.timeline
  | related types =>
    have each (e : String × String) : (x.entityEvents e.1 e.2).Lists x.arena := by
      rw [x.entityEvents_eq]
      exact h.entity e.1 e.2
    exact Timeline.Lists.foldl_union each _ (each (g.entityType, g.entityId))

/-- **Candidates are events of the index** in the order of time. Leaving out what a query does not
see keeps both. -/
theorem lists_candidates (h : x.Consistent) (experiment : Option String) :
    (s.candidates x g experiment).Lists x.arena := by
  obtain ⟨stored, ordered⟩ := lists_events (s := s) (g := g) h
  exact ⟨fun e he => stored e (List.mem_filter.1 he).1, ordered.filter _⟩

/-- Later growth leaves what a group looks at up to a time, on every timeline and so on their
union. -/
theorem upTo_events (h : EventIndex.GrowsAfter T x y) (hx : x.Consistent) (hy : y.Consistent) :
    (s.events y g).upTo T = (s.events x g).upTo T := by
  cases s with
  | allEvents => exact h.upTo_timeline
  | related types =>
    have each (z : EventIndex) (hz : z.Consistent) (e : String × String) :
        (z.entityEvents e.1 e.2).Lists z.arena := by
      rw [z.entityEvents_eq]
      exact hz.entity e.1 e.2
    have same (e : String × String) :
        (y.entityEvents e.1 e.2).upTo T = (x.entityEvents e.1 e.2).upTo T := by
      rw [y.entityEvents_eq, x.entityEvents_eq, h.upTo_entity]
    rw [events, events,
      Timeline.upTo_foldl_union (each y hy) _ (each y hy (g.entityType, g.entityId)),
      Timeline.upTo_foldl_union (each x hx) _ (each x hx (g.entityType, g.entityId)),
      same (g.entityType, g.entityId)]
    simp only [same]

/-- **Later events change nothing in the past** of the candidates of a group, because they change
nothing in the past of any timeline and whether an event is seen is told by the event. -/
theorem upTo_candidates (h : EventIndex.GrowsAfter T x y) (hx : x.Consistent)
    (hy : y.Consistent) (experiment : Option String) :
    (s.candidates y g experiment).upTo T = (s.candidates x g experiment).upTo T := by
  rw [candidates, candidates, Timeline.upTo_filter (lists_events hy).inOrder,
    Timeline.upTo_filter (lists_events hx).inOrder, upTo_events h hx hy]

end EventScope

namespace Timeline.Selects

variable {t : Timeline} {arena : Array Event} {P : Event → Prop}

/-- The union of several selections selects what has one of the properties, each event once also if
it has several. -/
theorem foldl_union {α : Type} {f : α → Timeline} {Q : α → Event → Prop}
    (each : ∀ a, (f a).Selects arena (Q a)) (as : List α) (h : t.Selects arena P) :
    (as.foldl (fun t a => t.union (f a)) t).Selects arena fun e => P e ∨ ∃ a ∈ as, Q a e := by
  induction as generalizing t P with
  | nil => exact h.congr fun e => by simp
  | cons a as ih =>
    refine (ih (h.union (each a))).congr fun e => ?_
    rw [List.exists_mem_cons_iff, or_assoc]

end Timeline.Selects

/-- An event of an index counts at a point: all do, or those that carry the entity of the point or
an entity in its context, of a related type other than the own one. -/
def EventScope.Counts (s : EventScope) (p : ObservationPoint) (e : Event) : Prop :=
  match s with
  | allEvents => True
  | related types =>
    (p.entityType, p.entityId) ∈ e.entities.entries ∨
      ∃ entity ∈ p.context.entries, entity.1 ≠ p.entityType ∧ entity.1 ∈ types ∧
        entity ∈ e.entities.entries

instance (s : EventScope) (p : ObservationPoint) : DecidablePred (s.Counts p) := fun _ =>
  match s with
  | .allEvents => inferInstanceAs (Decidable True)
  | .related _ => inferInstanceAs (Decidable (_ ∨ ∃ entity ∈ p.context.entries, _))

/-- The related entities of a group are those of its context with another type, among the types that
are named. -/
theorem PointGroup.mem_related_iff {p : ObservationPoint} {types : List String}
    {entity : String × String} :
    entity ∈ (of p).related types ↔
      entity ∈ p.context.entries ∧ entity.1 ≠ p.entityType ∧ entity.1 ∈ types := by
  rw [related, List.mem_filter, Bool.and_eq_true, decide_eq_true_eq, List.contains_iff_mem]
  rfl

namespace EventScope

variable {x : EventIndex} (s : EventScope) (p : ObservationPoint)

/-- **The events of a scope** are those that count at the point: all events, or those of the entity
of the point and of the related entities in its context. -/
theorem selects_events (h : x.Represents) : (s.events x (.of p)).Selects x.arena (s.Counts p) := by
  cases s with
  | allEvents => exact h.timeline
  | related types =>
    have each (entity : String × String) : (x.entityEvents entity.1 entity.2).Selects x.arena
        fun e => entity ∈ e.entities.entries := by
      rw [x.entityEvents_eq]
      exact (h.entity entity.1 entity.2).all
    have all := Timeline.Selects.foldl_union each ((PointGroup.of p).related types)
      (each (p.entityType, p.entityId))
    refine all.congr fun e => or_congr_right (exists_congr fun entity => ?_)
    rw [PointGroup.mem_related_iff, and_assoc, and_assoc]

/-- **The candidates of a point** are the visible events that count at it, each of them once and no
others. -/
theorem selects_candidates (h : x.Represents) (experiment : Option String) :
    (s.candidates x (.of p) experiment).Selects x.arena fun e =>
      s.Counts p e ∧ e.visibleIn experiment = true :=
  (selects_events s p h).filter fun e => e.visibleIn experiment

end EventScope
end Hindsight
