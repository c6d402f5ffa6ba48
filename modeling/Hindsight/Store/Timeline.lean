import Hindsight.Event.Basic
import Hindsight.Time.Window

/-!
# Timelines

A stored event carries the number under which it was stored. A timeline is a list of stored events
by time, and of equal times by number. A new event has the greatest number so far and goes behind
every event that is not later than itself.

`mem_insert` says that an insertion adds the one event, `length_insert` that it loses none and
`insert_ordered` that it keeps the order.
-/

namespace Hindsight

open Time (Instant Bounds)

/-- An event and the number under which it was stored. -/
structure StoredEvent where
  slot : Nat
  event : Event

/-- Stored events by time and number. -/
abbrev Timeline := List StoredEvent

/-- Whether one stored event stands before another on a timeline. -/
def StoredEvent.Precedes (x y : StoredEvent) : Prop :=
  x.event.time < y.event.time ∨ x.event.time = y.event.time ∧ x.slot < y.slot

instance (x y : StoredEvent) : Decidable (x.Precedes y) :=
  inferInstanceAs (Decidable (_ ∨ _))

/-- A stretch of consecutive places in a list: those from `start` on that lie before `stop`. -/
structure Frame where
  start : Nat
  stop : Nat
  start_le_stop : start ≤ stop := by omega

/-- The items of a list from one place on that lie before another. -/
def segment {α : Type} (start stop : Nat) (l : List α) : List α := (l.take stop).drop start

/-- The items of a list in a frame. -/
def Frame.of {α : Type} (f : Frame) (l : List α) : List α := segment f.start f.stop l

/-- How many items at the front of a list satisfy a test. -/
def leading {α : Type} (test : α → Bool) : List α → Nat
  | [] => 0
  | a :: rest => if test a then leading test rest + 1 else 0

namespace Timeline

/-- Put an event behind all that are not later than it. -/
def insert (x : StoredEvent) : Timeline → Timeline
  | [] => [x]
  | y :: rest => if y.event.time ≤ x.event.time then y :: insert x rest else x :: y :: rest

/-- The events of either of two timelines, a shared one once. -/
def union : Timeline → Timeline → Timeline
  | [], t => t
  | s, [] => s
  | x :: s, y :: t =>
    if x.slot = y.slot then x :: union s t
    else if x.Precedes y then x :: union s (y :: t)
    else y :: union (x :: s) t
termination_by s t => s.length + t.length

/-- The instants of a timeline. -/
def times (t : Timeline) : List Instant := t.map fun x => x.event.time

/-- The frame of the events that lie between bounds. Bounds that exclude each other give an empty
frame. -/
def frame (t : Timeline) (b : Bounds) : Frame :=
  let start := leading (fun x => b.isBefore x.event.time) t
  let stop := leading (fun x => b.reaches x.event.time) t
  ⟨start, max start stop, Nat.le_max_left start stop⟩

/-- The events of a timeline that lie between bounds. -/
def slice (t : Timeline) (b : Bounds) : Timeline := (t.frame b).of t

/-- A timeline with one more event has that event and those from before. -/
@[simp] theorem mem_insert {x y : StoredEvent} {t : Timeline} :
    y ∈ insert x t ↔ y = x ∨ y ∈ t := by
  induction t with
  | nil => simp [insert]
  | cons z rest ih =>
    simp only [insert]
    split
    · simp only [List.mem_cons, ih]; grind
    · simp

/-- A timeline with one more event is longer by one. -/
@[simp] theorem length_insert (x : StoredEvent) (t : Timeline) :
    (insert x t).length = t.length + 1 := by
  induction t with
  | nil => rfl
  | cons z rest ih =>
    simp only [insert]
    split
    · simp [ih]
    · rfl

/-- **Insertion keeps the order** if the new event has the greatest number. -/
theorem insert_ordered {x : StoredEvent} {t : Timeline}
    (ordered : t.Pairwise StoredEvent.Precedes) (newest : ∀ y ∈ t, y.slot < x.slot) :
    (insert x t).Pairwise StoredEvent.Precedes := by
  induction t with
  | nil => simp [insert]
  | cons z rest ih =>
    rw [List.pairwise_cons] at ordered
    simp only [insert]
    split
    · next notLater =>
      refine List.pairwise_cons.2
        ⟨fun y hy => ?_, ih ordered.2 fun y hy => newest y (List.mem_cons_of_mem _ hy)⟩
      rcases mem_insert.1 hy with rfl | hy
      · rcases Instant.lt_or_eq_of_le notLater with h | h
        · exact .inl h
        · exact .inr ⟨h, newest z List.mem_cons_self⟩
      · exact ordered.1 y hy
    · next later =>
      have first : x.event.time < z.event.time := Instant.lt_of_not_le later
      refine List.pairwise_cons.2 ⟨fun y hy => ?_, List.pairwise_cons.2 ordered⟩
      rcases List.mem_cons.1 hy with rfl | hy
      · exact .inl first
      · rcases ordered.1 y hy with h | h
        · exact .inl (Instant.lt_trans first h)
        · exact .inl (h.1 ▸ first)

end Timeline

end Hindsight
