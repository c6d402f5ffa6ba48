import Hindsight.Proofs.Aggregate.Accumulator
import Hindsight.Proofs.Aggregate.Deque
import Hindsight.Proofs.Time.Instant

/-!
# The earliest and the latest input

Of inputs in the order of time the earliest is the first one and the latest is the last one
(`foldl_earlier`, `foldl_later`). So a deque that keeps all entries, or the newest one, has the
value of the accumulator of the same inputs (`MonotoneDeque.value_pushAll_positional`).
-/

namespace Hindsight

/-- The functions that pick an input by its time. -/
def AggregateFunction.isPositional : AggregateFunction → Bool
  | first | last | timeOfFirst | timeOfLast | timeOfNext => true
  | _ => false

/-- Inputs in the order of time. -/
def InOrderOfTime (is : List Input) : Prop := is.Pairwise fun i j => i.time ≤ j.time

instance (is : List Input) : Decidable (InOrderOfTime is) :=
  inferInstanceAs (Decidable (is.Pairwise _))

/-- **The earliest of inputs in the order of time is the first.** Of those at one time the one held
stays, so the first to come is kept. -/
theorem foldl_earlier {is : List Input} (sorted : InOrderOfTime is) :
    is.foldl earlier none = is.head? := by
  have held (i : Input) {js : List Input} (later : ∀ j ∈ js, i.time ≤ j.time) :
      js.foldl earlier (some i) = some i := by
    induction js with
    | nil => rfl
    | cons j js ih =>
      have stays : earlier (some i) j = some i :=
        if_neg (not_lt.2 (later j List.mem_cons_self))
      rw [List.foldl_cons, stays]
      exact ih fun k hk => later k (List.mem_cons_of_mem _ hk)
  cases is with
  | nil => rfl
  | cons i is => exact held i (List.pairwise_cons.1 sorted).1

/-- **The latest of inputs in the order of time is the last.** Of those at one time the new one is
taken, so the last to come is kept. -/
theorem foldl_later {is : List Input} (sorted : InOrderOfTime is) :
    is.foldl later none = is.getLast? := by
  induction is using List.reverseRecOn with
  | nil => rfl
  | append_singleton is i ih =>
    obtain ⟨sorted_front, -, before⟩ := List.pairwise_append.1 sorted
    rw [List.foldl_append, ih sorted_front, List.getLast?_append]
    cases h : is.getLast? with
    | none => rfl
    | some j =>
      exact if_pos (before j (List.mem_of_getLast? h) i List.mem_cons_self)

namespace MonotoneDeque

/-- A deque that keeps everything holds what was pushed, in the order of the pushes. -/
theorem entries_pushAll_all {d : MonotoneDeque} (h : d.retention = .all) (es : List DequeEntry) :
    (d.clear.pushAll es).entries = es := by
  induction es using List.reverseRecOn with
  | nil => rfl
  | append_singleton es e ih =>
    have keeps : (d.clear.pushAll es).retention = .all := (retention_pushAll _ _).trans h
    rw [pushAll_concat, entries_push, keeps, kept, ih]

/-- A deque that keeps the newest holds the last entry that was pushed, if there was one. -/
theorem entries_pushAll_newest {d : MonotoneDeque} (h : d.retention = .newest)
    (es : List DequeEntry) : (d.clear.pushAll es).entries = es.getLast?.toList := by
  induction es using List.reverseRecOn with
  | nil => rfl
  | append_singleton es e ih =>
    have keeps : (d.clear.pushAll es).retention = .newest := (retention_pushAll _ _).trans h
    rw [pushAll_concat, entries_push, keeps, kept, List.getLast?_concat]
    rfl

/-- The entry in front of a deque that keeps everything is the first one that was pushed. -/
theorem winner?_pushAll_all {d : MonotoneDeque} (h : d.retention = .all) (es : List DequeEntry) :
    (d.clear.pushAll es).winner? = es.head? := by
  have keeps : (d.clear.pushAll es).retention = .all := (retention_pushAll _ _).trans h
  rw [winner?, keeps, entries_pushAll_all h]

/-- The entry in front of a deque that keeps the newest is the last one that was pushed. -/
theorem winner?_pushAll_newest {d : MonotoneDeque} (h : d.retention = .newest)
    (es : List DequeEntry) : (d.clear.pushAll es).winner? = es.getLast? := by
  have keeps : (d.clear.pushAll es).retention = .newest := (retention_pushAll _ _).trans h
  rw [winner?, keeps, entries_pushAll_newest h]
  cases es.getLast? <;> rfl

/-- What a function shows of the input that decides it: the time or the value, null without one. -/
def shown (f : AggregateFunction) (held : Option Input) : Value :=
  if f.isTimeValued then Accumulator.heldTime held else Accumulator.heldValue held

/-- The value of a deque is what its function shows of the entry in front: its value or its time. -/
theorem value_eq_shown (d : MonotoneDeque) :
    d.value = shown d.function (d.winner?.map DequeEntry.input) := by
  rw [value, shown]
  cases d.winner? with
  | none => cases d.function.isTimeValued <;> rfl
  | some e => rfl

/-- A deque that keeps all entries shows the first one, whatever was pushed behind it. -/
theorem value_pushAll_all (f : AggregateFunction) (es : List DequeEntry) :
    ((⟨f, .all, []⟩ : MonotoneDeque).pushAll es).value =
      shown f (es.head?.map DequeEntry.input) := by
  have first : ((⟨f, .all, []⟩ : MonotoneDeque).pushAll es).winner? = es.head? :=
    winner?_pushAll_all (d := ⟨f, .all, []⟩) rfl es
  rw [value_eq_shown, first, function_pushAll]

/-- A deque that keeps the newest entry shows the last one, for each push drops what was there. -/
theorem value_pushAll_newest (f : AggregateFunction) (es : List DequeEntry) :
    ((⟨f, .newest, []⟩ : MonotoneDeque).pushAll es).value =
      shown f (es.getLast?.map DequeEntry.input) := by
  have last : ((⟨f, .newest, []⟩ : MonotoneDeque).pushAll es).winner? = es.getLast? :=
    winner?_pushAll_newest (d := ⟨f, .newest, []⟩) rfl es
  rw [value_eq_shown, last, function_pushAll]

/-- **A deque of positions has the value of the accumulator** of the same inputs, which come in the
order of time. -/
theorem value_pushAll_positional {f : AggregateFunction} {r : Retention}
    (positional : f.isPositional = true) (hr : f.retention? = some r) {es : List DequeEntry}
    (sorted : InOrderOfTime (es.map DequeEntry.input)) :
    ((⟨f, r, []⟩ : MonotoneDeque).pushAll es).value =
      ((es.map DequeEntry.input).foldl Accumulator.absorb (.empty f)).value := by
  have earliest := foldl_earlier sorted
  have latest := foldl_later sorted
  rw [List.head?_map] at earliest
  rw [List.getLast?_map] at latest
  cases f with
  | first =>
    cases hr
    rw [value_pushAll_all, Accumulator.empty,
      List.foldl_hom (Accumulator.first)
        (fun held i => (rfl : (Accumulator.first held).absorb i = _)), earliest]
    rfl
  | timeOfFirst =>
    cases hr
    rw [value_pushAll_all, Accumulator.empty,
      List.foldl_hom (Accumulator.timeOfFirst) fun held i =>
        (rfl : (Accumulator.timeOfFirst held).absorb i = _), earliest]
    rfl
  | timeOfNext =>
    cases hr
    rw [value_pushAll_all, Accumulator.empty,
      List.foldl_hom (Accumulator.timeOfNext) fun held i =>
        (rfl : (Accumulator.timeOfNext held).absorb i = _), earliest]
    rfl
  | last =>
    cases hr
    rw [value_pushAll_newest, Accumulator.empty,
      List.foldl_hom (Accumulator.last)
        (fun held i => (rfl : (Accumulator.last held).absorb i = _)), latest]
    rfl
  | timeOfLast =>
    cases hr
    rw [value_pushAll_newest, Accumulator.empty,
      List.foldl_hom (Accumulator.timeOfLast) fun held i =>
        (rfl : (Accumulator.timeOfLast held).absorb i = _), latest]
    rfl
  | _ => cases positional

end MonotoneDeque
end Hindsight
