import Hindsight.Observation.Sample
import Hindsight.Proofs.Time.Instant
import Mathlib.Data.List.Chain
import Mathlib.Order.Bounds.Basic

/-!
# Even steps over a history

From a millisecond before the first event of a history instants follow each other in steps, until
one lies a millisecond after the last event (`EvenSteps.evenlySpaced_instants`). The first and the
last of them stay within the range of instants (`EvenSteps.exists_shifted`), and the first comes
before the last wherever they are, so that all increase (`EvenSteps.covers_history`). A timeline has
the first and the last event of a history at its ends (`EvenSteps.covers_instantsOver`).
-/

namespace Hindsight

/-- The times of the events of an entity as its timeline lists them. -/
def IndexView.times (v : IndexView) (type id : String) : List Time.Instant :=
  (v.entityEvents type id).map Event.time

namespace EvenSteps

open Time (Instant)
open Time.Instant

/-- Instants that follow each other at one distance, in nanoseconds; the last may follow sooner. -/
def EvenlySpaced (distance : Int) : List Instant → Prop
  | s :: t :: u :: rest => t.nanos - s.nanos = distance ∧ EvenlySpaced distance (t :: u :: rest)
  | [s, t] => 0 < t.nanos - s.nanos ∧ t.nanos - s.nanos ≤ distance
  | _ => True

variable {s t stop first last : Instant} {ts : List Instant}

/-- Instants at a positive distance come one after the other, also those that are not neighbours.
Among leap seconds a distance would not say which comes first. -/
theorem EvenlySpaced.pairwise {distance : Int} (far : 0 < distance)
    (regular : ∀ t ∈ ts, ¬t.IsLeap) (h : EvenlySpaced distance ts) : ts.Pairwise (· < ·) := by
  rw [← List.isChain_iff_pairwise]
  fun_induction EvenlySpaced distance ts with
  | case1 s t u rest ih =>
    have gap := h.1
    refine .cons_cons ?_ (ih (fun t ht => regular t (List.mem_cons_of_mem _ ht)) h.2)
    rw [lt_iff_nanos (regular s (by simp)) (regular t (by simp))]
    omega
  | case2 s t =>
    refine .cons_cons ?_ (.singleton t)
    rw [lt_iff_nanos (regular s (by simp)) (regular t (by simp))]
    have gap := h.1
    omega
  | case3 ts short long =>
    match ts with
    | [] => exact .nil
    | [t] => exact .singleton t
    | [s, t] => exact absurd rfl (long s t)
    | s :: t :: u :: rest => exact absurd rfl (short s t u rest)

section Instants

variable (ms : Int) (positive : 0 < ms)

/-- Before the end a step is taken at the instant itself, and the rest follows from the instant
after it. -/
theorem instants_of_lt (before : t < stop) :
    ∃ rest, instants ms positive stop t = t :: rest := by
  rw [instants, dif_pos before]
  split <;> exact ⟨_, rfl⟩

/-- From the end on no step is taken. The end itself is added by what calls this. -/
theorem instants_of_not_lt (reached : ¬t < stop) : instants ms positive stop t = [] := by
  rw [instants, dif_neg reached]

/-- **Steps that reach the end** are even, but for the last, which the end cuts short. By induction
on the steps that are left. -/
theorem evenlySpaced_instants (hstop : ¬stop.IsLeap) (ht : ¬t.IsLeap) (before : t < stop) :
    EvenlySpaced (ms * 1000000) (instants ms positive stop t ++ [stop]) ∧
      ∀ u ∈ instants ms positive stop t ++ [stop], ¬u.IsLeap := by
  fun_induction instants ms positive stop t with
  | case1 t _ u next ih =>
    obtain ⟨hu, reached⟩ := (addMillis_eq_some_iff ht).1 next
    by_cases more : u < stop
    · obtain ⟨spaced, regular⟩ := ih hu more
      obtain ⟨rest, steps⟩ := instants_of_lt ms positive more
      rw [steps] at spaced regular ⊢
      refine ⟨?_, List.forall_mem_cons.2 ⟨ht, regular⟩⟩
      have gap : u.nanos - t.nanos = ms * 1000000 := by omega
      cases rest with
      | nil => exact ⟨gap, spaced⟩
      | cons v rest => exact ⟨gap, spaced⟩
    · rw [instants_of_not_lt ms positive more]
      rw [lt_iff_nanos hu hstop] at more
      rw [lt_iff_nanos ht hstop] at before
      refine ⟨⟨by omega, by omega⟩, by simp [ht, hstop]⟩
  | case2 t _ out =>
    -- beyond the last instant there is no event either
    have outside := (addMillis_eq_none_iff ht).1 out
    have above := earliest_le_nanos t
    have below := nanos_le_latest hstop
    rw [lt_iff_nanos ht hstop] at before
    exact ⟨⟨by omega, by omega⟩, by simp [ht, hstop]⟩
  | case3 t reached => exact absurd before reached

end Instants

/-- An instant that is moved by some milliseconds stays where it is rather than leave the range.
Near the end of the range the steps therefore stop. -/
theorem exists_shifted (ht : ¬t.IsLeap) (ms : Int) :
    ∃ u, (t.addMillis ms).getD t = u ∧ ¬u.IsLeap ∧
      (u.nanos = t.nanos + ms * 1000000 ∨ u = t ∧
        (t.nanos + ms * 1000000 < earliest.nanos ∨ latest.nanos < t.nanos + ms * 1000000)) := by
  cases added : t.addMillis ms with
  | some u =>
    obtain ⟨hu, reached⟩ := (addMillis_eq_some_iff ht).1 added
    exact ⟨u, rfl, hu, .inl reached⟩
  | none => exact ⟨t, rfl, ht, .inr ⟨rfl, (addMillis_eq_none_iff ht).1 added⟩⟩

/-- **Instants cover a history** if they increase and the last of them is a millisecond after the
last event. With a unit the first is a millisecond before the first event, and they are spaced
evenly; without one there is but the last. The first instant that there is stands for a millisecond
before itself, and the last one for a millisecond after itself. -/
structure Covers (steps : EvenSteps) (first last : Instant) (ts : List Instant) : Prop where
  regular : ∀ t ∈ ts, ¬t.IsLeap
  increasing : ts.Pairwise (· < ·)
  stop : ∃ stop, ts.getLast? = some stop ∧
    (last.nanos + 1000000 ≤ latest.nanos → stop.nanos = last.nanos + 1000000) ∧
      (last = latest → stop = latest)
  start : ∀ unit ∈ steps.unit, ∃ start, ts.head? = some start ∧
    (earliest.nanos ≤ first.nanos - 1000000 → start.nanos = first.nanos - 1000000) ∧
      (first = earliest → start = earliest)
  spaced : ∀ unit ∈ steps.unit, EvenlySpaced (steps.count * unit.millis * 1000000) ts
  single : steps.unit = none → ts.length = 1

/-- The step of a rule is as long as its units, once it is known to fit. A rule without a unit takes
no steps. -/
theorem step_eq_ok {steps : EvenSteps} (positive : 1 ≤ steps.count)
    (fits : ∀ unit ∈ steps.unit, (unit.length? steps.count).isSome = true) :
    ∃ step, steps.step = .ok step ∧
      step.map Subtype.val = steps.unit.map fun unit => steps.count * unit.millis := by
  rw [step]
  cases given : steps.unit with
  | none => exact ⟨none, rfl, rfl⟩
  | some unit =>
    obtain ⟨ms, length⟩ := Option.isSome_iff_exists.1 (fits unit given)
    obtain ⟨-, rfl⟩ := Time.TimeUnit.length?_eq_some_iff.1 length
    have longer : 0 < steps.count * unit.millis := unit.mul_millis_pos positive
    exact ⟨some ⟨_, longer⟩, by simp only [length, dif_pos longer], rfl⟩

/-- **The instants for a history** cover it: they start at the first instant, end at the last and
are even in between. -/
theorem covers_history {steps : EvenSteps} {step : Option { ms : Int // 0 < ms }}
    (long : step.map Subtype.val = steps.unit.map fun unit => steps.count * unit.millis)
    (hfirst : ¬first.IsLeap) (hlast : ¬last.IsLeap) (le : first ≤ last) :
    steps.Covers first last (history step first last) := by
  obtain ⟨start, start_eq, hstart, start_at⟩ := exists_shifted hfirst (-1)
  obtain ⟨stop, stop_eq, hstop, stop_at⟩ := exists_shifted hlast 1
  have wide : earliest.nanos + 2000000 < latest.nanos := by decide
  have inside (t : Instant) (ht : ¬t.IsLeap) :
      earliest.nanos ≤ t.nanos ∧ t.nanos ≤ latest.nanos :=
    ⟨earliest_le_nanos t, nanos_le_latest ht⟩
  have first_in := inside first hfirst
  have last_in := inside last hlast
  have before : start < stop := by
    rw [le_iff_nanos hfirst hlast] at le
    rw [lt_iff_nanos hstart hstop]
    rcases start_at with start_at | ⟨rfl, at_start⟩ <;>
      rcases stop_at with stop_at | ⟨rfl, at_stop⟩ <;> omega
  have starts : (earliest.nanos ≤ first.nanos - 1000000 →
      start.nanos = first.nanos - 1000000) ∧ (first = earliest → start = earliest) := by
    have start_in := inside start hstart
    rcases start_at with moved | ⟨rfl, stays⟩
    · refine ⟨fun _ => by omega, ?_⟩
      rintro rfl
      omega
    · exact ⟨fun _ => by omega, id⟩
  have ends : (last.nanos + 1000000 ≤ latest.nanos → stop.nanos = last.nanos + 1000000) ∧
      (last = latest → stop = latest) := by
    have stop_in := inside stop hstop
    rcases stop_at with moved | ⟨rfl, stays⟩
    · refine ⟨fun _ => by omega, ?_⟩
      rintro rfl
      omega
    · exact ⟨fun _ => by omega, id⟩
  cases step with
  | none =>
    have none : steps.unit = none := Option.map_eq_none_iff.1 long.symm
    rw [history, stop_eq]
    exact ⟨by simp [hstop], List.pairwise_singleton .., ⟨stop, rfl, ends⟩, by simp [none],
      by simp [none], fun _ => rfl⟩
  | some ms =>
    obtain ⟨unit, given, eq⟩ := Option.map_eq_some_iff.1 long.symm
    obtain ⟨spaced, regular⟩ := evenlySpaced_instants ms.1 ms.2 hstop hstart before
    obtain ⟨rest, steps_eq⟩ := instants_of_lt ms.1 ms.2 before
    rw [history, start_eq, stop_eq]
    refine ⟨regular, spaced.pairwise (by have := ms.2; omega) regular,
      ⟨stop, List.getLast?_concat, ends⟩, fun _ _ => ⟨start, ?_, starts⟩, fun unit' given' => ?_,
      fun none => ?_⟩
    · rw [steps_eq]
      rfl
    · obtain rfl : unit = unit' := Option.some.inj (given.symm.trans given')
      rw [eq]
      exact spaced
    · rw [none] at given
      cases given

/-- The instants for the times of some events. -/
def instantsOver (step : Option { ms : Int // 0 < ms }) : List Instant → List Instant
  | [] => []
  | first :: rest => history step first ((rest.getLast?).getD first)

/-- **The instants for times in order** cover them from the first to the last. What lies between the
two does not matter. -/
theorem covers_instantsOver {steps : EvenSteps} {step : Option { ms : Int // 0 < ms }}
    (long : step.map Subtype.val = steps.unit.map fun unit => steps.count * unit.millis)
    (inOrder : ts.Pairwise (· ≤ ·)) (nonempty : ts ≠ []) :
    ∃ first last, IsLeast {t | t ∈ ts} first ∧ IsGreatest {t | t ∈ ts} last ∧
      (¬first.IsLeap → ¬last.IsLeap → steps.Covers first last (instantsOver step ts)) := by
  obtain ⟨first, rest, rfl⟩ := List.exists_cons_of_ne_nil nonempty
  have least : IsLeast {t | t ∈ first :: rest} first := by
    refine ⟨List.mem_cons_self, fun t ht => ?_⟩
    rcases List.mem_cons.1 ht with rfl | ht
    · exact le_refl t
    · exact (List.pairwise_cons.1 inOrder).1 t ht
  have at_end : (first :: rest).getLast? = some ((rest.getLast?).getD first) :=
    List.getLast?_cons
  have greatest : IsGreatest {t | t ∈ first :: rest} ((rest.getLast?).getD first) := by
    refine ⟨List.mem_of_getLast? at_end, fun t ht => ?_⟩
    obtain ⟨front, eq⟩ := List.getLast?_eq_some_iff.1 at_end
    rw [eq] at inOrder
    rcases List.mem_append.1 (eq ▸ (ht : t ∈ first :: rest)) with ht | ht
    · exact (List.pairwise_append.1 inOrder).2.2 t ht _ List.mem_cons_self
    · exact (List.mem_singleton.1 ht).le
  exact ⟨first, _, least, greatest, fun hfirst hlast =>
    covers_history long hfirst hlast (least.2 greatest.1)⟩

/-- The points of an entity are those of the instants for its times. An entity without events has
none. -/
theorem ofEntity_eq (step : Option { ms : Int // 0 < ms }) (v : IndexView) (type id : String) :
    ofEntity v step type id =
      (instantsOver step (v.times type id)).map (ObservationPoint.create type id) := by
  rw [ofEntity, IndexView.times]
  cases v.entityEvents type id with
  | nil => rfl
  | cons e es =>
    have last : ((es.map Event.time).getLast?).getD e.time = ((es.getLast?).getD e).time := by
      rw [List.getLast?_map, Option.getD_map]
    rw [List.map_cons, instantsOver, last]

end EvenSteps
end Hindsight
