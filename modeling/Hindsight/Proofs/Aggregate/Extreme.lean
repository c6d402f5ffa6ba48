import Hindsight.Proofs.Aggregate.Accumulator
import Hindsight.Proofs.Aggregate.Deque
import Hindsight.Proofs.Value.Order
import Mathlib.Data.List.DropRight

/-!
# The least and the greatest value

Among ordinal values, to be better is a strict order (`Extreme.wins_trans`), and of values that
compare with each other the best one is as good as each of them (`Extreme.dominates_best`). What the
best so far becomes with further values is decided by whether one of them is better
(`Extreme.foldl_offer`).
-/

namespace Hindsight

/-- Values of kinds that are linearly ordered. -/
def Ordinals (vs : List Value) : Prop := ∀ v ∈ vs, v.isOrdinal = true

namespace Extreme

open MonotoneDeque (dominates)

variable {x : Extreme} {b u v w : Value} {vs : List Value}

/-- To be better is to compare in the wanted direction. -/
theorem wins_iff : x.wins v w = true ↔ v.compare w = some x.wanted := by
  rw [wins, beq_iff_eq]

/-- What is better than something better is better, among values of ordered kinds. -/
theorem wins_trans (hu : u.isOrdinal = true) (hv : v.isOrdinal = true) (hw : w.isOrdinal = true)
    (h : x.wins u v = true) (h' : x.wins v w = true) : x.wins u w = true :=
  wins_iff.2 (Value.compare_trans hu hv hw (wins_iff.1 h) (wins_iff.1 h'))

/-- No value is better than itself. -/
theorem not_wins_self (hv : v.isOrdinal = true) : x.wins v v = false := by
  rw [wins, Value.compare_self hv]
  cases x <;> rfl

/-- **A value dominates another if it is better or the same.** Among ordered kinds values that
compare as equal are the same, so there is no third case. -/
theorem dominates_iff (hv : v.isOrdinal = true) (hw : w.isOrdinal = true) :
    dominates x v w = true ↔ x.wins v w = true ∨ v = w := by
  rw [dominates, wins_iff]
  constructor
  · intro h
    split at h
    · next o compared =>
      rw [Bool.or_eq_true, beq_iff_eq, beq_iff_eq] at h
      rcases h with rfl | rfl
      · exact .inl compared
      · exact .inr (Value.eq_of_compare hv hw compared)
    · cases h
  · rintro (better | rfl)
    · simp [better]
    · simp [Value.compare_self hv]

/-- What dominates a value that dominates a third one dominates the third, since to dominate is to
be better or the same. -/
theorem dominates_trans (hu : u.isOrdinal = true) (hv : v.isOrdinal = true)
    (hw : w.isOrdinal = true) (h : dominates x u v = true) (h' : dominates x v w = true) :
    dominates x u w = true := by
  rw [dominates_iff hu hv] at h
  rw [dominates_iff hv hw] at h'
  rw [dominates_iff hu hw]
  rcases h with better | rfl
  · rcases h' with better' | rfl
    · exact .inl (wins_trans hu hv hw better better')
    · exact .inl better
  · exact h'

/-- Only values that compare dominate one another. So pruning stops at a value of another kind,
whatever lies in front of it. -/
theorem comparable_of_dominates (h : dominates x v w = true) : v.Comparable w := by
  intro none
  rw [dominates, none] at h
  cases h

/-- Of two values that compare with each other one dominates the other: if the first is not better,
the second is better or they are the same. -/
theorem dominates_of_not_wins (hv : v.isOrdinal = true) (hw : w.isOrdinal = true)
    (comparable : v.Comparable w) (h : x.wins v w = false) : dominates x w v = true := by
  obtain ⟨o, compared⟩ := Option.ne_none_iff_exists'.1 comparable
  rw [wins, compared] at h
  rw [dominates, Value.compare_swap hv hw, compared]
  cases x <;> cases o <;> first | rfl | cases h

/-- A value that is dominated is not better. -/
theorem not_wins_of_dominates (hv : v.isOrdinal = true) (hw : w.isOrdinal = true)
    (h : dominates x v w = true) : x.wins w v = false := by
  refine Bool.eq_false_of_not_eq_true fun better => ?_
  rcases (dominates_iff hv hw).1 h with better' | rfl
  · have self := wins_trans hv hw hv better' better
    rw [not_wins_self hv] at self
    cases self
  · rw [not_wins_self hv] at better
    cases better

/-- The best of some values. -/
def best (x : Extreme) (vs : List Value) : Option Value := vs.foldl x.offer none

/-- The best with one more value is the better of the best so far and that value. -/
theorem best_concat (vs : List Value) (v : Value) :
    x.best (vs ++ [v]) = x.offer (x.best vs) v := by
  rw [best, List.foldl_append]
  rfl

/-- The best of some values is one of them. -/
theorem mem_of_best_eq_some (h : x.best vs = some b) : b ∈ vs := by
  induction vs using List.reverseRecOn generalizing b with
  | nil => cases h
  | append_singleton vs v ih =>
    rw [best_concat] at h
    cases hbest : x.best vs with
    | none =>
      rw [hbest, offer, Option.some.injEq] at h
      simp [h]
    | some c =>
      rw [hbest, offer] at h
      split at h
      · rw [Option.some.injEq] at h
        simp [h]
      · exact List.mem_append_left _ (ih (hbest.trans h))

/-- Some value is the best, if there are any, even of values that do not compare: then the first one
stays. -/
theorem best_eq_none_iff : x.best vs = none ↔ vs = [] := by
  induction vs using List.reverseRecOn with
  | nil => simp [best]
  | append_singleton vs v _ =>
    rw [best_concat]
    cases x.best vs with
    | none => simp [offer]
    | some c => cases better : x.wins v c <;> simp [offer, better]

/-- **The best is as good as each** of some values that compare with each other, by induction from
the end: the next value takes the place of the best if it is better, and is dominated by it
otherwise. -/
theorem dominates_best (ordinal : Ordinals vs) (comparable : ∀ v ∈ vs, ∀ w ∈ vs, v.Comparable w)
    (h : x.best vs = some b) : ∀ v ∈ vs, dominates x b v = true := by
  induction vs using List.reverseRecOn generalizing b with
  | nil => simp
  | append_singleton vs v ih =>
    have old : ∀ {u}, u ∈ vs → u ∈ vs ++ [v] := List.mem_append_left _
    have new : v ∈ vs ++ [v] := List.mem_append_right _ List.mem_cons_self
    rw [best_concat] at h
    cases hbest : x.best vs with
    | none =>
      rw [hbest, offer, Option.some.injEq] at h
      rw [best_eq_none_iff.1 hbest, ← h]
      simpa using (dominates_iff (ordinal v new) (ordinal v new)).2 (.inr rfl)
    | some c =>
      have c_mem := old (mem_of_best_eq_some hbest)
      have c_best := ih (fun u hu => ordinal u (old hu))
        (fun u hu w hw => comparable u (old hu) w (old hw)) hbest
      rw [hbest, offer] at h
      intro u hu
      split at h
      · next better =>
        obtain rfl := Option.some.inj h
        have over_c : dominates x v c = true :=
          (dominates_iff (ordinal v new) (ordinal c c_mem)).2 (.inl better)
        rcases List.mem_append.1 hu with hu' | hu'
        · exact dominates_trans (ordinal v new) (ordinal c c_mem) (ordinal u hu) over_c
            (c_best u hu')
        · rw [List.mem_singleton.1 hu']
          exact (dominates_iff (ordinal v new) (ordinal v new)).2 (.inr rfl)
      · next worse =>
        obtain rfl := Option.some.inj h
        rcases List.mem_append.1 hu with hu' | hu'
        · exact c_best u hu'
        · rw [List.mem_singleton.1 hu']
          exact dominates_of_not_wins (ordinal v new) (ordinal c c_mem)
            (comparable v new c c_mem) (Bool.eq_false_of_not_eq_true worse)

/-- **What further values make of the best so far:** it stays if none of them is better, and gives
way to a better one otherwise. -/
theorem foldl_offer (hb : b.isOrdinal = true) (ordinal : Ordinals vs) :
    ∃ c, vs.foldl x.offer (some b) = some c ∧
      (c = b ∧ (∀ v ∈ vs, x.wins v b = false) ∨ c.isOrdinal = true ∧ x.wins c b = true) := by
  induction vs generalizing b with
  | nil => exact ⟨b, rfl, .inl ⟨rfl, by simp⟩⟩
  | cons v vs ih =>
    have hv := ordinal v List.mem_cons_self
    have rest : Ordinals vs := fun u hu => ordinal u (List.mem_cons_of_mem _ hu)
    rw [List.foldl_cons, offer]
    by_cases better : x.wins v b = true
    · rw [if_pos better]
      obtain ⟨c, hc, ⟨rfl, -⟩ | ⟨ordinal_c, better'⟩⟩ := ih hv rest
      · exact ⟨c, hc, .inr ⟨hv, better⟩⟩
      · exact ⟨c, hc, .inr ⟨ordinal_c, wins_trans ordinal_c hv hb better' better⟩⟩
    · rw [if_neg better]
      obtain ⟨c, hc, ⟨rfl, none_better⟩ | better'⟩ := ih hb rest
      · refine ⟨c, hc, .inl ⟨rfl, ?_⟩⟩
        exact List.forall_mem_cons.2 ⟨Bool.eq_false_of_not_eq_true better, none_better⟩
      · exact ⟨c, hc, .inr better'⟩

/-- **The best so far stays** just if no further value is better. One that is better replaces it,
and whatever comes later can only be better than that. -/
theorem foldl_offer_eq_iff (hb : b.isOrdinal = true) (ordinal : Ordinals vs) :
    vs.foldl x.offer (some b) = some b ↔ ∀ v ∈ vs, x.wins v b = false := by
  constructor
  · intro stays
    obtain ⟨c, hc, ⟨-, none_better⟩ | ⟨-, better⟩⟩ := foldl_offer hb ordinal (x := x)
    · exact none_better
    · rw [hc, Option.some.injEq] at stays
      rw [stays, not_wins_self hb] at better
      cases better
  · intro none_better
    induction vs with
    | nil => rfl
    | cons v vs ih =>
      rw [List.foldl_cons, offer, none_better v List.mem_cons_self]
      exact ih (fun u hu => ordinal u (List.mem_cons_of_mem _ hu))
        fun u hu => none_better u (List.mem_cons_of_mem _ hu)

end Extreme

/-- The accumulator of a least or greatest value has the best of the values that count, or null if
there is none. So what is known of the best is known of the accumulator. -/
theorem Accumulator.value_ofInputs_best {f : AggregateFunction} {x : Extreme}
    (hf : f.retention? = some (.best x)) (is : List Input) :
    (ofInputs f is).value = (x.best ((counted is).map Input.value)).getD .null := by
  rw [ofInputs]
  cases f with
  | min =>
    cases hf
    rw [empty, foldl_absorb_of_values Accumulator.min fun _ _ => rfl]
    rfl
  | max =>
    cases hf
    rw [empty, foldl_absorb_of_values Accumulator.max fun _ _ => rfl]
    rfl
  | _ => cases hf

end Hindsight
