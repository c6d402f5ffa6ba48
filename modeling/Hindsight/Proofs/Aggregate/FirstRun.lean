import Hindsight.Proofs.Aggregate.Extreme

/-!
# What a deque of extremes holds when kinds are mixed

Of values that compare with each other the deque keeps the best in front
(`MonotoneDeque.head_pushAll_of_comparable`). But pruning looks at the end only, and stops at a
value that does not compare with the new one. So once a value of another kind has come, what lies in
front of it is never pruned again (`MonotoneDeque.entries_pushAll_apart`), and the deque comes to
the best of the first run of comparable values (`MonotoneDeque.value_pushAll_best`), whatever comes
later.
-/

namespace Hindsight

namespace Value

/-- The values at the front that compare with the first one. -/
def firstRun : List Value → List Value
  | [] => []
  | v :: vs => v :: vs.takeWhile fun w => decide (w.Comparable v)

/-- The values after the first run. -/
def afterRun : List Value → List Value
  | [] => []
  | v :: vs => vs.dropWhile fun w => decide (w.Comparable v)

/-- The first run and the values after it are all values, in their order. -/
theorem firstRun_append_afterRun (vs : List Value) : firstRun vs ++ afterRun vs = vs := by
  cases vs with
  | nil => rfl
  | cons v vs => rw [firstRun, afterRun, List.cons_append, List.takeWhile_append_dropWhile]

/-- Only where there are no values is the first run empty. -/
theorem firstRun_eq_nil_iff {vs : List Value} : firstRun vs = [] ↔ vs = [] := by
  cases vs <;> simp [firstRun]

/-- The values of the first run are of ordered kinds if all values are. -/
theorem ordinals_firstRun {vs : List Value} (ordinal : Ordinals vs) : Ordinals (firstRun vs) :=
  fun v hv => ordinal v (firstRun_append_afterRun vs ▸ List.mem_append_left _ hv)

/-- The values after the first run are of ordered kinds if all values are. -/
theorem ordinals_afterRun {vs : List Value} (ordinal : Ordinals vs) : Ordinals (afterRun vs) :=
  fun v hv => ordinal v (firstRun_append_afterRun vs ▸ List.mem_append_right _ hv)

/-- Each value of the first run compares with the value in front, which compares with itself. -/
theorem comparable_head {v : Value} {vs : List Value} (hv : v.isOrdinal = true) :
    ∀ w ∈ firstRun (v :: vs), w.Comparable v := by
  intro w hw
  rcases List.mem_cons.1 hw with rfl | hw
  · rw [Comparable, compare_self hv]
    exact Option.some_ne_none _
  · have passes := List.mem_takeWhile_imp hw
    exact of_decide_eq_true passes

/-- The values of the first run compare with each other, because each compares with the first value
and comparing goes from one to the other among ordered kinds. -/
theorem comparable_of_mem_firstRun {vs : List Value} (ordinal : Ordinals vs) :
    ∀ v ∈ firstRun vs, ∀ w ∈ firstRun vs, v.Comparable w := by
  cases vs with
  | nil => simp [Value.firstRun]
  | cons u vs =>
    intro v hv w hw
    have hu := ordinal u List.mem_cons_self
    have same_kind := (comparable_head hu w hw).symm (ordinals_firstRun ordinal w hw) hu
    exact (comparable_head hu v hv).trans (ordinals_firstRun ordinal v hv) hu
      (ordinals_firstRun ordinal w hw) same_kind

/-- The value after the first run compares with none in it, for if it compared with one it would
compare with the first value and belong to the run. -/
theorem not_comparable_of_head?_afterRun {vs : List Value} (ordinal : Ordinals vs) {w : Value}
    (hw : w ∈ (afterRun vs).head?) : ∀ v ∈ firstRun vs, ¬w.Comparable v := by
  cases vs with
  | nil => cases hw
  | cons u vs =>
    intro v hv same_kind
    have hu := ordinal u List.mem_cons_self
    have stops := List.head?_dropWhile_not (fun w => decide (w.Comparable u)) vs
    rw [Option.mem_def, afterRun] at hw
    rw [hw] at stops
    have ordinal_w := ordinals_afterRun ordinal w (List.mem_of_mem_head? hw)
    exact of_decide_eq_false stops
      (same_kind.trans ordinal_w (ordinals_firstRun ordinal v hv) hu (comparable_head hu v hv))

end Value

namespace MonotoneDeque

open Value (Comparable firstRun afterRun)

variable {x : Extreme} {d : MonotoneDeque} {es : List DequeEntry}

/-- The values of entries. -/
def values (es : List DequeEntry) : List Value := es.map fun e => e.input.value

/-- The values of entries are the values of their inputs. -/
theorem mem_values {v : Value} : v ∈ values es ↔ ∃ e ∈ es, e.input.value = v := List.mem_map

/-- Pruning leaves nothing just if the new value dominates every entry. A single entry that is not
dominated keeps all entries in front of it. -/
theorem prune_eq_nil_iff {v : Value} :
    prune x v es = [] ↔ ∀ e ∈ es, dominates x v e.input.value = true :=
  List.rdropWhile_eq_nil_iff

/-- What pruning leaves starts as before, for entries are dropped at the end. So the entry in front
only changes when nothing is left. -/
theorem head?_prune {v : Value} (h : prune x v es ≠ []) : (prune x v es).head? = es.head? := by
  have is_front : prune x v es <+: es := List.rdropWhile_prefix _ _
  obtain ⟨back, hback⟩ := is_front
  calc (prune x v es).head? = (prune x v es ++ back).head? :=
        (List.head?_append_of_ne_nil _ h).symm
    _ = es.head? := by rw [hback]

/-- Nothing is pruned if the new value dominates none. It is enough that it does not dominate the
last entry, but this is the form that is needed. -/
theorem prune_eq_self {v : Value} (h : ∀ e ∈ es, dominates x v e.input.value = false) :
    prune x v es = es := by
  refine List.rdropWhile_eq_self_iff.2 fun nonempty => ?_
  rw [h _ (List.getLast_mem nonempty)]
  exact Bool.false_ne_true

/-- One more push prunes what is held after the others and puts the new entry behind what is
left. -/
theorem entries_clear_concat (hr : d.retention = .best x) (es : List DequeEntry) (e : DequeEntry) :
    (d.clear.pushAll (es ++ [e])).entries =
      prune x e.input.value (d.clear.pushAll es).entries ++ [e] := by
  have keeps : (d.clear.pushAll es).retention = .best x := (retention_pushAll _ _).trans hr
  rw [pushAll_concat, entries_push, keeps, kept]

/-- **Of comparable values the best is in front**, by induction on the pushes: a value that is
better than the one in front prunes everything, and any other leaves the front as it was. -/
theorem head_pushAll_of_comparable (hr : d.retention = .best x) (ordinal : Ordinals (values es))
    (comparable : ∀ v ∈ values es, ∀ w ∈ values es, v.Comparable w) :
    (d.clear.pushAll es).entries.head?.map (fun e => e.input.value) = x.best (values es) := by
  induction es using List.reverseRecOn with
  | nil => rfl
  | append_singleton es e ih =>
    have split : values (es ++ [e]) = values es ++ [e.input.value] := List.map_append
    rw [split] at ordinal comparable ⊢
    have old : ∀ {v}, v ∈ values es → v ∈ values es ++ [e.input.value] := List.mem_append_left _
    have new : e.input.value ∈ values es ++ [e.input.value] :=
      List.mem_append_right _ List.mem_cons_self
    have here := ih (fun v hv => ordinal v (old hv))
      fun v hv w hw => comparable v (old hv) w (old hw)
    rw [entries_clear_concat hr, Extreme.best_concat]
    cases hbest : x.best (values es) with
    | none =>
      rw [hbest, Option.map_eq_none_iff, List.head?_eq_none_iff] at here
      rw [here]
      rfl
    | some b =>
      rw [hbest] at here
      obtain ⟨front, hfront, rfl⟩ := Option.map_eq_some_iff.1 here
      have front_mem := old (Extreme.mem_of_best_eq_some hbest)
      have best := Extreme.dominates_best (fun v hv => ordinal v (old hv))
        (fun v hv w hw => comparable v (old hv) w (old hw)) hbest
      by_cases dominant : dominates x e.input.value front.input.value = true
      · -- The new value dominates the best and with it all that is in the deque.
        have all : prune x e.input.value (d.clear.pushAll es).entries = [] := by
          refine prune_eq_nil_iff.2 fun g hg => ?_
          have g_mem := mem_values.2 ⟨g, entries_pushAll_subset d es hg, rfl⟩
          exact Extreme.dominates_trans (ordinal _ new) (ordinal _ front_mem)
            (ordinal _ (old g_mem)) dominant (best _ g_mem)
        rw [all]
        rcases (Extreme.dominates_iff (ordinal _ new) (ordinal _ front_mem)).1 dominant with
          better | same
        · simp [Extreme.offer, better]
        · simp [Extreme.offer, same]
      · have stays : prune x e.input.value (d.clear.pushAll es).entries ≠ [] := fun none =>
          dominant (prune_eq_nil_iff.1 none front (List.mem_of_mem_head? hfront))
        have worse : x.wins e.input.value front.input.value = false := by
          refine Bool.eq_false_of_not_eq_true fun better => dominant ?_
          exact (Extreme.dominates_iff (ordinal _ new) (ordinal _ front_mem)).2 (.inl better)
        rw [List.head?_append_of_ne_nil _ stays, head?_prune stays, hfront]
        simp [Extreme.offer, worse]

/-- **What lies in front of a value of another kind stays.** Nothing that comes later reaches past
the entry of another kind, and what holds its place in the end is of that kind. So the deque falls
into two parts, each as if it were alone. -/
theorem entries_pushAll_apart (hr : d.retention = .best x) {old new : List DequeEntry}
    {e : DequeEntry} (ordinal : Ordinals (values (old ++ e :: new)))
    (apart : ∀ v ∈ values old, ¬e.input.value.Comparable v) :
    (d.clear.pushAll (old ++ e :: new)).entries =
        (d.clear.pushAll old).entries ++ (d.clear.pushAll (e :: new)).entries ∧
      ∃ h ∈ (d.clear.pushAll (e :: new)).entries.head?, e.input.value.Comparable h.input.value := by
  have ordinal_old : ∀ {v}, v ∈ values old → v.isOrdinal = true := fun hv =>
    ordinal _ (by simp only [values, List.map_append]; exact List.mem_append_left _ hv)
  have ordinal_e : e.input.value.isOrdinal = true := ordinal _ (by simp [values])
  -- A value of the kind of `e` dominates nothing in the front part.
  have front_stays {v : Value} (hv : v.isOrdinal = true) (kind : e.input.value.Comparable v) :
      prune x v (d.clear.pushAll old).entries = (d.clear.pushAll old).entries := by
    refine prune_eq_self fun g hg => Bool.eq_false_of_not_eq_true fun dominated => ?_
    have g_mem := mem_values.2 ⟨g, entries_pushAll_subset d old hg, rfl⟩
    exact apart _ g_mem (kind.trans ordinal_e hv (ordinal_old g_mem)
      (Extreme.comparable_of_dominates dominated))
  induction new using List.reverseRecOn with
  | nil =>
    have self : e.input.value.Comparable e.input.value := by
      rw [Comparable, Value.compare_self ordinal_e]
      exact Option.some_ne_none _
    have alone : (d.clear.pushAll [e]).entries = [e] := entries_clear_concat hr [] e
    rw [entries_clear_concat hr, front_stays ordinal_e self, alone]
    exact ⟨rfl, e, rfl, self⟩
  | append_singleton new g ih =>
    have ordinal_g : g.input.value.isOrdinal = true := ordinal _ (by simp [values])
    obtain ⟨split, h, hh, kind⟩ := ih fun v hv => ordinal v (by
      simp only [values, List.map_append, List.map_cons, List.mem_append, List.mem_cons] at hv ⊢
      tauto)
    have ordinal_h : h.input.value.isOrdinal = true := by
      have h_mem := entries_pushAll_subset d _ (List.mem_of_mem_head? hh)
      refine ordinal _ (mem_values.2 ⟨h, ?_, rfl⟩)
      simp only [List.mem_append, List.mem_cons] at h_mem ⊢
      tauto
    have whole := entries_clear_concat hr (old ++ e :: new) g
    have back := entries_clear_concat hr (e :: new) g
    rw [List.append_assoc, List.cons_append] at whole
    rw [List.cons_append] at back
    rw [whole, back, split, prune_append]
    split
    · next cleared =>
      have dominated := prune_eq_nil_iff.1 cleared h (List.mem_of_mem_head? hh)
      have kind_g : e.input.value.Comparable g.input.value := by
        refine kind.trans ordinal_e ordinal_h ordinal_g ?_
        exact (Extreme.comparable_of_dominates dominated).symm ordinal_g ordinal_h
      rw [front_stays ordinal_g kind_g, cleared]
      exact ⟨rfl, g, rfl, kind_g⟩
    · next left =>
      refine ⟨List.append_assoc _ _ _, h, ?_, kind⟩
      rw [List.head?_append_of_ne_nil _ left, head?_prune left]
      exact hh

/-- **A deque of extremes comes to the best of the first run** of values that compare with each
other. -/
theorem head_pushAll_eq_best_firstRun (hr : d.retention = .best x)
    (ordinal : Ordinals (values es)) :
    (d.clear.pushAll es).entries.head?.map (fun e => e.input.value) =
      x.best (firstRun (values es)) := by
  obtain ⟨run, others, rfl, values_run, values_others⟩ :=
    List.map_eq_append_iff.1 (Value.firstRun_append_afterRun (values es)).symm
  have front : (d.clear.pushAll run).entries.head?.map (fun e => e.input.value) =
      x.best (values run) := by
    refine head_pushAll_of_comparable hr ?_ ?_
    · rw [values, values_run]
      exact Value.ordinals_firstRun ordinal
    · rw [values, values_run]
      exact Value.comparable_of_mem_firstRun ordinal
  rw [← values_run]
  change _ = x.best (values run)
  rw [← front]
  cases others with
  | nil => rw [List.append_nil]
  | cons g later =>
    have apart : ∀ v ∈ values run, ¬g.input.value.Comparable v := by
      intro v hv
      refine Value.not_comparable_of_head?_afterRun ordinal ?_ v (values_run ▸ hv)
      rw [← values_others]
      rfl
    have some_front : (d.clear.pushAll run).entries ≠ [] := by
      intro none
      rw [none, List.head?_nil, Option.map_none, eq_comm, Extreme.best_eq_none_iff, values,
        values_run, Value.firstRun_eq_nil_iff] at front
      simp [values] at front
    rw [(entries_pushAll_apart hr ordinal apart).1, List.head?_append_of_ne_nil _ some_front]

/-- A function that keeps its best entries answers with values and not with times. -/
theorem isTimeValued_of_retention?_best {f : AggregateFunction}
    (hf : f.retention? = some (.best x)) : f.isTimeValued = false := by
  cases f <;> first | rfl | cases hf

/-- **The deque of a least or greatest value** has the best value of the first run. In front of the
deque stands the best of the run, and what came after the run stands behind it for good. -/
theorem value_pushAll_best {f : AggregateFunction} (hf : f.retention? = some (.best x))
    (ordinal : Ordinals (values es)) :
    ((⟨f, .best x, []⟩ : MonotoneDeque).pushAll es).value =
      (x.best (firstRun (values es))).getD .null := by
  let d : MonotoneDeque := ⟨f, .best x, []⟩
  have winner : (d.clear.pushAll es).winner? = (d.clear.pushAll es).entries.head? := by
    rw [winner?, retention_pushAll]
    rfl
  show (d.clear.pushAll es).value = _
  rw [← head_pushAll_eq_best_firstRun (d := d) rfl ordinal, value, winner, function_pushAll]
  cases (d.clear.pushAll es).entries.head? with
  | none => rfl
  | some e =>
    show (if f.isTimeValued then _ else _) = _
    rw [isTimeValued_of_retention?_best hf]
    rfl

end MonotoneDeque

/-- **The first run decides** just if no value is better than the best of the first run. Values of
other kinds are never better, so it is values of the same kind behind them that can go unseen. -/
theorem Extreme.getD_best_firstRun_eq_iff {x : Extreme} {vs : List Value} (ordinal : Ordinals vs) :
    (x.best (Value.firstRun vs)).getD .null = (x.best vs).getD .null ↔
      ∀ b ∈ x.best (Value.firstRun vs), ∀ v ∈ vs, x.wins v b = false := by
  cases hbest : x.best (Value.firstRun vs) with
  | none =>
    rw [best_eq_none_iff, Value.firstRun_eq_nil_iff] at hbest
    simp [hbest, best]
  | some b =>
    have b_mem := mem_of_best_eq_some hbest
    have hb := Value.ordinals_firstRun ordinal b b_mem
    have best_all : x.best vs = (Value.afterRun vs).foldl x.offer (some b) := by
      rw [← hbest, best, best, ← List.foldl_append, Value.firstRun_append_afterRun]
    have first_run_worse : ∀ v ∈ Value.firstRun vs, x.wins v b = false := fun v hv =>
      not_wins_of_dominates hb (Value.ordinals_firstRun ordinal v hv)
        (dominates_best (Value.ordinals_firstRun ordinal)
          (Value.comparable_of_mem_firstRun ordinal) hbest v hv)
    have stays : (some b).getD .null = (x.best vs).getD .null ↔
        (Value.afterRun vs).foldl x.offer (some b) = some b := by
      obtain ⟨c, hc, -⟩ := foldl_offer (x := x) hb (Value.ordinals_afterRun ordinal)
      rw [best_all, hc, Option.getD_some, Option.getD_some, Option.some.injEq, eq_comm]
    rw [stays, foldl_offer_eq_iff hb (Value.ordinals_afterRun ordinal)]
    constructor
    · rintro later_worse _ ⟨⟩ v hv
      rw [← Value.firstRun_append_afterRun vs] at hv
      exact (List.mem_append.1 hv).elim (first_run_worse v) (later_worse v)
    · intro all_worse v hv
      refine all_worse b rfl v ?_
      rw [← Value.firstRun_append_afterRun vs]
      exact List.mem_append_right _ hv

end Hindsight
