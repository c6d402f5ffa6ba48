import Hindsight.Proofs.Aggregate.Merging
import Hindsight.Query.Rescan

/-!
# The events whose rank is extreme

An aggregate that ranks its events looks for the best rank first, passing over null, and then holds
every rank against it. Of ranks of one kind the best is the least or the greatest
(`Extreme.leads_of_bestRank`), which no two different ranks are (`Extreme.Leads.unique`), and
nothing else ties with it (`Extreme.ties_bestRank_iff`). So the inputs that are kept are those whose
rank is the least or the greatest, all of them and in their order, and none is kept just if all
ranks are null (`Extreme.select_exact`).
-/

namespace Hindsight
namespace Extreme

open MonotoneDeque (dominates)

variable {x : Extreme} {v w b r s : Value} {ranks : List Value} {is : List RankedInput}

/-- A value is at most another, or at least, according to what is looked for. -/
def Precedes (x : Extreme) (v w : Value) : Prop :=
  match x with
  | min => v.Le w
  | max => w.Le v

instance (x : Extreme) (v w : Value) : Decidable (x.Precedes v w) :=
  match x with
  | min => inferInstanceAs (Decidable (v.Le w))
  | max => inferInstanceAs (Decidable (w.Le v))

/-- Values that precede each other are the same. -/
theorem Precedes.antisymm (h : x.Precedes v w) (h' : x.Precedes w v) : v = w := by
  cases x with
  | min => exact Value.Le.antisymm h h'
  | max => exact Value.Le.antisymm h' h

/-- What dominates another value in a deque precedes it, so what is known of best values is known of
least and greatest ones. -/
theorem precedes_iff (hv : v.isOrdinal = true) (hw : w.isOrdinal = true) :
    x.Precedes v w ↔ dominates x v w = true := by
  cases x with
  | min =>
    rw [Precedes, Value.le_iff hv hw, dominates]
    cases v.compare w with
    | none => simp
    | some o => cases o <;> simp [wanted]
  | max =>
    rw [Precedes, Value.le_iff hw hv, Value.compare_swap hv hw, dominates]
    cases v.compare w with
    | none => simp
    | some o => cases o <;> simp [wanted]

/-- **A rank is the least or the greatest** of some ranks: it is not null, and it precedes all of
them that are not. -/
def Leads (x : Extreme) (ranks : List Value) (r : Value) : Prop :=
  r.isNull = false ∧ ∀ s ∈ ranks, s.isNull = false → x.Precedes r s

instance (x : Extreme) (ranks : List Value) (r : Value) : Decidable (x.Leads ranks r) :=
  inferInstanceAs (Decidable (r.isNull = false ∧ ∀ s ∈ ranks, s.isNull = false → x.Precedes r s))

/-- Ranks that are the least or the greatest are the same. So all inputs that are kept have one
rank. -/
theorem Leads.unique (h : x.Leads ranks r) (h' : x.Leads ranks s) (hr : r ∈ ranks)
    (hs : s ∈ ranks) : r = s :=
  (h.2 s hs h'.1).antisymm (h'.2 r hr h.1)

/-- The ranks that are not null. -/
def properRanks (ranks : List Value) : List Value := ranks.filter fun r => !r.isNull

/-- The ranks that count are those that are not null. -/
theorem mem_properRanks : r ∈ properRanks ranks ↔ r ∈ ranks ∧ r.isNull = false := by
  simp [properRanks]

section Best

/-- The best rank is the best value of those that are not null. Nulls are passed over, wherever they
stand. -/
theorem bestRank_eq (x : Extreme) (ranks : List Value) :
    x.bestRank ranks = x.best (properRanks ranks) := by
  rw [best, properRanks, List.foldl_filter, bestRank]
  congr 1
  funext best r
  cases r.isNull <;> rfl

/-- There is no best rank just if every rank is null. -/
theorem bestRank_eq_none_iff : x.bestRank ranks = none ↔ ∀ r ∈ ranks, r.isNull = true := by
  rw [bestRank_eq, best_eq_none_iff, properRanks, List.filter_eq_nil_iff]
  simp

/-- The best rank is one of the ranks and is not null. -/
theorem mem_of_bestRank_eq_some (hb : x.bestRank ranks = some b) :
    b ∈ ranks ∧ b.isNull = false := by
  rw [bestRank_eq] at hb
  exact mem_properRanks.1 (mem_of_best_eq_some hb)

/-- **The best rank** of ranks of one kind is the least or the greatest. Ranks of different kinds do
not compare, and then the first run would decide. -/
theorem leads_of_bestRank (alike : Value.Alike (properRanks ranks))
    (hb : x.bestRank ranks = some b) : x.Leads ranks b := by
  obtain ⟨b_in, proper⟩ := mem_of_bestRank_eq_some hb
  refine ⟨proper, fun s s_in s_proper => ?_⟩
  have comparable : ∀ v ∈ properRanks ranks, ∀ w ∈ properRanks ranks, v.Comparable w :=
    fun v hv w hw => Value.comparable_of_typeName (alike.1 v hv) (alike.2 v hv w hw)
  have hs := mem_properRanks.2 ⟨s_in, s_proper⟩
  rw [precedes_iff (alike.1 b (mem_properRanks.2 ⟨b_in, proper⟩)) (alike.1 s hs)]
  rw [bestRank_eq] at hb
  exact dominates_best alike.1 comparable hb s hs

/-- **A rank ties with the best** just if it is the least or the greatest itself, since among one
kind only the same rank is as good. -/
theorem ties_bestRank_iff (alike : Value.Alike (properRanks ranks)) (hr : r ∈ ranks) :
    ties (x.bestRank ranks) r = true ↔ x.Leads ranks r := by
  cases hb : x.bestRank ranks with
  | none =>
    refine iff_of_false Bool.false_ne_true fun leads => ?_
    have null := bestRank_eq_none_iff.1 hb r hr
    rw [leads.1] at null
    cases null
  | some b =>
    have b_mem := mem_of_bestRank_eq_some hb
    have b_leads := leads_of_bestRank alike hb
    have b_ordinal := alike.1 b (mem_properRanks.2 b_mem)
    rw [ties, beq_iff_eq]
    constructor
    · intro same
      have proper : r.isNull = false := by
        cases r with
        | null => cases same
        | _ => rfl
      rwa [Value.eq_of_compare (alike.1 r (mem_properRanks.2 ⟨hr, proper⟩)) b_ordinal same]
    · intro leads
      rw [leads.unique b_leads hr b_mem.1]
      exact Value.compare_self b_ordinal

end Best

section Select

variable (alike : Value.Alike (properRanks (is.map RankedInput.rank)))
include alike

/-- **Selecting is filtering by whether a rank leads all ranks**: the inputs that are kept stay in
their order, and those that tie are all kept. -/
theorem select_eq_filter :
    x.select is = is.filter fun i => decide (x.Leads (is.map RankedInput.rank) i.rank) := by
  refine List.filter_congr fun i hi => ?_
  rw [Bool.eq_iff_iff, decide_eq_true_iff, ties_bestRank_iff alike (List.mem_map_of_mem hi)]

/-- An input is kept just if it was there and its rank leads. -/
theorem mem_select_iff {i : RankedInput} :
    i ∈ x.select is ↔ i ∈ is ∧ x.Leads (is.map RankedInput.rank) i.rank := by
  rw [select_eq_filter alike, List.mem_filter, decide_eq_true_iff]

/-- Nothing is kept just if there is no rank but null. Otherwise the input of the best rank is kept
at least. -/
theorem select_eq_nil_iff : x.select is = [] ↔ ∀ i ∈ is, i.rank.isNull = true := by
  constructor
  · intro nothing
    have unranked : x.bestRank (is.map RankedInput.rank) = none := by
      by_contra ranked
      obtain ⟨b, hb⟩ := Option.ne_none_iff_exists'.1 ranked
      obtain ⟨i, hi, rfl⟩ := List.mem_map.1 (mem_of_bestRank_eq_some hb).1
      have kept := (mem_select_iff alike).2 ⟨hi, leads_of_bestRank alike hb⟩
      rw [nothing] at kept
      cases kept
    exact fun i hi => bestRank_eq_none_iff.1 unranked i.rank (List.mem_map_of_mem hi)
  · intro null
    refine List.eq_nil_iff_forall_not_mem.2 fun i hi => ?_
    obtain ⟨i_in, proper, -⟩ := (mem_select_iff alike).1 hi
    rw [null i i_in] at proper
    cases proper

end Select

/-- **The inputs that are kept,** where the ranks that are not null are of one kind, are exactly
those whose rank is the least or the greatest, in their order. So they are the inputs of one rank,
all that have it, and there are none just if every rank is null. Ranks of several kinds have no
order between them, so there what is kept may depend on where the inputs stand. -/
theorem select_exact (x : Extreme) {is : List RankedInput}
    (alike : Value.Alike (properRanks (is.map RankedInput.rank))) :
    x.select is = is.filter (fun i => decide (x.Leads (is.map RankedInput.rank) i.rank)) ∧
      (∀ i ∈ x.select is, ∀ j ∈ is, j ∈ x.select is ↔ j.rank = i.rank) ∧
      (x.select is = [] ↔ ∀ i ∈ is, i.rank.isNull = true) := by
  refine ⟨select_eq_filter alike, fun i hi j hj => ?_, select_eq_nil_iff alike⟩
  obtain ⟨i_in, i_leads⟩ := (mem_select_iff alike).1 hi
  rw [mem_select_iff alike, and_iff_right hj]
  constructor
  · intro j_leads
    exact j_leads.unique i_leads (List.mem_map_of_mem hj) (List.mem_map_of_mem i_in)
  · intro same
    rwa [same]

/-- Of delays in minutes, two of them unknown, the longest is kept as often as it occurs. -/
theorem select_exact_of_delays :
    let delay (train : String) (rank : Value) : RankedInput := ⟨⟨.zero, .text train⟩, rank⟩
    let is := [delay "a" .null, delay "b" (.int 4), delay "c" (.int 9), delay "d" (.int (-2)),
      delay "e" .null, delay "f" (.int 9)]
    let kept := Extreme.max.select is
    Value.Alike (properRanks (is.map RankedInput.rank)) ∧
      kept = [delay "c" (.int 9), delay "f" (.int 9)] ∧
        kept = is.filter (fun i => decide (Extreme.max.Leads (is.map RankedInput.rank) i.rank)) ∧
          (∀ i ∈ kept, ∀ j ∈ is, j ∈ kept ↔ j.rank = i.rank) ∧
            (kept = [] ↔ ∀ i ∈ is, i.rank.isNull = true) := by
  intro delay is kept
  have alike : Value.Alike (properRanks (is.map RankedInput.rank)) := ⟨by decide, by decide⟩
  exact ⟨alike, rfl, select_exact .max alike⟩

end Extreme
end Hindsight
