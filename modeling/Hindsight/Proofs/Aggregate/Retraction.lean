import Hindsight.Proofs.Aggregate.Identity
import Hindsight.Proofs.Number.Normal

/-!
# What goes leaves no trace

As inputs come and go, every counter of an accumulator is the number of values that it counts among
those that are live. One input that comes (`Accumulator.Counts.absorb`) and one that goes
(`Accumulator.Counts.retract`) each keep this, so it holds of all accumulators that are reached
(`Accumulator.Live.counts`), and no counter is ever lowered below zero. What counts so few values
also fits the words that a machine counts in (`Accumulator.Counts.inRange`). A total of which no
float is live starts its floats afresh, whatever floats went before, so it is determined by the
integers that are live (`Total.Counts.eq_of_no_float`). The total of integers that do not fit a word is given
as a normal float, which the compensated sum returns as it is (`CompensatedSum.total_add_normal`).
-/

namespace Hindsight

namespace Value

/-- Whether a value is a float, a number or not. -/
def isFloat : Value → Bool
  | float _ | negativeNaN => true
  | _ => false

/-- The integer of a value. -/
def integer? : Value → Option Int
  | int n => some n
  | _ => none

end Value

/-- A sum of one normal float is that float. Nothing is lost when it is added to zero, so the
compensation stays zero and the total is exact. -/
theorem CompensatedSum.total_add_normal {x : Float} (h : Number.IsNormal x) :
    (zero.add x).total = x := by
  have sum : (zero.add x).sum = x := h.zero_add
  have lost : (zero.add x).lost = 0.0 := by
    show 0.0 + (if (0.0 : Float).abs >= x.abs then (0.0 - (0.0 + x)) + x else
      (x - (0.0 + x)) + 0.0) = (0.0 : Float)
    rw [if_neg h.not_abs_le_zero, h.zero_add, h.sub_self]
    rfl
  rw [total, sum, lost, h.add_zero]

namespace Total

/-- A total counts some numbers: it holds the sum of the integers exactly, and without floats
nothing of the floats that went. -/
structure Counts (t : Total) (vs : List Value) : Prop where
  count : t.count = vs.length
  floatCount : t.floatCount = vs.countP Value.isFloat
  integers : t.integers = (vs.filterMap Value.integer?).sum
  floats : t.floatCount = 0 → t.floats = .zero

/-- An empty total counts nothing, and its floats are untouched. -/
theorem counts_empty : empty.Counts [] := ⟨rfl, rfl, rfl, fun _ => rfl⟩

namespace Counts

variable {t u : Total} {v : Value} {vs ws : List Value}

/-- A total counts numbers in whichever order they came. -/
theorem perm (h : t.Counts vs) (p : vs.Perm ws) : t.Counts ws where
  count := h.count.trans p.length_eq
  floatCount := h.floatCount.trans (p.countP_eq _)
  integers := h.integers.trans (p.filterMap _).sum_eq
  floats := h.floats

/-- **A number that comes is counted.** An integer goes into the exact sum, and a float is counted
as one. -/
theorem add (h : t.Counts vs) (number : v.isNumeric = true) : (t.add v).Counts (v :: vs) := by
  obtain ⟨count, floatCount, integers, floats⟩ := h
  cases v with
  | int n =>
    refine ⟨congrArg (· + 1) count, floatCount, ?_, floats⟩
    show t.integers + n = n + (vs.filterMap Value.integer?).sum
    rw [integers, Int.add_comm]
  | float | negativeNaN =>
    refine ⟨congrArg (· + 1) count, ?_, integers, fun none => absurd none (Nat.succ_ne_zero _)⟩
    rw [List.countP_cons_of_pos rfl]
    exact congrArg (· + 1) floatCount
  | _ => cases number

/-- **A number that goes is counted no longer.** When the last float goes, the sum of the floats
starts afresh, which is what keeps its rounding from lingering. -/
theorem subtract (h : t.Counts (v :: vs)) (number : v.isNumeric = true) :
    (t.subtract v).Counts vs := by
  obtain ⟨count, floatCount, integers, floats⟩ := h
  cases v with
  | int n =>
    refine ⟨congrArg (· - 1) count, floatCount, ?_, floats⟩
    have before : t.integers = n + (vs.filterMap Value.integer?).sum := integers
    show t.integers - n = _
    omega
  | float | negativeNaN =>
    rw [List.countP_cons_of_pos rfl] at floatCount
    refine ⟨congrArg (· - 1) count, congrArg (· - 1) floatCount, integers, fun none => ?_⟩
    exact if_pos (Nat.sub_eq_zero_iff_le.1 none)
  | _ => cases number

/-- **Without floats, a total is determined by the numbers that it counts**: by their number and
their exact sum. So it does not show which floats came and went before. -/
theorem eq_of_no_float (h : t.Counts vs) (h' : u.Counts vs) (none : vs.countP Value.isFloat = 0) :
    t = u := by
  have floats := h.floats (h.floatCount.trans none)
  have floats' := h'.floats (h'.floatCount.trans none)
  obtain ⟨count, floatCount, integers, -⟩ := h
  obtain ⟨count', floatCount', integers', -⟩ := h'
  obtain ⟨i, f, k, n⟩ := t
  obtain ⟨i', f', k', n'⟩ := u
  simp only at *
  rw [count, floatCount, integers, floats, count', floatCount', integers', floats']

end Counts
end Total

namespace Accumulator

/-- An accumulator counts some values, as its function has it. -/
def Counts (a : Accumulator) (vs : List Value) : Prop :=
  match a with
  | count n => n = vs.length
  | countDistinct d => d.Tallies (vs.map Value.distinctKey)
  | sum t | mean t => t.Counts vs
  | variance m | deviation m => m.count = vs.length
  | meanGap s => s.count = vs.length
  | _ => True

/-- The counters that one value less lowers. -/
def lowered (a : Accumulator) (v : Value) : List Int :=
  match a with
  | count n => [n]
  | countDistinct d => [((d.counts.get? v.distinctKey).getD 0 : Nat)]
  | sum t | mean t => if v.isFloat then [(t.count : Int), t.floatCount] else [(t.count : Int)]
  | variance m | deviation m => [(m.count : Int)]
  | _ => []

/-- An empty accumulator counts nothing, whatever its function. -/
theorem counts_empty (f : AggregateFunction) : (empty f).Counts [] := by
  cases f with
  | countDistinct => exact DistinctTally.tallies_empty
  | sum | mean => exact Total.counts_empty
  | count | variance | deviation | meanGap => rfl
  | _ => trivial

namespace Counts

variable {a b : Accumulator} {i : Input} {vs ws : List Value}

/-- An accumulator counts values in whichever order they came. -/
theorem perm (h : a.Counts vs) (p : vs.Perm ws) : a.Counts ws := by
  cases a with
  | count n => exact Eq.trans h (congrArg _ p.length_eq)
  | countDistinct d => exact DistinctTally.Tallies.perm h (p.map _)
  | sum t | mean t => exact Total.Counts.perm h p
  | variance | deviation | meanGap => exact Eq.trans h p.length_eq
  | _ => trivial

/-- What a function that is numeric takes into account is a number, since it refuses everything else
but null. -/
theorem isNumeric_of_not_refuses {f : AggregateFunction} {v : Value} (numeric : f.isNumeric = true)
    (accepted : ¬Refuses f v) (some_value : v.isNull = false) : v.isNumeric = true := by
  by_contra no_number
  exact accepted (refuses_iff.2 ⟨some_value, numeric, Bool.eq_false_iff.2 no_number⟩)

/-- A number has a float, an integer the nearest one. -/
theorem exists_float? {v : Value} (number : v.isNumeric = true) : ∃ x, v.float? = some x := by
  cases v with
  | int | float | negativeNaN => exact ⟨_, rfl⟩
  | _ => cases number

/-- **An input that comes is counted**, by the cases of accumulators. Those that choose or keep
inputs have no counter, and nothing is claimed of them. -/
theorem absorb (h : a.Counts vs) (accepted : ¬Refuses a.function i.value)
    (some_value : i.value.isNull = false) : (a.absorb i).Counts (i.value :: vs) := by
  cases a with
  | count n =>
    have one_more : n + 1 = (i.value :: vs).length := by
      rw [List.length_cons, Nat.cast_succ]
      exact congrArg (· + 1) h
    exact one_more
  | countDistinct d => exact DistinctTally.Tallies.add h
  | sum t | mean t =>
    exact Total.Counts.add h (isNumeric_of_not_refuses rfl accepted some_value)
  | variance m | deviation m =>
    obtain ⟨x, hx⟩ := exists_float? (isNumeric_of_not_refuses rfl accepted some_value)
    show (addNumber m i.value).count = vs.length + 1
    rw [addNumber, hx]
    exact congrArg (· + 1) h
  | meanGap s => exact congrArg (· + 1) h
  | _ => trivial

/-- **An input that goes is counted no longer**, by the cases of accumulators that give back. The
input has to be one that is counted, as it is when it is live. -/
theorem retract (h : a.Counts (i.value :: vs)) (accepted : ¬Refuses a.function i.value)
    (some_value : i.value.isNull = false) (taken : a.retract? i = some b) : b.Counts vs := by
  cases a with
  | count n =>
    obtain rfl := Option.some.inj taken
    have one_less : n - 1 = vs.length := by
      rw [show n = (i.value :: vs).length from h, List.length_cons]
      omega
    exact one_less
  | countDistinct d =>
    obtain rfl := Option.some.inj taken
    exact DistinctTally.Tallies.subtract h
  | sum t | mean t =>
    obtain rfl := Option.some.inj taken
    exact Total.Counts.subtract h (isNumeric_of_not_refuses rfl accepted some_value)
  | variance m | deviation m =>
    obtain rfl := Option.some.inj taken
    obtain ⟨x, hx⟩ := exists_float? (isNumeric_of_not_refuses rfl accepted some_value)
    have before : m.count = vs.length + 1 := h
    show (subtractNumber m i.value).count = vs.length
    rw [subtractNumber, hx]
    show (m.subtract x).count = vs.length
    rw [Moments.subtract]
    split
    · show 0 = vs.length
      omega
    · show m.count - 1 = vs.length
      omega
  | _ => cases taken

/-- **No counter is lowered below zero** by taking back a value that is counted: each counter that
is lowered counts this value among others. -/
theorem lowered_pos {v : Value} (h : a.Counts (v :: vs)) (n : Int) (hn : n ∈ a.lowered v) :
    0 < n := by
  cases a with
  | count m =>
    have counted : m = (v :: vs).length := h
    rw [List.mem_singleton.1 hn, counted, List.length_cons]
    omega
  | countDistinct d =>
    have held : d.counts.get? v.distinctKey = _ := DistinctTally.Tallies.get? h v.distinctKey
    rw [List.map_cons, List.count_cons_self, if_neg (Nat.succ_ne_zero _)] at held
    rw [List.mem_singleton.1 hn, held, Option.getD_some]
    omega
  | sum t | mean t =>
    obtain ⟨count, floatCount, -, -⟩ := (show t.Counts (v :: vs) from h)
    rw [List.length_cons] at count
    rw [lowered] at hn
    split at hn
    · next float =>
      rw [List.countP_cons_of_pos float] at floatCount
      rcases List.mem_pair.1 hn with rfl | rfl <;> omega
    · rw [List.mem_singleton.1 hn]
      omega
  | variance m | deviation m =>
    have counted : m.count = (v :: vs).length := h
    rw [List.mem_singleton.1 hn, counted, List.length_cons]
    omega
  | _ => cases hn

end Counts

variable {f : AggregateFunction} {is js : List Input} {a b : Accumulator}

/-- The values that count are the same, up to their order, when the inputs are. -/
theorem valuesOf_perm (p : is.Perm js) : (valuesOf is).Perm (valuesOf js) :=
  (p.filter _).map _

/-- What an accumulator takes back it passes over or retracts: null was never counted, and any other
value was. -/
theorem eq_or_retract?_of_subtract {i : Input} (accepted : ¬Refuses a.function i.value)
    (taken : a.subtract i = .ok b) :
    b = a ∧ i.value.isNull = true ∨ a.retract? i = some b ∧ i.value.isNull = false := by
  rw [subtract, accepts_of_not_refuses accepted] at taken
  cases null : i.value.isNull with
  | true =>
    rw [null] at taken
    exact .inl ⟨(Except.ok.inj taken).symm, rfl⟩
  | false =>
    rw [null] at taken
    cases less : a.retract? i with
    | none =>
      rw [less] at taken
      cases taken
    | some c =>
      rw [less] at taken
      exact .inr ⟨congrArg some (Except.ok.inj taken), rfl⟩

/-- Giving back an input changes no function. -/
theorem function_of_retract? {i : Input} (taken : a.retract? i = some b) :
    b.function = a.function := by
  cases a with
  | count | countDistinct | sum | mean | variance | deviation =>
    obtain rfl := Option.some.inj taken
    rfl
  | _ => cases taken

/-- An input that an accumulator takes is one that its function does not refuse, and it is counted
unless it is null. -/
theorem Counts.add {i : Input} (h : a.Counts (valuesOf is)) (added : a.add i = .ok b) :
    b.function = a.function ∧ ¬Refuses a.function i.value ∧ b.Counts (valuesOf (i :: is)) := by
  have here : ¬Refuses a.function i.value := mt fails_add_iff.2 (not_fails_of_eq_ok added)
  obtain rfl := Except.ok.inj ((add_of_not_refuses here).symm.trans added)
  refine ⟨function_extend a i, here, ?_⟩
  rw [valuesOf_cons, extend]
  cases null : i.value.isNull with
  | true => exact h
  | false => exact h.absorb here null

/-- **Whatever came and went,** an accumulator counts the values that are live. By induction on how
they came and went, with `Accumulator.Counts.absorb` and `Accumulator.Counts.retract` for the
steps. -/
theorem Live.counts (live : Live f is a) :
    a.function = f ∧ (∀ i ∈ is, ¬Refuses f i.value) ∧ a.Counts (valuesOf is) := by
  induction live with
  | empty => exact ⟨function_empty f, fun _ => nofun, counts_empty f⟩
  | @add is i a b _ added ih =>
    obtain ⟨rfl, accepted, counts⟩ := ih
    obtain ⟨function, here, after⟩ := counts.add added
    exact ⟨function, List.forall_mem_cons.2 ⟨here, accepted⟩, after⟩
  | @subtract is js i a b _ taken ih =>
    obtain ⟨rfl, accepted, counts⟩ := ih
    have here := accepted i (List.mem_append_right is List.mem_cons_self)
    have others : ∀ j ∈ is ++ js, ¬Refuses a.function j.value := fun j hj =>
      accepted j (List.perm_middle.mem_iff.2 (List.mem_cons_of_mem i hj))
    have first := counts.perm (valuesOf_perm List.perm_middle)
    rw [valuesOf_cons] at first
    rcases eq_or_retract?_of_subtract here taken with ⟨rfl, null⟩ | ⟨less, some_value⟩
    · rw [if_pos null] at first
      exact ⟨rfl, others, first⟩
    · rw [if_neg (by simp [some_value])] at first
      exact ⟨function_of_retract? less, others, first.retract here some_value less⟩

/-- An accumulator that was fed some inputs has them live, the last one in front. Their order is of
no account here. -/
theorem live_of_foldlM (fed : js.foldlM add a = .ok b) (live : Live f is a) :
    Live f (js.reverse ++ is) b := by
  induction js generalizing is a with
  | nil =>
    obtain rfl := Except.ok.inj fed
    exact live
  | cons i js ih =>
    obtain ⟨next, added, rest⟩ := bind_eq_ok_iff.1 (by rwa [List.foldlM_cons] at fed)
    rw [List.reverse_cons, List.append_assoc]
    exact ih rest (live.add added)

/-- An accumulator that was fed some inputs counts their values, so an accumulator after any calls
can be compared with one that is fed afresh. -/
theorem counts_ofInputs (accepted : ∀ i ∈ is, ¬Refuses f i.value) :
    (ofInputs f is).Counts (valuesOf is) := by
  have live := live_of_foldlM (foldlM_add_eq_ofInputs accepted) .empty
  rw [List.append_nil] at live
  exact live.counts.2.2.perm (valuesOf_perm (List.reverse_perm is))

/-- **Counts, and totals without floats, are determined** by the values that they count. This is
what lets the order of inputs, and inputs that went, leave no trace. -/
theorem Counts.unique {vs : List Value} (h : a.Counts vs) (h' : b.Counts vs)
    (same : a.function = b.function)
    (counts : a.function = .count ∨ a.function = .countDistinct ∨
      (a.function = .sum ∨ a.function = .mean) ∧ vs.countP Value.isFloat = 0) : a = b := by
  cases a with
  | count n =>
    cases b with
    | count m => exact congrArg count (Eq.trans h (Eq.symm h'))
    | _ => cases same
  | countDistinct d =>
    cases b with
    | countDistinct e => exact congrArg countDistinct (DistinctTally.Tallies.unique h h')
    | _ => cases same
  | sum t =>
    cases b with
    | sum u =>
      have none : vs.countP Value.isFloat = 0 := by simpa [function] using counts
      exact congrArg sum (Total.Counts.eq_of_no_float h h' none)
    | _ => cases same
  | mean t =>
    cases b with
    | mean u =>
      have none : vs.countP Value.isFloat = 0 := by simpa [function] using counts
      exact congrArg mean (Total.Counts.eq_of_no_float h h' none)
    | _ => cases same
  | _ => simp [function] at counts

/-- Where no input is a float there is none among the values that count. -/
theorem countP_isFloat_eq_zero (no_float : ∀ i ∈ is, i.value.isFloat = false) :
    (valuesOf is).countP Value.isFloat = 0 := by
  rw [List.countP_eq_zero]
  intro v hv
  obtain ⟨i, hi, rfl⟩ := List.mem_map.1 hv
  simp [no_float i (List.mem_of_mem_filter hi)]

/-- **Without floats the state is that of the inputs that are live,** fed afresh in any order. Both
count the same values, so they are the same. -/
theorem Live.eq_fresh (live : Live f is a) (total : f = .sum ∨ f = .mean)
    (no_float : ∀ i ∈ is, i.value.isFloat = false) (p : is.Perm js) :
    js.foldlM Accumulator.add (Accumulator.empty f) = .ok a := by
  obtain ⟨rfl, accepted, counts⟩ := live.counts
  have accepted' : ∀ i ∈ js, ¬Refuses a.function i.value := fun i hi =>
    accepted i (p.mem_iff.2 hi)
  have fresh := (counts_ofInputs accepted').perm (valuesOf_perm p.symm)
  have same := function_ofInputs a.function js
  have unique := fresh.unique counts same
    (.inr (.inr ⟨by rwa [same], countP_isFloat_eq_zero no_float⟩))
  rw [foldlM_add_eq_ofInputs accepted', unique]

section Range

/-- Whether an integer fits a signed word of 128 bits, which totals are kept in. -/
def FitsLong (n : Int) : Prop := -2 ^ 127 ≤ n ∧ n < 2 ^ 127

/-- **An accumulator is in range** if all that it counts fits the words that a machine keeps it in:
signed ones of 64 bits for a count, unsigned ones for the counters of everything else, and signed
ones of 128 bits for the total of the integers. -/
def InRange (a : Accumulator) : Prop :=
  match a with
  | count n => Number.fitsWord n = true
  | countDistinct d => Number.fitsWord d.size = true ∧ ∀ k n, d.counts.get? k = some n → n < 2 ^ 64
  | sum t | mean t => t.count < 2 ^ 64 ∧ t.floatCount < 2 ^ 64 ∧ FitsLong t.integers
  | variance m | deviation m => m.count < 2 ^ 64
  | meanGap s => s.count < 2 ^ 64
  | _ => True

/-- A sum of words lies between as many times the least and as many times the greatest word, by
induction on the words. -/
theorem sum_bounds {ns : List Int} (words : ∀ n ∈ ns, Number.fitsWord n = true) :
    ns.length * Number.minWord ≤ ns.sum ∧ ns.sum ≤ ns.length * Number.maxWord := by
  induction ns with
  | nil => exact ⟨Int.le_refl _, Int.le_refl _⟩
  | cons n ns ih =>
    obtain ⟨here, rest⟩ := List.forall_mem_cons.1 words
    obtain ⟨lower, upper⟩ := ih rest
    rw [Number.fitsWord_iff] at here
    rw [List.sum_cons, List.length_cons]
    simp only [Number.minWord, Number.maxWord] at *
    omega

/-- **A total of words fits a long word** as long as no more are summed than there are words. The
least word that often is the least long word, and the greatest falls short of the greatest. -/
theorem fitsLong_sum {ns : List Int} (words : ∀ n ∈ ns, Number.fitsWord n = true)
    (few : ns.length ≤ 2 ^ 64) : FitsLong ns.sum := by
  obtain ⟨lower, upper⟩ := sum_bounds words
  simp only [FitsLong, Number.minWord, Number.maxWord] at *
  omega

/-- **What counts fewer than 2⁶³ values is in range.** Each counter is at most the number of the
values, and the total adds up that many words. -/
theorem Counts.inRange {vs : List Value} (h : a.Counts vs) (few : vs.length < 2 ^ 63)
    (words : ∀ n ∈ vs.filterMap Value.integer?, Number.fitsWord n = true) : a.InRange := by
  have numbers : (vs.filterMap Value.integer?).length ≤ vs.length := List.length_filterMap_le _ _
  have total {t : Total} (h : t.Counts vs) :
      t.count < 2 ^ 64 ∧ t.floatCount < 2 ^ 64 ∧ FitsLong t.integers := by
    have floats := List.countP_le_length (p := Value.isFloat) (l := vs)
    rw [h.count, h.floatCount, h.integers]
    exact ⟨by omega, by omega, fitsLong_sum words (by omega)⟩
  cases a with
  | count n =>
    have counted : n = vs.length := h
    rw [InRange, Number.fitsWord_iff, counted]
    omega
  | countDistinct d =>
    have tallies : d.Tallies (vs.map Value.distinctKey) := h
    have different : d.size ≤ vs.length := by
      have keys : {k | k ∈ vs.map Value.distinctKey} =
          ↑(vs.map Value.distinctKey).toFinset := by
        ext k
        simp
      rw [tallies.size_eq_ncard, keys, Set.ncard_coe_finset]
      exact (List.toFinset_card_le _).trans_eq (List.length_map _)
    refine ⟨?_, fun k n held => ?_⟩
    · rw [Number.fitsWord_iff]
      omega
    · have often := List.count_le_length (a := k) (l := vs.map Value.distinctKey)
      rw [tallies.get?] at held
      split at held <;> cases held
      rw [List.length_map] at often
      omega
  | sum t | mean t => exact total h
  | variance m | deviation m =>
    have counted : m.count = vs.length := h
    show m.count < 2 ^ 64
    omega
  | meanGap s =>
    have counted : s.count = vs.length := h
    show s.count < 2 ^ 64
    omega
  | _ => trivial

/-- The integers that are live. -/
def integersOf (is : List Input) : List Int := (valuesOf is).filterMap Value.integer?

/-- There are no more values than inputs, as nulls do not count. -/
theorem length_valuesOf_le (is : List Input) : (valuesOf is).length ≤ is.length :=
  (List.length_map Input.value).trans_le (List.length_filter_le _ _)

/-- **Whatever came and went, an accumulator is in range** while fewer than 2⁶³ inputs are live and
the integers among them are words. -/
theorem Live.inRange (live : Live f is a) (few : is.length < 2 ^ 63)
    (words : ∀ n ∈ integersOf is, Number.fitsWord n = true) : a.InRange :=
  live.counts.2.2.inRange ((length_valuesOf_le is).trans_lt few) words

end Range

/-- **The sum of integers** is null if there are none, an integer if that is a word, and else the
float nearest to it. -/
theorem sum_of_integers {t : Total} {vs : List Value} {n : Int} (h : t.Counts vs)
    (none : vs.countP Value.isFloat = 0) (total : (vs.filterMap Value.integer?).sum = n)
    (bounded : Number.fitsWord n = false → n.natAbs < 2 ^ 200) :
    t.sum = if vs = [] then .null
      else if Number.fitsWord n then .int n else .float (Number.toFloat n) := by
  obtain ⟨count, floatCount, integers, floats⟩ := h
  have no_floats := floatCount.trans none
  simp only [Total.sum, Total.toFloat, Number.word?, count, no_floats, integers, total,
    floats no_floats, if_true, List.length_eq_zero_iff]
  cases fits : Number.fitsWord n with
  | true => rfl
  | false =>
    rw [CompensatedSum.total_add_normal (Number.toFloat_isNormal fits (bounded fits))]
    rfl

/-- **Taking back is exact.** Of whatever inputs came and went, taking back one that is live lowers
no counter below zero, a count is the number of the values that are live, and a count of different
values the number of their keys. While no float is live, whichever went before, a sum and a mean are
as if fed the live inputs afresh. So a sum is then null if no value is live, the exact total if that
is a word, and else its float; words are what integers are, and as many as they count. -/
theorem Live.counts_exactly (live : Live f is a) :
    (∀ i ∈ is, i.value.isNull = false → ∀ n ∈ a.lowered i.value, 0 < n) ∧
    (f.isSubtractable = true → ∀ i ∈ is, ∃ b, a.subtract i = .ok b) ∧
    (f = .count → a.value = .int (valuesOf is).length) ∧
    (f = .countDistinct →
      a.value = .int (Value.distinctKey '' {v | v ∈ valuesOf is}).ncard) ∧
    ((∀ i ∈ is, i.value.isFloat = false) →
      (f = .sum ∨ f = .mean → ∀ js, is.Perm js →
        js.foldlM Accumulator.add (Accumulator.empty f) = .ok a) ∧
      (f = .sum →
        (valuesOf is = [] → a.value = .null) ∧
        (valuesOf is ≠ [] → Number.fitsWord (integersOf is).sum = true →
          a.value = .int (integersOf is).sum) ∧
        (Number.fitsWord (integersOf is).sum = false →
          (∀ n ∈ integersOf is, Number.fitsWord n = true) → is.length ≤ 2 ^ 64 →
          a.value = .float (Number.toFloat (integersOf is).sum)))) := by
  obtain ⟨function, accepted, counts⟩ := live.counts
  refine ⟨fun i hi some_value n hn => ?_, fun subtractable i hi => ?_, ?_, ?_,
    fun no_float => ⟨fun total js p => live.eq_fresh total no_float p, ?_⟩⟩
  · obtain ⟨js, ks, rfl⟩ := List.append_of_mem hi
    have first := counts.perm (valuesOf_perm List.perm_middle)
    rw [valuesOf_cons, if_neg (by simp [some_value])] at first
    exact first.lowered_pos n hn
  · obtain ⟨b, taken, -⟩ := subtract_of_not_refuses (function ▸ subtractable)
      (function ▸ accepted i hi)
    exact ⟨b, taken⟩
  · rintro rfl
    cases a with
    | count n => exact congrArg Value.int counts
    | _ => cases function
  · rintro rfl
    exact live.value_eq_ncard
  · rintro rfl
    cases a with
    | sum t =>
      have sum := sum_of_integers (n := (integersOf is).sum) counts
        (countP_isFloat_eq_zero no_float) rfl
      refine ⟨fun no_value => ?_, fun some_value fits => ?_, fun wide words few => ?_⟩
      · rw [no_value] at counts
        exact if_pos counts.count
      · have sum := sum fun wide => absurd (fits.symm.trans wide) (by decide)
        rwa [if_neg some_value, if_pos fits] at sum
      · have some_value : valuesOf is ≠ [] := by
          intro no_value
          rw [integersOf, no_value] at wide
          cases wide
        have integers : (integersOf is).length ≤ 2 ^ 64 :=
          (List.length_filterMap_le _ _).trans ((length_valuesOf_le is).trans few)
        have sum := sum fun _ => by
          obtain ⟨lower, upper⟩ := fitsLong_sum words integers
          omega
        rwa [if_neg some_value, if_neg (Bool.eq_false_iff.1 wide)] at sum
    | _ => cases function

/-- Twice the greatest word, with a null between and after a half has come and gone. -/
theorem Live.counts_exactly_of_words :
    let word := Value.int Number.maxWord
    let is := [word, .null, word].map (Input.mk .zero)
    ∃ a, Live .sum is a ∧ (∀ n ∈ a.lowered word, 0 < n) ∧
      a.value = .float (Number.toFloat 18446744073709551614) ∧
      is.reverse.foldlM Accumulator.add (Accumulator.empty .sum) = .ok a := by
  intro word is
  have three : Live .sum ([⟨.zero, word⟩] ++ ⟨.zero, .float 0.5⟩ ::
      [⟨.zero, .null⟩, ⟨.zero, word⟩]) _ :=
    .add (.add (.add (.add .empty rfl) rfl) rfl) rfl
  have live : Live .sum is _ := three.subtract rfl
  obtain ⟨lowered, -, -, -, exactly⟩ := live.counts_exactly
  obtain ⟨fresh, total⟩ := exactly (by decide)
  obtain ⟨-, -, wide⟩ := total rfl
  refine ⟨_, live, lowered ⟨.zero, word⟩ List.mem_cons_self rfl, wide ?_ ?_ ?_,
    fresh (.inl rfl) _ ?_⟩
  · decide
  · decide
  · decide
  · exact (List.reverse_perm is).symm

end Accumulator
end Hindsight
