import Hindsight.Proofs.Aggregate.Extreme
import Hindsight.Proofs.Aggregate.Positional
import Hindsight.Proofs.Aggregate.Retraction
import Hindsight.Proofs.Aggregate.StableSort

/-!
# Two accumulators become one

What a merged accumulator makes of two lists of inputs is what one makes of all of them in the order
of time (`Accumulator.merge_ofInputs`), for four kinds of functions. Those of positions choose one
of the inputs, where a choice is associative, and an earlier input may as well come before a later
one (`Accumulator.Chooses.merge_ofInputs`). Counts and totals are determined by the values that they
count, in whichever order (`Accumulator.merge_ofInputs_of_counts`). So are the best of values of one
kind (`Extreme.best_append`) and the span of some times (`Span.merge_ofTimes`). A series is what is
sorted (`Accumulator.merge_ofInputs_of_series`).

Merging adds counters up as well. As long as fewer inputs than a word can count were fed to all the
accumulators that went into one, its counters and its total fit their words
(`Accumulator.Gathers.inRange`).
-/

namespace Hindsight

/-- The one to keep of the one held and another. -/
def choose {α : Type} (pick : α → α → α) (held : Option α) (a : α) : Option α :=
  some (held.elim a fun h => pick h a)

section Choice

variable {α : Type} {pick : α → α → α}

/-- **The choice from two lists** is that between the choices from each, if choosing is associative.
So an accumulator that chooses may start over and be put behind another one later. -/
theorem foldl_choose (assoc : ∀ a b c, pick (pick a b) c = pick a (pick b c)) (l : List α)
    (s : Option α) :
    l.foldl (choose pick) s = (l.foldl (choose pick) none).elim s (choose pick s) := by
  induction l using List.reverseRecOn with
  | nil => rfl
  | append_singleton l a ih =>
    rw [List.foldl_append, List.foldl_append, ih]
    cases l.foldl (choose pick) none with
    | none => rfl
    | some c =>
      cases s with
      | none => rfl
      | some h => exact congrArg some (assoc h c a)

/-- A later one and another are chosen from in either order, if the choice between these two is the
same both ways. Only these two have to agree, which is how inputs at different times may change
places. -/
theorem choose_swap (assoc : ∀ a b c, pick (pick a b) c = pick a (pick b c)) {a b : α}
    (comm : pick a b = pick b a) (s : Option α) :
    choose pick (choose pick s a) b = choose pick (choose pick s b) a := by
  cases s with
  | none => exact congrArg some comm
  | some h =>
    refine congrArg some ?_
    show pick (pick h a) b = pick (pick h b) a
    rw [assoc, comm, assoc]

/-- A choice that does not depend on the order is the same for all orders, one exchange of
neighbours after another. -/
theorem foldl_choose_perm (assoc : ∀ a b c, pick (pick a b) c = pick a (pick b c))
    (comm : ∀ a b, pick a b = pick b a) {l l' : List α} (p : l.Perm l') (s : Option α) :
    l.foldl (choose pick) s = l'.foldl (choose pick) s :=
  p.foldl_eq' (fun a _ b _ s => choose_swap assoc (comm a b) s) s

end Choice

namespace Accumulator

/-- Accumulators of a function that hold one of the inputs, chosen step by step. -/
structure Chooses (f : AggregateFunction) (wrap : Option Input → Accumulator)
    (step : Option Input → Input → Option Input) : Prop where
  empty : Accumulator.empty f = wrap none
  absorb (s : Option Input) (i : Input) : (wrap s).absorb i = wrap (step s i)
  merge (s t : Option Input) : (wrap s).merge (wrap t) = .ok (wrap (t.elim s (step s)))
  foldl (is : List Input) (s : Option Input) :
    is.foldl step s = (is.foldl step none).elim s (step s)
  swap (s : Option Input) (i j : Input) (earlier : j.time < i.time) :
    step (step s i) j = step (step s j) i

/-- The earlier of two inputs, and the first one of one time. -/
def earlierOf (h i : Input) : Input := if i.time < h.time then i else h

/-- The later of two inputs, and the second one of one time. -/
def laterOf (h i : Input) : Input := if h.time ≤ i.time then i else h

/-- Of three inputs the earliest is found by comparing neighbours in either way, and of inputs at
one time the first one is kept. -/
theorem earlierOf_assoc (i j k : Input) :
    earlierOf (earlierOf i j) k = earlierOf i (earlierOf j k) := by
  grind [earlierOf]

/-- Of three inputs the latest is found by comparing neighbours in either way, and of inputs at one
time the last one is kept. -/
theorem laterOf_assoc (i j k : Input) :
    laterOf (laterOf i j) k = laterOf i (laterOf j k) := by
  grind [laterOf]

/-- Keeping the earliest of the input held and another is a choice between the two. -/
theorem earlier_eq_choose : earlier = choose earlierOf := by
  funext s i
  cases s with
  | none => rfl
  | some h => exact (apply_ite some _ _ _).symm

/-- Keeping the latest of the input held and another is a choice between the two. -/
theorem later_eq_choose : later = choose laterOf := by
  funext s i
  cases s with
  | none => rfl
  | some h => exact (apply_ite some _ _ _).symm

/-- Of inputs at different times the earlier one is found in either order. At one time the order
decides, so the times have to differ. -/
theorem earlierOf_swap {i j : Input} (earlier : j.time < i.time) :
    earlierOf i j = earlierOf j i := by
  rw [earlierOf, if_pos earlier, earlierOf, if_neg earlier.not_gt]

/-- Of inputs at different times the later one is found in either order. -/
theorem laterOf_swap {i j : Input} (earlier : j.time < i.time) : laterOf i j = laterOf j i := by
  rw [laterOf, if_neg earlier.not_ge, laterOf, if_pos earlier.le]

/-- **The functions of positions** choose the earlier or the later of two inputs, or keep a
sequence, by the cases of functions. -/
theorem exists_chooses {f : AggregateFunction} (positional : f.isPositional = true) :
    ∃ wrap step, Chooses f wrap step := by
  have earliest (is : List Input) (s : Option Input) :
      is.foldl earlier s = (is.foldl earlier none).elim s (earlier s) := by
    rw [earlier_eq_choose]
    exact foldl_choose earlierOf_assoc is s
  have latest (is : List Input) (s : Option Input) :
      is.foldl later s = (is.foldl later none).elim s (later s) := by
    rw [later_eq_choose]
    exact foldl_choose laterOf_assoc is s
  have earlier_swap (s : Option Input) (i j : Input) (less : j.time < i.time) :
      earlier (earlier s i) j = earlier (earlier s j) i := by
    rw [earlier_eq_choose]
    exact choose_swap earlierOf_assoc (earlierOf_swap less) s
  have later_swap (s : Option Input) (i j : Input) (less : j.time < i.time) :
      later (later s i) j = later (later s j) i := by
    rw [later_eq_choose]
    exact choose_swap laterOf_assoc (laterOf_swap less) s
  cases f with
  | first => exact ⟨.first, earlier, rfl, fun _ _ => rfl, fun _ _ => rfl, earliest, earlier_swap⟩
  | timeOfFirst =>
    exact ⟨.timeOfFirst, earlier, rfl, fun _ _ => rfl, fun _ _ => rfl, earliest, earlier_swap⟩
  | timeOfNext =>
    exact ⟨.timeOfNext, earlier, rfl, fun _ _ => rfl, fun _ _ => rfl, earliest, earlier_swap⟩
  | last => exact ⟨.last, later, rfl, fun _ _ => rfl, fun _ _ => rfl, latest, later_swap⟩
  | timeOfLast =>
    exact ⟨.timeOfLast, later, rfl, fun _ _ => rfl, fun _ _ => rfl, latest, later_swap⟩
  | _ => cases positional

/-- The inputs that are not null, in the order of time: dropping nulls and sorting may be done in
either order. -/
theorem counted_inOrder (is : List Input) :
    counted (inOrder Input.time is) = inOrder Input.time (counted is) :=
  filter_inOrder _ is

/-- Which inputs count is decided one by one, so those of two lists are those of each. -/
theorem counted_append (is js : List Input) : counted (is ++ js) = counted is ++ counted js :=
  List.filter_append ..

namespace Chooses

variable {f : AggregateFunction} {wrap : Option Input → Accumulator}
  {step : Option Input → Input → Option Input}

/-- What a function of positions holds after inputs is chosen from those that count; the others
leave it as it is. -/
theorem ofInputs_eq (h : Chooses f wrap step) (is : List Input) :
    ofInputs f is = wrap ((counted is).foldl step none) :=
  ofInputs_eq_foldl wrap h.empty h.absorb is

/-- **Merged, accumulators that choose** are that of the inputs in the order of time. The choice
between two accumulators is the choice from one list behind the other, and sorting it exchanges
inputs at different times only. -/
theorem merge_ofInputs (h : Chooses f wrap step) (is js : List Input) :
    (ofInputs f is).merge (ofInputs f js) =
      .ok (ofInputs f (inOrder Input.time (is ++ js))) := by
  rw [h.ofInputs_eq, h.ofInputs_eq, h.ofInputs_eq, h.merge, counted_inOrder,
    foldl_inOrder h.swap, counted_append, List.foldl_append, ← h.foldl]

end Chooses

/-- **The functions of positions merge to what all inputs make in the order of time**: each of them
chooses by time, or keeps a sequence in the order of time. -/
theorem merge_ofInputs_of_positional {f : AggregateFunction} (positional : f.isPositional = true)
    (is js : List Input) : (ofInputs f is).merge (ofInputs f js) =
      .ok (ofInputs f (inOrder Input.time (is ++ js))) := by
  obtain ⟨wrap, step, chooses⟩ := exists_chooses positional
  exact chooses.merge_ofInputs is js

end Accumulator

/-- What a key is bound to after the entries of a tally were added to one: the number from before
and that of the entry, if there is one. Keys of the entries do not repeat, so each is added once. -/
theorem DistinctTally.get?_foldl_update {es : List (String × Nat)} (ordered : Dict.Ordered ⟨es⟩)
    (c : Dict String Nat) (k : String) :
    (es.foldl (fun c x => c.update x.1 0 (· + x.2)) c).get? k =
      (Dict.get? ⟨es⟩ k).elim (c.get? k) fun n => some ((c.get? k).getD 0 + n) := by
  induction es generalizing c with
  | nil => rfl
  | cons e es ih =>
    obtain ⟨l, n⟩ := e
    rw [List.foldl_cons, ih (List.pairwise_cons.1 ordered).2]
    by_cases same : k = l
    · subst same
      rw [ordered.get?_rest, show Dict.get? ⟨(k, n) :: es⟩ k = some n from
        Dict.findEntry_cons_self k n es]
      exact Dict.get?_insert_self ..
    · rw [show Dict.get? ⟨(l, n) :: es⟩ k = Dict.get? ⟨es⟩ k from
        Dict.findEntry_cons_of_ne same n es, Dict.update, Dict.get?_insert_of_ne same]

/-- **Two tallies that become one** tally the keys of both: under each key the two numbers are
added. -/
theorem DistinctTally.Tallies.merge {d e : DistinctTally} {keys keys' : List String}
    (h : d.Tallies keys) (h' : e.Tallies keys') : (d.merge e).Tallies (keys ++ keys') := by
  refine ⟨?_, fun k => ?_⟩
  · have ordered (es : List (String × Nat)) (c : Dict String Nat) (hc : c.Ordered) :
        (es.foldl (fun c x => c.update x.1 0 (· + x.2)) c).Ordered := by
      induction es generalizing c with
      | nil => exact hc
      | cons x es ih => exact ih _ (Dict.ordered_update hc _ _ _)
    exact ordered _ _ h.ordered
  · have added : (d.merge e).counts.get? k =
        (e.counts.get? k).elim (d.counts.get? k) fun n => some ((d.counts.get? k).getD 0 + n) :=
      get?_foldl_update h'.ordered d.counts k
    rw [added, h.get?, h'.get?, List.count_append]
    by_cases absent : keys.count k = 0 <;> by_cases absent' : keys'.count k = 0 <;>
      simp [absent, absent']

/-- **Two totals that become one** count the numbers of both. Integers are added exactly, and floats
stay untouched where neither total has any. -/
theorem Total.Counts.merge {s t : Total} {vs ws : List Value} (h : s.Counts vs)
    (h' : t.Counts ws) : (s.merge t).Counts (vs ++ ws) where
  count := by
    rw [List.length_append, ← h.count, ← h'.count]
    rfl
  floatCount := by
    rw [List.countP_append, ← h.floatCount, ← h'.floatCount]
    rfl
  integers := by
    rw [List.filterMap_append, List.sum_append, ← h.integers, ← h'.integers]
    rfl
  floats := fun none => by
    obtain ⟨left, right⟩ := Nat.add_eq_zero_iff.1 none
    show s.floats.merge t.floats = .zero
    rw [h.floats left, h'.floats right]
    rfl

namespace Accumulator

/-- Accumulators of one function become one of that function. Merging is refused between different
functions only. -/
theorem exists_merge {a b : Accumulator} (same : a.function = b.function) :
    ∃ c, a.merge b = .ok c ∧ c.function = a.function := by
  cases a with
  | nth m s =>
    cases b with
    | nth n t =>
      obtain rfl : m = n := AggregateFunction.nth.inj same
      exact ⟨nth m (s.merge t), if_pos rfl, rfl⟩
    | _ => cases same
  | _ => cases b <;> first | exact ⟨_, rfl, rfl⟩ | cases same

/-- **Two accumulators that become one** count the values of both, the moments as long as the count
fits a word. -/
theorem Counts.merge {a b c : Accumulator} {vs ws : List Value} (h : a.Counts vs)
    (h' : b.Counts ws) (merged : a.merge b = .ok c)
    (room : a.function = .variance ∨ a.function = .deviation → vs.length + ws.length < 2 ^ 64) :
    c.Counts (vs ++ ws) := by
  have moments {m k : Moments Float} (count : m.count = vs.length) (count' : k.count = ws.length)
      (room : vs.length + ws.length < 2 ^ 64) : (m.merge k).count = (vs ++ ws).length := by
    rw [List.length_append, ← count, ← count'] at *
    rw [Moments.merge]
    split
    · omega
    split
    · omega
    · exact Number.wrap_eq_self_iff.2 room
  cases a with
  | count m =>
    cases b with
    | count n =>
      obtain rfl := Except.ok.inj merged
      have both : m + n = (vs ++ ws).length := by
        rw [show m = vs.length from h, show n = ws.length from h', List.length_append, Nat.cast_add]
      exact both
    | _ => cases merged
  | countDistinct d =>
    cases b with
    | countDistinct e =>
      obtain rfl := Except.ok.inj merged
      show (d.merge e).Tallies ((vs ++ ws).map Value.distinctKey)
      rw [List.map_append]
      exact DistinctTally.Tallies.merge h h'
    | _ => cases merged
  | sum s =>
    cases b with
    | sum t =>
      obtain rfl := Except.ok.inj merged
      exact Total.Counts.merge h h'
    | _ => cases merged
  | mean s =>
    cases b with
    | mean t =>
      obtain rfl := Except.ok.inj merged
      exact Total.Counts.merge h h'
    | _ => cases merged
  | variance m =>
    cases b with
    | variance k =>
      obtain rfl := Except.ok.inj merged
      exact moments h h' (room (.inl rfl))
    | _ => cases merged
  | deviation m =>
    cases b with
    | deviation k =>
      obtain rfl := Except.ok.inj merged
      exact moments h h' (room (.inr rfl))
    | _ => cases merged
  | meanGap s =>
    cases b with
    | meanGap t =>
      obtain rfl := Except.ok.inj merged
      have both : s.count + t.count = (vs ++ ws).length := by
        rw [show s.count = vs.length from h, show t.count = ws.length from h', List.length_append]
      exact both
    | _ => cases merged
  | nth m s =>
    cases b with
    | nth n t =>
      rw [Accumulator.merge] at merged
      split at merged <;> cases merged
      trivial
    | _ => cases merged
  | _ =>
    cases b <;> cases merged
    trivial

section Range

variable {f : AggregateFunction} {is : List Input} {a : Accumulator}

/-- **Whatever was taken and merged,** an accumulator counts the values that it gathered, by
induction on how it came about. There have to be fewer inputs than a machine counts, because moments
that are merged add up their counts as words. -/
theorem Gathers.counts (gathers : Gathers f is a) (few : is.length < 2 ^ 63) :
    a.function = f ∧ a.Counts (valuesOf is) := by
  induction gathers with
  | empty => exact ⟨function_empty f, counts_empty f⟩
  | @add is i a b _ added ih =>
    obtain ⟨rfl, counts⟩ := ih (by simp at few; omega)
    obtain ⟨function, -, after⟩ := counts.add added
    exact ⟨function, after.perm (valuesOf_perm (List.perm_append_singleton i is).symm)⟩
  | @merge is js a b c _ _ merged ih ih' =>
    rw [List.length_append] at few
    obtain ⟨rfl, counts⟩ := ih (by omega)
    obtain ⟨function, counts'⟩ := ih' (by omega)
    obtain ⟨c', merged', kept⟩ := exists_merge function.symm
    obtain rfl := Except.ok.inj (merged'.symm.trans merged)
    refine ⟨kept, ?_⟩
    rw [valuesOf_append]
    refine counts.merge counts' merged fun _ => ?_
    have := length_valuesOf_le is
    have := length_valuesOf_le js
    omega

/-- **Whatever was taken and merged, an accumulator is in range** while fewer than 2⁶³ inputs were
gathered, each as often as it was merged in, and the integers among them are words. -/
theorem Gathers.inRange (gathers : Gathers f is a) (few : is.length < 2 ^ 63)
    (words : ∀ n ∈ integersOf is, Number.fitsWord n = true) : a.InRange :=
  (gathers.counts few).2.inRange ((length_valuesOf_le is).trans_lt few) words

end Range

variable {f : AggregateFunction} {is js : List Input}

/-- **Merged, counts and totals without floats** are those of the inputs in the order of time: both
count the same values, and what counts is determined by the values that it counts. -/
theorem merge_ofInputs_of_counts (accepted : ∀ i ∈ is ++ js, ¬Refuses f i.value)
    (counts : f = .count ∨ f = .countDistinct ∨
      (f = .sum ∨ f = .mean) ∧ (valuesOf (is ++ js)).countP Value.isFloat = 0) :
    (ofInputs f is).merge (ofInputs f js) =
      .ok (ofInputs f (inOrder Input.time (is ++ js))) := by
  obtain ⟨left, right⟩ := List.forall_mem_append.1 accepted
  have perm := inOrder_perm Input.time (is ++ js)
  obtain ⟨c, merged, function⟩ := exists_merge (a := ofInputs f is) (b := ofInputs f js) (by simp)
  rw [function_ofInputs] at function
  have both := (counts_ofInputs left).merge (counts_ofInputs right) merged fun moments => by
    rw [function_ofInputs] at moments
    rcases moments with rfl | rfl <;> simp at counts
  have sorted := counts_ofInputs fun i hi => accepted i (perm.mem_iff.1 hi)
  rw [← valuesOf_append] at both
  rw [merged, both.unique (sorted.perm (valuesOf_perm perm)) (by simp [function])
    (by rwa [function])]

end Accumulator

namespace Value

/-- Values of one kind, which is linearly ordered. -/
def Alike (vs : List Value) : Prop :=
  (∀ v ∈ vs, v.isOrdinal = true) ∧ ∀ v ∈ vs, ∀ w ∈ vs, v.typeName = w.typeName

/-- Values of one kind that has an order can be compared. -/
theorem comparable_of_typeName {v w : Value} (hv : v.isOrdinal = true)
    (same : v.typeName = w.typeName) : v.Comparable w := by
  cases v with
  | bool | int | text | instant =>
    cases w <;> first | exact Option.some_ne_none _ | simp [typeName] at same
  | _ => cases hv

/-- **Values of one kind are the elements of a linear order**, wrapped up. What is said of the best
element of such an order is said of values in this way. -/
theorem Alike.exists_map {vs : List Value} (alike : Alike vs) :
    ∃ (α : Type) (_ : LinearOrder α) (wrap : α → Value), IsKind wrap ∧
      ∃ as : List α, vs = as.map wrap := by
  cases vs with
  | nil =>
    obtain ⟨α, order, wrap, kind, -⟩ := exists_isKind (v := int 0) rfl
    exact ⟨α, order, wrap, kind, [], rfl⟩
  | cons v vs =>
    obtain ⟨ordinal, same⟩ := alike
    obtain ⟨α, order, wrap, kind, a, rfl⟩ := exists_isKind (ordinal v List.mem_cons_self)
    refine ⟨α, order, wrap, kind, ?_⟩
    have wrapped : wrap a :: vs ∈ Set.range (List.map wrap) := by
      rw [Set.range_list_map]
      intro w hw
      rcases kind.apart w (ordinal w hw) with ⟨b, rfl⟩ | apart
      · exact ⟨b, rfl⟩
      · exact absurd (apart a).1 (comparable_of_typeName (ordinal _ List.mem_cons_self)
          (same _ List.mem_cons_self w hw))
    exact wrapped.imp fun _ => Eq.symm

end Value

namespace Extreme

variable {α : Type} [LinearOrder α] {wrap : α → Value} {x : Extreme} {vs ws : List Value}

/-- The better of two elements. -/
def pick (x : Extreme) (a b : α) : α :=
  match x with
  | min => Min.min a b
  | max => Max.max a b

/-- The better of three elements of a linear order is found by comparing neighbours in either
way. -/
theorem pick_assoc (a b c : α) : x.pick (x.pick a b) c = x.pick a (x.pick b c) := by
  cases x with
  | min => exact min_assoc a b c
  | max => exact max_assoc a b c

/-- Of values of one kind the better is that of their elements, so offering a value is a choice in
the order. -/
theorem offer_wrap (kind : Value.IsKind wrap) (s : Option α) (a : α) :
    x.offer (s.map wrap) (wrap a) = (choose x.pick s a).map wrap := by
  cases s with
  | none => rfl
  | some b =>
    show (if x.wins (wrap a) (wrap b) = true then _ else _) = some (wrap (x.pick b a))
    cases x with
    | min =>
      have less : Extreme.min.wins (wrap a) (wrap b) = true ↔ a < b := by
        rw [wins_iff, kind.compare_wrap, Option.some.injEq]
        exact compare_lt_iff_lt
      rcases lt_or_ge a b with h | h
      · rw [if_pos (less.2 h), pick, min_eq_right h.le]
      · rw [if_neg (mt less.1 h.not_gt), pick, min_eq_left h]
    | max =>
      have greater : Extreme.max.wins (wrap a) (wrap b) = true ↔ b < a := by
        rw [wins_iff, kind.compare_wrap, Option.some.injEq]
        exact compare_gt_iff_gt
      rcases lt_or_ge b a with h | h
      · rw [if_pos (greater.2 h), pick, max_eq_right h.le]
      · rw [if_neg (mt greater.1 h.not_gt), pick, max_eq_left h]

/-- The best of values of one kind is the value of the best element of that kind, where comparing
means comparing elements of a linear order. -/
theorem best_map_wrap (kind : Value.IsKind wrap) (as : List α) :
    x.best (as.map wrap) = (as.foldl (choose x.pick) none).map wrap := by
  rw [best, List.foldl_map]
  change List.foldl _ (Option.map wrap none) as = _
  exact List.foldl_hom (Option.map wrap) (offer_wrap kind)

/-- **The best of values of one kind** does not depend on their order, as a minimum or maximum does
not. -/
theorem best_perm (alike : Value.Alike vs) (p : vs.Perm ws) : x.best vs = x.best ws := by
  have comparable : ∀ v ∈ vs, ∀ w ∈ vs, v.Comparable w := fun v hv w hw =>
    Value.comparable_of_typeName (alike.1 v hv) (alike.2 v hv w hw)
  cases hb : x.best vs with
  | none =>
    obtain rfl := best_eq_none_iff.1 hb
    rw [List.nil_perm.1 p]
    rfl
  | some b =>
    obtain ⟨c, hc⟩ : ∃ c, x.best ws = some c := by
      refine Option.ne_none_iff_exists'.1 fun none => ?_
      obtain rfl := best_eq_none_iff.1 none
      rw [List.perm_nil.1 p] at hb
      cases hb
    have b_mem := mem_of_best_eq_some hb
    have c_mem := p.mem_iff.2 (mem_of_best_eq_some hc)
    have over_c := dominates_best alike.1 comparable hb c c_mem
    have over_b := dominates_best (fun v hv => alike.1 v (p.mem_iff.2 hv))
      (fun v hv w hw => comparable v (p.mem_iff.2 hv) w (p.mem_iff.2 hw)) hc b (p.mem_iff.1 b_mem)
    rcases (dominates_iff (alike.1 b b_mem) (alike.1 c c_mem)).1 over_c with better | rfl
    · rw [not_wins_of_dominates (alike.1 c c_mem) (alike.1 b b_mem) over_b] at better
      cases better
    · exact hc.symm

/-- **The best of two lists** of values of one kind is the better one of those of each, where either
list may be empty. -/
theorem best_append (alike : Value.Alike (vs ++ ws)) :
    x.best (vs ++ ws) = (x.best ws).elim (x.best vs) (x.offer (x.best vs)) := by
  obtain ⟨α, _, wrap, kind, as, map⟩ := alike.exists_map
  obtain ⟨front, back, rfl, rfl, rfl⟩ := List.append_eq_map_iff.1 map
  rw [← List.map_append, best_map_wrap kind, best_map_wrap kind, best_map_wrap kind,
    List.foldl_append, foldl_choose pick_assoc]
  cases back.foldl (choose x.pick) none with
  | none => rfl
  | some b => exact (offer_wrap kind _ b).symm

end Extreme

namespace Span

open Time (Instant)

/-- The span of some times. -/
def ofTimes (ts : List Instant) : Span :=
  ⟨ts.foldl (choose min) none, ts.foldl (choose max) none, ts.length⟩

/-- The earlier of two times that may be missing is the one that is there, or the smaller one. -/
theorem combine_least (s t : Option Instant) : combine least s t = t.elim s (choose min s) := by
  cases t with
  | none => cases s <;> rfl
  | some t =>
    cases s with
    | none => rfl
    | some s =>
      show some (if t < s then t else s) = some (min s t)
      rw [min_comm, min_def_lt]

/-- The later of two times that may be missing is the one that is there, or the greater one. -/
theorem combine_greatest (s t : Option Instant) :
    combine greatest s t = t.elim s (choose max s) := by
  cases t with
  | none => cases s <;> rfl
  | some t =>
    cases s with
    | none => rfl
    | some s =>
      show some (if t < s then s else t) = some (max s t)
      rw [max_comm, max_def_lt]

/-- The span that times make when they are added one by one is the span of all of them: their
number, the least and the greatest. -/
theorem foldl_add (ts : List Instant) : ts.foldl add empty = ofTimes ts := by
  induction ts using List.reverseRecOn with
  | nil => rfl
  | append_singleton ts t ih =>
    rw [List.foldl_append, ih, ofTimes, ofTimes, List.foldl_append, List.foldl_append,
      List.length_append]
    show Span.mk (combine least _ (some t)) (combine greatest _ (some t)) _ = _
    rw [combine_least, combine_greatest]
    rfl

/-- The span of times depends on their number, the least and the greatest of them, and so not on
their order. -/
theorem ofTimes_perm {ts us : List Instant} (p : ts.Perm us) : ofTimes ts = ofTimes us := by
  rw [ofTimes, ofTimes, foldl_choose_perm min_assoc min_comm p,
    foldl_choose_perm max_assoc max_comm p, p.length_eq]

/-- **Two spans that become one** are that of the times of both, since a minimum of minima is one,
and so with maxima. -/
theorem merge_ofTimes (ts us : List Instant) :
    (ofTimes ts).merge (ofTimes us) = ofTimes (ts ++ us) := by
  rw [merge, combine_least, combine_greatest, ofTimes, ofTimes, ofTimes, List.foldl_append,
    List.foldl_append, foldl_choose min_assoc us (ts.foldl _ none),
    foldl_choose max_assoc us (ts.foldl _ none), List.length_append]

end Span

/-- The values for which merging is the same as feeding the inputs in the order of time: integers to
sum, values of one kind to compare, and any values for functions that do not calculate. -/
def AggregateFunction.MergesOn (f : AggregateFunction) (vs : List Value) : Prop :=
  match f with
  | sum => ∀ v ∈ vs, ∃ n, v = .int n
  | min | max => Value.Alike vs
  | mean | variance | deviation | median => False
  | _ => True

namespace Accumulator

variable {f : AggregateFunction} {is js : List Input}

/-- A function refuses no value on which it merges, so both accumulators that are to be merged
exist. -/
theorem not_refuses_of_mergesOn (h : f.MergesOn (valuesOf is)) : ∀ i ∈ is, ¬Refuses f i.value := by
  intro i hi refuses
  obtain ⟨some_value, numeric, no_number⟩ := refuses_iff.1 refuses
  have held : i.value ∈ valuesOf is :=
    List.mem_map_of_mem (List.mem_filter.2 ⟨hi, by simp [some_value]⟩)
  cases f with
  | sum =>
    obtain ⟨n, hn⟩ := h _ held
    rw [hn] at no_number
    cases no_number
  | mean | variance | deviation | median => exact h
  | _ => cases numeric

/-- The least and the greatest value are chosen from the values. On values of one kind the order in
which they come plays no part, so sorting them by time changes nothing. -/
theorem merge_ofInputs_of_extreme (x : Extreme) (wrap : Option Value → Accumulator)
    (fed : ∀ is, ofInputs f is = wrap (x.best (valuesOf is)))
    (merge : ∀ s t : Option Value,
      (wrap s).merge (wrap t) = .ok (wrap (t.elim s (x.offer s))))
    (alike : Value.Alike (valuesOf (is ++ js))) :
    (ofInputs f is).merge (ofInputs f js) =
      .ok (ofInputs f (inOrder Input.time (is ++ js))) := by
  have sorted := Extreme.best_perm alike (x := x)
    (valuesOf_perm (inOrder_perm Input.time (is ++ js))).symm
  rw [fed, fed, fed, merge, ← sorted, valuesOf_append]
  rw [valuesOf_append] at alike
  rw [Extreme.best_append alike]

/-- A series holds the inputs that are not null, in the order in which they came. -/
theorem ofInputs_of_series {wrap : Series → Accumulator} (empty : empty f = wrap [])
    (absorb : ∀ s i, (wrap s).absorb i = wrap (s ++ [i])) (is : List Input) :
    ofInputs f is = wrap (counted is) := by
  have held : (counted is).foldl (fun s i => s ++ [i]) [] = counted is := by
    rw [List.foldl_append_eq_append, List.nil_append, ← List.flatMap_def, List.flatMap_singleton']
  rw [ofInputs_eq_foldl wrap empty absorb, held]

/-- Merged, two series are that of the inputs in the order of time: merging puts one behind the
other and sorts, as feeding inputs that are in order does. -/
theorem merge_ofInputs_of_series {wrap : Series → Accumulator} (empty : empty f = wrap [])
    (absorb : ∀ s i, (wrap s).absorb i = wrap (s ++ [i]))
    (merge : ∀ s t : Series, (wrap s).merge (wrap t) = .ok (wrap (s.merge t))) :
    (ofInputs f is).merge (ofInputs f js) =
      .ok (ofInputs f (inOrder Input.time (is ++ js))) := by
  have fed := ofInputs_of_series empty absorb
  rw [fed, fed, fed, merge, counted_inOrder, counted_append]
  rfl

/-- **Merged, two accumulators** are that of the inputs of both in the order of time. The four kinds
of functions are taken one by one: choices, counts and totals, best values with spans, and
series. -/
theorem merge_ofInputs (h : f.MergesOn (valuesOf (is ++ js))) :
    (ofInputs f is).merge (ofInputs f js) =
      .ok (ofInputs f (inOrder Input.time (is ++ js))) := by
  cases f with
  | count => exact merge_ofInputs_of_counts (not_refuses_of_mergesOn h) (.inl rfl)
  | countDistinct => exact merge_ofInputs_of_counts (not_refuses_of_mergesOn h) (.inr (.inl rfl))
  | sum =>
    refine merge_ofInputs_of_counts (not_refuses_of_mergesOn h)
      (.inr (.inr ⟨.inl rfl, List.countP_eq_zero.2 fun v hv => ?_⟩))
    obtain ⟨n, rfl⟩ := h v hv
    exact Bool.false_ne_true
  | mean | variance | deviation | median => exact h.elim
  | first | last | timeOfFirst | timeOfLast | timeOfNext =>
    exact merge_ofInputs_of_positional rfl is js
  | min =>
    refine merge_ofInputs_of_extreme .min min (fun is => ?_) (fun _ _ => rfl) h
    exact foldl_absorb_of_values min (fun _ _ => rfl) _ _
  | max =>
    refine merge_ofInputs_of_extreme .max max (fun is => ?_) (fun _ _ => rfl) h
    exact foldl_absorb_of_values max (fun _ _ => rfl) _ _
  | meanGap =>
    have fed (is : List Input) :
        ofInputs .meanGap is = meanGap (Span.ofTimes ((counted is).map Input.time)) := by
      rw [← Span.foldl_add, List.foldl_map]
      exact ofInputs_eq_foldl meanGap rfl (fun _ _ => rfl) is
    have sorted : ((counted (inOrder Input.time (is ++ js))).map Input.time).Perm
        ((counted (is ++ js)).map Input.time) :=
      ((inOrder_perm Input.time (is ++ js)).filter _).map Input.time
    rw [fed, fed, fed, Span.ofTimes_perm sorted, counted_append, List.map_append,
      ← Span.merge_ofTimes]
    rfl
  | values => exact merge_ofInputs_of_series rfl (fun _ _ => rfl) fun _ _ => rfl
  | nth n => exact merge_ofInputs_of_series rfl (fun _ _ => rfl) fun _ _ => if_pos rfl

end Accumulator
end Hindsight
