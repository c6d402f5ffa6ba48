import Hindsight.Proofs.Aggregate.Merging

/-!
# Places in a series

Functions of position see one series, that of the inputs that are not null. A place is counted from
the front or from the end (`Series.nth_natCast`, `Series.nth_sub_length`), and outside of the series
there is null (`Series.nth_of_outside`). Of inputs in the order of time the first and the last one
are also those that comparing their times finds (`Accumulator.ofInputs_of_earlier`,
`Accumulator.ofInputs_of_later`), so that all functions of position agree on what is where
(`Accumulator.positions_agree`).
-/

namespace Hindsight

namespace Series

variable (s : Series)

/-- A place counted from the front, with null behind the end of the series. -/
theorem nth_natCast (k : Nat) : s.nth k = (s.values[k]?).getD .null := by
  have place : s.place? k = some k := if_pos (Int.natCast_nonneg k)
  rw [nth, place, values, List.getElem?_map]
  rfl

/-- A place counted from the end names the same input as the place as far from the front. The last
one is at minus one. -/
theorem nth_sub_length {k : Nat} (inside : k < s.values.length) :
    s.nth (k - s.values.length) = s.nth k := by
  rw [values, List.length_map] at inside ⊢
  have behind : s.place? (k - s.length) = some k := by
    rw [place?, if_neg (by omega), if_pos (by omega)]
    congr 1
    omega
  have front : s.place? k = some k := if_pos (Int.natCast_nonneg k)
  rw [nth, nth, behind, front]

/-- Outside of the series there is null, on either side, and not an error. -/
theorem nth_of_outside {n : Int} (outside : n < -s.values.length ∨ s.values.length ≤ n) :
    s.nth n = .null := by
  rw [values, List.length_map] at outside
  have nothing : ((s.place? n).bind fun i => s[i]?) = none := by
    rw [place?]
    split
    · exact List.getElem?_eq_none (by omega)
    · rw [if_neg (by omega)]
      rfl
  rw [nth, nothing]
  rfl

end Series

namespace Accumulator

/-- What a function makes of inputs that it is fed one after the other. -/
def fed (f : AggregateFunction) (is : List Input) : Except EvalError Value :=
  (is.foldlM add (empty f)).map value

/-- A function that does not calculate takes all inputs, so there is always a value to be
compared. -/
theorem fed_eq_ok {f : AggregateFunction} (any : f.isNumeric = false) (is : List Input) :
    fed f is = .ok (ofInputs f is).value := by
  have accepted : ∀ i ∈ is, ¬Refuses f i.value := fun i _ refuses => by
    rw [refuses_iff, any] at refuses
    cases refuses.2.1
  rw [fed, foldlM_add_eq_ofInputs accepted]
  rfl

/-- What holds the earliest of inputs in the order of time holds the first that is not null. The two
conditions say that the function starts with nothing and keeps the earlier of two inputs. -/
theorem ofInputs_of_earlier {f : AggregateFunction} {is : List Input}
    (wrap : Option Input → Accumulator) (initial : empty f = wrap none)
    (absorb : ∀ s i, (wrap s).absorb i = wrap (earlier s i)) (sorted : InOrderOfTime is) :
    ofInputs f is = wrap (counted is).head? := by
  rw [ofInputs_eq_foldl wrap initial absorb]
  exact congrArg wrap (foldl_earlier (List.Pairwise.filter _ sorted))

/-- What holds the latest of inputs in the order of time holds the last that is not null, under the
like conditions. -/
theorem ofInputs_of_later {f : AggregateFunction} {is : List Input}
    (wrap : Option Input → Accumulator) (initial : empty f = wrap none)
    (absorb : ∀ s i, (wrap s).absorb i = wrap (later s i)) (sorted : InOrderOfTime is) :
    ofInputs f is = wrap (counted is).getLast? := by
  rw [ofInputs_eq_foldl wrap initial absorb]
  exact congrArg wrap (foldl_later (List.Pairwise.filter _ sorted))

/-- **All functions of position agree.** Inputs that come in the order of time make one series of
those that are not null, which is listed and counted, whose ends are the earliest and the latest
input, and in which a number is a place counted from the front, or from the end if it is
negative. -/
theorem positions_agree {is : List Input} (sorted : InOrderOfTime is) :
    let held : Series := is.filter fun i => !i.value.isNull
    let vs := held.values
    fed .values is = .ok (.list vs) ∧
      fed .count is = .ok (.int vs.length) ∧
      fed .first is = .ok (vs.head?.getD .null) ∧
      fed .last is = .ok (vs.getLast?.getD .null) ∧
      (∀ (k : Nat) (inside : k < vs.length), fed (.nth k) is = .ok vs[k] ∧
        fed (.nth (k - vs.length)) is = .ok vs[k]) ∧
      (∀ n : Int, n < -vs.length ∨ vs.length ≤ n → fed (.nth n) is = .ok .null) ∧
      fed .timeOfFirst is = .ok ((held.head?.map fun i => .instant i.time).getD .null) ∧
      fed .timeOfLast is = .ok ((held.getLast?.map fun i => .instant i.time).getD .null) := by
  intro held vs
  have nth (n : Int) : fed (.nth n) is = .ok (held.nth n) := by
    rw [fed_eq_ok rfl, ofInputs_of_series rfl fun _ _ => rfl]
    rfl
  refine ⟨?_, ?_, ?_, ?_, fun k inside => ?_, fun n outside => ?_, ?_, ?_⟩
  · rw [fed_eq_ok rfl, ofInputs_of_series rfl fun _ _ => rfl]
    rfl
  · have length : vs.length = held.length := List.length_map _
    rw [fed_eq_ok rfl, ofInputs, empty, foldl_absorb_count, Int.zero_add, length]
    rfl
  · have head : vs.head? = held.head?.map Input.value := List.head?_map
    rw [fed_eq_ok rfl, ofInputs_of_earlier .first rfl (fun _ _ => rfl) sorted, head]
    rfl
  · have last : vs.getLast? = held.getLast?.map Input.value := List.getLast?_map
    rw [fed_eq_ok rfl, ofInputs_of_later .last rfl (fun _ _ => rfl) sorted, last]
    rfl
  · have here : held.nth k = vs[k] := by
      rw [held.nth_natCast, List.getElem?_eq_getElem inside]
      rfl
    rw [nth, nth, held.nth_sub_length inside, here]
    exact ⟨rfl, rfl⟩
  · rw [nth, held.nth_of_outside outside]
  · rw [fed_eq_ok rfl, ofInputs_of_earlier .timeOfFirst rfl (fun _ _ => rfl) sorted]
    rfl
  · rw [fed_eq_ok rfl, ofInputs_of_later .timeOfLast rfl (fun _ _ => rfl) sorted]
    rfl

/-- Readings of a sensor that is silent at first and in between, three of them at one time. -/
def ticks : List Input :=
  [⟨⟨0, 5, 0, by decide⟩, .null⟩, ⟨⟨0, 9, 0, by decide⟩, .int 4⟩,
    ⟨⟨0, 9, 0, by decide⟩, .text "high"⟩, ⟨⟨0, 9, 0, by decide⟩, .null⟩,
    ⟨⟨1, 0, 0, by decide⟩, .bool true⟩, ⟨⟨1, 0, 0, by decide⟩, .int 7⟩]

/-- The positions of the readings: nulls do not count, and of those at one time the first to come is
the earlier one. -/
theorem positions_agree_ticks :
    InOrderOfTime ticks ∧
      fed .values ticks = .ok (.list [.int 4, .text "high", .bool true, .int 7]) ∧
        fed (.nth 1) ticks = .ok (.text "high") ∧ fed (.nth (-3)) ticks = .ok (.text "high") ∧
          fed (.nth (-9223372036854775808)) ticks = .ok .null ∧
            fed .timeOfLast ticks = .ok (.instant ⟨1, 0, 0, by decide⟩) := by
  have sorted : InOrderOfTime ticks := by decide
  obtain ⟨values, -, -, -, nth, outside, -, timeOfLast⟩ := positions_agree sorted
  obtain ⟨front, behind⟩ := nth 1 (by decide)
  exact ⟨sorted, values, front, behind, outside _ (.inl (by decide)), timeOfLast⟩

end Accumulator
end Hindsight
