import Hindsight.Time.Instant
import Mathlib.Order.Compare
import Mathlib.Order.Defs.LinearOrder

/-!
# The order of instants, and the time between them

Instants are linearly ordered, as their keys are. An instant outside a leap second is a number of
nanoseconds (`Instant.nanos`). There adding milliseconds is adding, as far as the range of instants
reaches (`Instant.addMillis_eq_some_iff`, `Instant.addMillis_eq_none_iff`).
-/

namespace Hindsight
namespace Time
namespace Instant

/-- **Instants are linearly ordered.** -/
instance : LinearOrder Instant where
  le_refl t := Int.le_refl t.key
  le_trans r s t := Int.le_trans (a := r.key) (b := s.key) (c := t.key)
  lt_iff_le_not_ge s t := Int.lt_iff_le_and_not_ge (a := s.key) (b := t.key)
  le_antisymm _ _ h h' := key_injective (Int.le_antisymm h h')
  le_total s t := Int.le_total s.key t.key
  toDecidableLE := inferInstance
  toDecidableEq := inferInstance
  toDecidableLT := inferInstance
  compare_eq_compareOfLessAndEq s t := by
    have same : s.key = t.key ↔ s = t := ⟨key_injective, congrArg key⟩
    show compareOfLessAndEq s.key t.key = compareOfLessAndEq s t
    simp only [compareOfLessAndEq, same]
    rfl

/-- An instant inside a leap second. -/
def IsLeap (t : Instant) : Prop := 1000000000 ≤ t.nano

instance (t : Instant) : Decidable t.IsLeap := inferInstanceAs (Decidable (_ ≤ _))

/-- The nanoseconds from midnight of day 0 to an instant, those of leap seconds not counted. -/
def nanos (t : Instant) : Int := (t.day * 86400 + t.second) * 1000000000 + t.nano

/-- The first instant. -/
def earliest : Instant := ⟨minDay, 0, 0, by decide⟩

/-- The last instant outside a leap second. -/
def latest : Instant := ⟨maxDay, 86399, 999999999, by decide⟩

variable {s t u : Instant} {ms : Int}

/-- Outside leap seconds instants compare as their nanoseconds do. Within one, they have the
nanoseconds of the second after it. -/
theorem lt_iff_nanos (hs : ¬s.IsLeap) (ht : ¬t.IsLeap) : s < t ↔ s.nanos < t.nanos := by
  rw [IsLeap] at hs ht
  show s.key < t.key ↔ _
  rw [key, key, nanos, nanos]
  omega

/-- Outside of leap seconds instants are ordered by their nanoseconds, so `omega` can decide about
them. -/
theorem le_iff_nanos (hs : ¬s.IsLeap) (ht : ¬t.IsLeap) : s ≤ t ↔ s.nanos ≤ t.nanos := by
  rw [← not_lt, lt_iff_nanos ht hs, Int.not_lt]

/-- No instant is before the earliest one. Leap seconds need not be left out here. -/
theorem earliest_le_nanos (t : Instant) : earliest.nanos ≤ t.nanos := by
  have := t.inRange.1.1
  show (minDay * 86400 + 0) * 1000000000 + 0 ≤ _
  rw [nanos]
  omega

/-- Outside of leap seconds no instant is behind the latest one. -/
theorem nanos_le_latest (ht : ¬t.IsLeap) : t.nanos ≤ latest.nanos := by
  have day := t.inRange.1.2
  have second := t.inRange.2.1
  rw [IsLeap] at ht
  show _ ≤ (maxDay * 86400 + 86399) * 1000000000 + 999999999
  rw [nanos]
  omega

/-- Parts make an instant just if it is the one with these parts, so parts out of range make
none. -/
theorem ofParts?_eq_some_iff {day : Int} {second nano : Nat} :
    ofParts? day second nano = some t ↔ t.day = day ∧ t.second = second ∧ t.nano = nano := by
  refine ⟨ofParts?_eq_some, ?_⟩
  rintro ⟨rfl, rfl, rfl⟩
  exact dif_pos t.inRange

/-- The seconds and the rest of some milliseconds, with the sign of these. They are named, so that
arithmetic need not look at the division again. -/
theorem exists_tdiv_tmod (ms : Int) : ∃ q r : Int, ms.tdiv 1000 = q ∧ ms.tmod 1000 = r ∧
    ms = 1000 * q + r ∧ -1000 < r ∧ r < 1000 := by
  refine ⟨_, _, rfl, rfl, (Int.mul_tdiv_add_tmod ms 1000).symm, ?_, ?_⟩
  · exact Int.lt_tmod_of_pos ms (by decide)
  · exact Int.tmod_lt_of_pos ms (by decide)

/-- **Adding milliseconds** outside leap seconds is adding nanoseconds. The instant that is reached
is not in a leap second either. -/
theorem addMillis_eq_some_iff (ht : ¬t.IsLeap) :
    t.addMillis ms = some u ↔ ¬u.IsLeap ∧ u.nanos = t.nanos + ms * 1000000 := by
  obtain ⟨q, r, tdiv, tmod, rfl, above, below⟩ := exists_tdiv_tmod ms
  have inRange := u.inRange.2
  rw [IsLeap] at ht ⊢
  simp only [addMillis, tdiv, tmod, ht, false_and, if_false, ofParts?_eq_some_iff, nanos]
  omega

/-- Every number of nanoseconds in the range of instants is that of one, outside of leap seconds. -/
theorem exists_nanos_eq {n : Int} (above : earliest.nanos ≤ n) (below : n ≤ latest.nanos) :
    ∃ u : Instant, ¬u.IsLeap ∧ u.nanos = n := by
  replace above : (minDay * 86400 + 0) * 1000000000 + 0 ≤ n := above
  replace below : n ≤ (maxDay * 86400 + 86399) * 1000000000 + 999999999 := below
  have inRange : InRange (n / 1000000000 / 86400) (n / 1000000000 % 86400).toNat
      (n % 1000000000).toNat := by
    rw [InRange]
    omega
  refine ⟨⟨_, _, _, inRange⟩, ?_, ?_⟩
  · rw [IsLeap]
    dsimp only
    omega
  · rw [nanos]
    dsimp only
    omega

/-- **Milliseconds are not added** just if they lead out of range. There is no other reason. -/
theorem addMillis_eq_none_iff (ht : ¬t.IsLeap) :
    t.addMillis ms = none ↔
      t.nanos + ms * 1000000 < earliest.nanos ∨ latest.nanos < t.nanos + ms * 1000000 := by
  constructor
  · intro refused
    by_contra inside
    obtain ⟨u, hu, reached⟩ := exists_nanos_eq (n := t.nanos + ms * 1000000) (by omega) (by omega)
    rw [(addMillis_eq_some_iff ht).2 ⟨hu, reached⟩] at refused
    cases refused
  · refine fun outside => Option.eq_none_iff_forall_ne_some.2 fun u added => ?_
    obtain ⟨hu, reached⟩ := (addMillis_eq_some_iff ht).1 added
    have above := earliest_le_nanos u
    have below := nanos_le_latest hu
    omega

end Instant
end Time
end Hindsight
