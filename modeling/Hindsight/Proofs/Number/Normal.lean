import Hindsight.Number.Word
import Mathlib

/-!
# Integers that become normal floats

A float is normal if its mantissa has all of its 53 bits. Rounding a mantissa that is long enough
leaves one of exactly that many bits (`Number.roundWithAccuracy_of_le`), so an integer that does not
fit a word becomes a normal float (`Number.toFloat_isNormal`). A normal float is unpacked as it was
packed (`Number.unpack_pack_of_isFull`). Hence zero is neutral for it, on both sides, and it leaves
nothing when taken from itself (`Number.IsNormal.zero_add`, `Number.IsNormal.add_zero`,
`Number.IsNormal.sub_self`).
-/

namespace Hindsight
namespace Number

open Float.Model Float.Model.UnpackedFloat

/-- The integers that fit a word of 64 bits, by their bounds. -/
theorem fitsWord_iff {n : Int} : fitsWord n = true ↔ -2 ^ 63 ≤ n ∧ n < 2 ^ 63 := by
  rw [fitsWord, Bool.and_eq_true, decide_eq_true_iff, decide_eq_true_iff, minWord, maxWord]
  omega

/-- **An unsigned word keeps** the numbers that it has room for, and no others. This is when
arithmetic in words may be done in numbers. -/
theorem wrap_eq_self_iff {n : ℕ} : wrap n = n ↔ n < 2 ^ 64 := by
  have room : (2 : ℕ) ^ 64 = 18446744073709551616 := by norm_num
  rw [wrap, room]
  exact Nat.mod_eq_iff_lt (by decide)

/-- A mantissa and an exponent of which a float keeps all bits. -/
structure IsFull (m : Nat) (e : Int) : Prop where
  long : 2 ^ 52 ≤ m
  short : m < 2 ^ 53
  low : -1074 ≤ e
  high : e ≤ 971

/-- The exponent that a float is rounded to: fifty-three bits below its top, or the least one there
is. -/
theorem binary64_targetExponent (t : Int) :
    Format.binary64.targetExponent t = max (t - 53) (-1074) := rfl

/-- The bias of exponents in a float of 64 bits. -/
theorem binary64_exponentBias : Format.binary64.exponentBias = 1023 := rfl

/-- Shifting drops the lowest bits of the mantissa. What is dropped is remembered elsewhere, for
rounding. -/
theorem shiftRight_mantissa (em : ExtendedMantissa) (k : Nat) :
    (em >>> k).mantissa = em.mantissa / 2 ^ k := by
  induction k with
  | zero => exact (Nat.div_one _).symm
  | succ k ih =>
    have one_more : (em >>> (k + 1)).mantissa = (em >>> k).mantissa / 2 := rfl
    rw [one_more, ih, Nat.div_div_eq_div_mul, Nat.pow_succ]

/-- Rounding leaves the mantissa or adds one to it, whichever way it goes. -/
theorem roundedMantissa_mem (em : ExtendedMantissa) :
    em.mantissa ≤ em.roundedMantissa ∧ em.roundedMantissa ≤ em.mantissa + 1 := by
  obtain ⟨m, r, s⟩ := em
  cases r <;> cases s <;> simp only [ExtendedMantissa.roundedMantissa,
    ExtendedMantissa.accuracy, Accuracy.roundToNearestEven] <;> omega

/-- A mantissa of 53 bits or more is shifted until it has 53, and the exponent grows by as many as
are dropped. -/
theorem shiftToTargetExponent_of_le {m : Nat} {e : Int} (long : 2 ^ 52 ≤ m) (low : -1074 ≤ e) :
    ∃ k, m.log2 = 52 + k ∧
      (shiftToTargetExponent .binary64 m e .exact).1.mantissa = m / 2 ^ k ∧
      (shiftToTargetExponent .binary64 m e .exact).2 = e + k ∧
      2 ^ 52 ≤ m / 2 ^ k ∧ m / 2 ^ k < 2 ^ 53 := by
  have some_bit : m ≠ 0 := by omega
  have bits : 52 ≤ m.log2 := (Nat.le_log2 some_bit).2 long
  obtain ⟨k, hk⟩ := Nat.exists_eq_add_of_le bits
  have shift : (Format.binary64.targetExponent (totalExponent m e) - e).toNat = k := by
    rw [binary64_targetExponent, totalExponent, hk]
    omega
  refine ⟨k, hk, ?_, ?_, ?_, ?_⟩
  · rw [shiftToTargetExponent, shiftToExponent, shift, shiftRight_mantissa]
    rfl
  · rw [shiftToTargetExponent, shiftToExponent, shift]
  · rw [Nat.le_div_iff_mul_le (Nat.two_pow_pos k), ← Nat.pow_add, ← hk]
    exact Nat.log2_self_le some_bit
  · rw [Nat.div_lt_iff_lt_mul (Nat.two_pow_pos k), ← Nat.pow_add, ← Nat.log2_lt some_bit]
    omega

/-- **A long mantissa is rounded to one of 53 bits.** Rounding up may give a 54th, and then it is
shifted once more. -/
theorem roundWithAccuracy_of_le (s : Sign) {m : Nat} {e : Int} (long : 2 ^ 52 ≤ m)
    (low : -1074 ≤ e) (high : m.log2 + e ≤ 1000) :
    ∃ m' e' h, roundWithAccuracy .binary64 s m e .exact = .finite s m' e' h ∧ IsFull m' e' := by
  obtain ⟨k, bits, mantissa, exponent, lower, upper⟩ := shiftToTargetExponent_of_le long low
  obtain ⟨least, most⟩ := roundedMantissa_mem (shiftToTargetExponent .binary64 m e .exact).1
  rw [roundWithAccuracy]
  dsimp only
  rw [mantissa] at least most
  rw [exponent]
  generalize (shiftToTargetExponent .binary64 m e .exact).1.roundedMantissa = r at *
  have longer : 2 ^ 52 ≤ r := by omega
  -- Rounding may have added a bit, which the second shift drops.
  obtain ⟨j, bits', mantissa', exponent', lower', upper'⟩ :=
    shiftToTargetExponent_of_le longer (by omega : -1074 ≤ e + (k : Int))
  have few : r.log2 < 54 := (Nat.log2_lt (by omega)).2 (by omega)
  rw [mantissa', exponent', dif_neg (by omega)]
  exact ⟨_, _, _, rfl, lower', upper', by omega, by omega⟩

/-- The leading bit of a mantissa stands before the others. A float does not store it. -/
theorem toNat_one_append (m : BitVec 52) : (1#1 ++ m).toNat = 2 ^ 52 + m.toNat := by
  rw [BitVec.toNat_append, ← Nat.shiftLeft_add_eq_or_of_lt m.isLt]
  rfl

/-- **A normal float is unpacked as it was packed.** Its mantissa has the leading bit, so its
exponent field is neither the least nor the greatest. -/
theorem unpack_pack_of_isFull (s : Sign) {m : Nat} {e : Int} (h : 0 < m) (full : IsFull m e) :
    (Float.Model.pack (.finite s m e h)).unpack = .finite s m e h := by
  obtain ⟨long, short, low, high⟩ := full
  have bits : m.log2 = 52 := (Nat.log2_eq_iff (Nat.ne_of_gt h)).2 ⟨long, short⟩
  obtain ⟨b, exponent⟩ : ∃ b : Nat, e = b - 1075 := ⟨(e + 1075).toNat, by omega⟩
  have biased : (BitVec.ofNat 11 b).toNat = b := Nat.mod_eq_of_lt (by omega)
  have packed : UnpackedFloat.pack .binary64 (.finite s m e h) =
      packComponents .binary64 s (BitVec.ofNat 11 b) (BitVec.ofNat 52 m) := by
    have shifted : (e + Format.binary64.exponentBias + (52 : Nat)).toNat = b := by
      rw [binary64_exponentBias]
      omega
    rw [UnpackedFloat.pack]
    dsimp only
    rw [shifted, if_neg (show ¬2048 ≤ b + 1 by omega), bits]
    exact if_pos rfl
  have finite : BitVec.ofNat 11 b ≠ -1#11 := by
    intro most
    have : b = 2047 := biased.symm.trans (congrArg BitVec.toNat most)
    omega
  have normal : BitVec.ofNat 11 b ≠ 0#11 := by
    intro least
    have : b = 0 := biased.symm.trans (congrArg BitVec.toNat least)
    omega
  show UnpackedFloat.unpack .binary64 (UnpackedFloat.pack .binary64 (.finite s m e h)) = _
  rw [packed]
  simp only [UnpackedFloat.unpack, unpackExponent_packComponents, unpackMantissa_packComponents,
    unpackSign_packComponents, Sign.ofBitVec_toBitVec, finite, normal, if_false,
    UnpackedFloat.finite.injEq]
  refine ⟨trivial, ?_, ?_⟩
  · rw [toNat_one_append, BitVec.toNat_ofNat]
    omega
  · rw [biased, binary64_exponentBias]
    omega

/-- A normal float. -/
inductive IsNormal : Float → Prop
  | intro (s : Sign) {m : Nat} {e : Int} (h : 0 < m) (full : IsFull m e) :
    IsNormal (.ofModel (.pack (.finite s m e h)))

/-- Scaled by a power of ten that is one, a natural number is rounded, and nothing else is done to
it. -/
theorem ofScientific_zero {n : Nat} (some_bit : n ≠ 0) :
    UnpackedFloat.ofScientific .binary64 n 0 =
      roundWithAccuracy .binary64 .positive (n <<< 53 * 1) (-53 + 0) .exact := by
  have small : ¬(0 : Int) < -((2 ^ 11 : Int) + n.log2) := by omega
  rw [UnpackedFloat.ofScientific, dif_neg some_bit, if_neg (by decide), if_neg small,
    if_pos (by decide)]
  rfl

/-- **A natural number that is long enough becomes a normal float.** Shorter ones other than zero do
as well, but here only numbers that are rounded are asked for. -/
theorem ofNat_isNormal {n : Nat} (long : 2 ^ 53 ≤ n) (short : n < 2 ^ 200) :
    IsNormal (Float.ofNat n) ∧ IsNormal (-Float.ofNat n) := by
  have some_bit : n ≠ 0 := by omega
  have slow : Float.ofNat n = .ofModel (.pack (UnpackedFloat.ofScientific .binary64 n 0)) :=
    dif_neg fun h => absurd h.1 (Nat.not_lt.2 long)
  have longer : 2 ^ 52 ≤ n <<< 53 * 1 := by omega
  have bits : (n <<< 53 * 1).log2 < 253 :=
    (Nat.log2_lt (by omega)).2 (by omega)
  obtain ⟨m, e, h, rounded, full⟩ :=
    roundWithAccuracy_of_le .positive longer (by omega : (-1074 : Int) ≤ -53 + 0) (by omega)
  rw [slow, ofScientific_zero some_bit, rounded]
  refine ⟨.intro _ h full, ?_⟩
  have negated : -Float.ofModel (.pack (.finite .positive m e h)) =
      .ofModel (.pack (Float.Model.pack (.finite .positive m e h)).unpack.neg) := rfl
  rw [negated, unpack_pack_of_isFull _ h full]
  exact .intro _ h full

/-- **An integer that does not fit a word becomes a normal float,** as long as it has no more than
200 bits. -/
theorem toFloat_isNormal {n : Int} (wide : fitsWord n = false) (bounded : n.natAbs < 2 ^ 200) :
    IsNormal (toFloat n) := by
  have long : 2 ^ 53 ≤ n.natAbs := by
    have outside : ¬(-2 ^ 63 ≤ n ∧ n < 2 ^ 63) := fun within =>
      Bool.eq_false_iff.1 wide (fitsWord_iff.2 within)
    omega
  obtain ⟨positive, negative⟩ := ofNat_isNormal long bounded
  cases n with
  | ofNat k => exact positive
  | negSucc k => exact negative

namespace IsNormal

variable {x : Float}

/-- Zero before a normal float is passed over. This is where it matters that the float is no zero,
which might lose its sign. -/
theorem zero_add (h : IsNormal x) : 0.0 + x = x := by
  obtain ⟨s, h, full⟩ := h
  show Float.ofModel (.pack (UnpackedFloat.add _ (0.0 : Float).toModel.unpack
    (Float.Model.pack _).unpack)) = _
  rw [unpack_pack_of_isFull s h full]
  rfl

/-- Zero after a normal float is passed over. -/
theorem add_zero (h : IsNormal x) : x + 0.0 = x := by
  obtain ⟨s, h, full⟩ := h
  show Float.ofModel (.pack (UnpackedFloat.add _ (Float.Model.pack _).unpack
    (0.0 : Float).toModel.unpack)) = _
  rw [unpack_pack_of_isFull s h full]
  rfl

/-- A normal float leaves nothing when taken from itself. Infinities would leave a NaN. -/
theorem sub_self (h : IsNormal x) : x - x = 0.0 := by
  obtain ⟨s, h, full⟩ := h
  show Float.ofModel (.pack (UnpackedFloat.sub _ (Float.Model.pack _).unpack
    (Float.Model.pack _).unpack)) = _
  rw [unpack_pack_of_isFull s h full, UnpackedFloat.sub]
  dsimp only
  rw [Int.sub_self]
  rfl

/-- A normal float is greater than zero but for its sign, so it counts as the larger one beside
zero. -/
theorem not_abs_le_zero (h : IsNormal x) : ¬x.abs ≤ (0.0 : Float).abs := by
  obtain ⟨s, h, full⟩ := h
  intro le
  have := of_decide_eq_true le
  change Float.Model.le (.pack (Float.Model.pack _).unpack.abs) (0.0 : Float).abs.toModel = true
    at this
  rw [unpack_pack_of_isFull s h full, UnpackedFloat.abs, Float.Model.le,
    unpack_pack_of_isFull .positive h full] at this
  exact Bool.false_ne_true this

end IsNormal
end Number
end Hindsight
