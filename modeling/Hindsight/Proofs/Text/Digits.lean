import Hindsight.Number.Reading
import Hindsight.Text.Basic
import Mathlib.Data.List.Basic
import Mathlib.Data.Nat.Digits.Defs

/-!
# Digits in a text

A digit is no blank, and the characters of a class in front of one that is not of it are those that
a reader takes (`takeWhile_append_of_apart`). The digits that a number is written with denote it
(`Number.digitsValue_toDigits`), also with zeros in front
(`Number.digitsValue_replicate_append`).
-/

namespace Hindsight

/-- The digits are the ten characters from zero to nine, by their numbers. -/
theorem isDigit_iff {c : Char} : c.isDigit = true ↔ 48 ≤ c.toNat ∧ c.toNat ≤ 57 := by
  simp [Char.isDigit, UInt32.le_iff_toNat_le, ← Char.toNat_val]

/-- No digit is a blank. -/
theorem not_isBlank_of_isDigit {c : Char} (h : c.isDigit = true) : Text.isBlank c = false := by
  rw [isDigit_iff] at h
  simp only [Text.isBlank, Bool.or_eq_false_iff, Bool.and_eq_false_iff, decide_eq_false_iff_not,
    beq_eq_false_iff_ne]
  omega

/-- **What goes on with a character that is not of a class** leaves what is taken of the class as
it is. -/
theorem takeWhile_append_apart {p : Char → Bool} {cs : List Char}
    (apart : ∀ c ∈ cs.head?, p c = false) (w : List Char) :
    (w ++ cs).takeWhile p = w.takeWhile p ∧ (w ++ cs).dropWhile p = w.dropWhile p ++ cs := by
  induction w with
  | nil =>
    cases cs with
    | nil => exact ⟨rfl, rfl⟩
    | cons c cs =>
      have stops : p c = false := apart c rfl
      simp [stops]
  | cons c w ih =>
    cases here : p c with
    | true => simpa [here] using ih
    | false => simp [here]

/-- The characters of a class in front of one that is not of it are those that are taken. Words,
numbers and fields of instants are all taken apart by this. -/
theorem takeWhile_append_of_apart {p : Char → Bool} {w cs : List Char} (all : ∀ c ∈ w, p c = true)
    (apart : ∀ c ∈ cs.head?, p c = false) :
    (w ++ cs).takeWhile p = w ∧ (w ++ cs).dropWhile p = cs := by
  obtain ⟨nothing, kept⟩ := takeWhile_append_apart apart []
  rw [List.takeWhile_append_of_pos all, List.dropWhile_append_of_pos all]
  exact ⟨by rw [← List.nil_append cs, nothing]; exact List.append_nil w, kept⟩

namespace Number

/-- An integer is written in digits. -/
theorem isDigit_of_mem_toDigits {n : Nat} {c : Char} (h : c ∈ Nat.toDigits 10 n) :
    c.isDigit = true :=
  Nat.isDigit_of_mem_toDigits (by decide) (by decide) h

/-- **The digits of a number** denote it. Integers, years and fields of instants are read back by
this. -/
theorem digitsValue_toDigits (n : Nat) : digitsValue (Nat.toDigits 10 n) = n :=
  Nat.ofDigitChars_toDigits (by decide) (by decide)

/-- Zeros in front do not count, so a number may be padded. -/
theorem digitsValue_replicate_append (k : Nat) (ds : List Char) :
    digitsValue (List.replicate k '0' ++ ds) = digitsValue ds := by
  have zeros : Nat.ofDigitChars 10 (List.replicate k '0') 0 = 0 := by
    rw [Nat.ofDigitChars_replicate_zero, Nat.mul_zero]
  show Nat.ofDigitChars 10 _ 0 = Nat.ofDigitChars 10 ds 0
  rw [Nat.ofDigitChars_append, zeros]

/-- A positive number starts with no zero. Only zero itself does, and it has no other digit. -/
theorem head?_toDigits_ne {n : Nat} (positive : 0 < n) : (Nat.toDigits 10 n).head? ≠ some '0' := by
  induction n using Nat.strong_induction_on with
  | _ n ih =>
    rw [Nat.toDigits_eq_if (by decide)]
    split
    · next small =>
      have each : ∀ d < 10, 0 < d → [Nat.digitChar d].head? ≠ some '0' := by decide
      exact each n small positive
    · next large =>
      have shorter := ih (n / 10) (by omega) (by omega)
      rwa [List.head?_append_of_ne_nil _ Nat.toDigits_ne_nil]

end Number
end Hindsight
