import Hindsight.Json.Number
import Hindsight.Proofs.Text.Digits

/-!
# Numbers are read to their end

A number that is read to the end of a text is read as well where a text goes on behind it with a
character that belongs to no number (`Json.readNumber_append`). The digits of an integer of a word
are read as that integer (`Json.readNumber_toString`).
-/

namespace Hindsight
namespace Json

/-- A character that may stand in a number behind its first one. -/
def continuesNumber (c : Char) : Bool := c.isDigit || c == '.' || c == 'e' || c == 'E'

/-- The text behind the letter of an exponent, without the sign. -/
def exponentDigits : List Char → List Char
  | '+' :: ds => ds
  | '-' :: ds => ds
  | ds => ds

/-- Behind the letter of an exponent come its digits, perhaps with a sign in front; without digits
there is no number. -/
theorem readExponent_letter {negative : Bool} {significand : Nat} {e : Int} {c : Char}
    {cs : List Char} (letter : c = 'e' ∨ c = 'E') :
    readExponent negative significand e (c :: cs) =
      let digits := (exponentDigits cs).takeWhile Char.isDigit
      let n : Int := Number.digitsValue digits
      if digits.isEmpty then none
      else some (ofParts negative significand (if cs.head? = some '-' then e - n else e + n),
        (exponentDigits cs).drop digits.length) :=
  if_pos letter

/-- What stands between the letter of an exponent and its digits stands there whatever follows. -/
theorem exponentDigits_append {cs rest : List Char} (h : cs ≠ []) :
    exponentDigits (cs ++ rest) = exponentDigits cs ++ rest := by
  cases cs with
  | nil => exact absurd rfl h
  | cons c cs =>
    by_cases plus : c = '+'
    · subst plus; rfl
    · by_cases minus : c = '-'
      · subst minus; rfl
      · simp [exponentDigits, plus, minus]

/-- What follows the digits in front of the point, of which some were dropped. -/
def readBehindDigits (negative : Bool) (significand : Nat) (dropped : List Char) :
    List Char → Option (Json × List Char)
  | '.' :: more => readFraction negative significand dropped.length more
  | more =>
    if !dropped.isEmpty || more.head? == some 'e' || more.head? == some 'E' then
      readExponent negative significand dropped.length more
    else if !negative then some (int significand, more)
    else if significand = 0 ∨ !Number.fitsWord (-(significand : Int)) then
      some (float (-(Number.toFloat significand)), more)
    else some (int (-(significand : Int)), more)

/-- The number of digits alone. -/
def ofDigits (negative : Bool) (significand : Nat) : Json :=
  if !negative then int significand
  else if significand = 0 ∨ !Number.fitsWord (-(significand : Int)) then
    float (-(Number.toFloat significand))
  else int (-(significand : Int))

/-- Without a point behind its digits a number may have an exponent still, and is an integer
otherwise, unless some of its digits did not fit. -/
theorem readBehindDigits_of_ne {negative : Bool} {significand : Nat} {dropped cs : List Char}
    (h : cs.head? ≠ some '.') :
    readBehindDigits negative significand dropped cs =
      if !dropped.isEmpty || cs.head? == some 'e' || cs.head? == some 'E' then
        readExponent negative significand dropped.length cs
      else some (ofDigits negative significand, cs) := by
  unfold readBehindDigits
  split
  · exact absurd rfl h
  · unfold ofDigits
    split_ifs <;> rfl

/-- A number is read by its digits first, with no zero in front of others, and then by what is
behind them. -/
theorem readUnsigned_eq (negative : Bool) (cs : List Char) :
    readUnsigned negative cs =
      if !startsWithDigit cs then none
      else
        let (significand, taken, rest) := takeDigits 0 0 cs
        if decide (1 < taken) && cs.head? == some '0' then none
        else
          let dropped := rest.takeWhile Char.isDigit
          readBehindDigits negative significand dropped (rest.drop dropped.length) :=
  rfl

section Append

variable {rest : List Char} (apart : ∀ c ∈ rest.head?, continuesNumber c = false)

include apart

/-- A character that goes on in no number is no digit. -/
theorem not_isDigit_of_apart : ∀ c ∈ rest.head?, c.isDigit = false := by
  intro c hc
  have other := apart c hc
  simp only [continuesNumber, Bool.or_eq_false_iff] at other
  exact other.1.1.1

/-- Digits are taken up to the end of a number, whatever follows that does not go on in one. How
many were taken and what they denote stays. -/
theorem takeDigits_append (significand taken : Nat) (cs : List Char) :
    takeDigits significand taken (cs ++ rest) =
      let (s, t, more) := takeDigits significand taken cs
      (s, t, more ++ rest) := by
  induction cs generalizing significand taken with
  | nil =>
    cases rest with
    | nil => rfl
    | cons c rest =>
      have other : c.isDigit = false := not_isDigit_of_apart apart c rfl
      show takeDigits significand taken (c :: rest) = (significand, taken, c :: rest)
      rw [takeDigits, other]
      rfl
  | cons c cs ih =>
    rw [List.cons_append, takeDigits, takeDigits]
    split
    · exact ih _ _
    · rfl

/-- Whether digits come first is not changed by what follows. -/
theorem startsWithDigit_append (cs : List Char) :
    startsWithDigit (cs ++ rest) = startsWithDigit cs := by
  cases cs with
  | cons c cs => rfl
  | nil =>
    cases rest with
    | nil => rfl
    | cons c rest => exact not_isDigit_of_apart apart c rfl

/-- An exponent is read to its end in front of what does not go on in a number. -/
theorem readExponent_append {negative : Bool} {significand : Nat} {e : Int} {cs more : List Char}
    {j : Json} (h : readExponent negative significand e cs = some (j, more)) :
    readExponent negative significand e (cs ++ rest) = some (j, more ++ rest) := by
  cases cs with
  | nil =>
    obtain ⟨rfl, rfl⟩ := Prod.mk.inj (Option.some.inj h)
    cases rest with
    | nil => rfl
    | cons c rest =>
      have other := apart c rfl
      simp only [continuesNumber, Bool.or_eq_false_iff, beq_eq_false_iff_ne] at other
      exact if_neg (not_or.2 ⟨other.1.2, other.2⟩)
  | cons c cs =>
    rw [List.cons_append]
    by_cases letter : c = 'e' ∨ c = 'E'
    · rw [readExponent_letter letter] at h ⊢
      have some_digit : cs ≠ [] := by
        rintro rfl
        cases h
      obtain ⟨taken, -⟩ := takeWhile_append_apart (not_isDigit_of_apart apart) (exponentDigits cs)
      have within := (List.takeWhile_sublist Char.isDigit (l := exponentDigits cs)).length_le
      simp only [exponentDigits_append some_digit, taken, List.head?_append_of_ne_nil _ some_digit,
        List.drop_append_of_le_length within]
      dsimp only at h
      by_cases digits : ((exponentDigits cs).takeWhile Char.isDigit).isEmpty = true
      · rw [if_pos digits] at h
        cases h
      · rw [if_neg digits] at h
        obtain ⟨rfl, rfl⟩ := Prod.mk.inj (Option.some.inj h)
        exact if_neg digits
    · have last : ∀ cs, readExponent negative significand e (c :: cs) =
          some (ofParts negative significand e, c :: cs) := fun cs => if_neg letter
      rw [last] at h ⊢
      obtain ⟨rfl, rfl⟩ := Prod.mk.inj (Option.some.inj h)
      rfl

/-- A fraction is read to its end in front of what does not go on in a number. -/
theorem readFraction_append {negative : Bool} {significand : Nat} {e : Int} {cs more : List Char}
    {j : Json} (h : readFraction negative significand e cs = some (j, more)) :
    readFraction negative significand e (cs ++ rest) = some (j, more ++ rest) := by
  unfold readFraction at h ⊢
  rw [takeDigits_append apart]
  generalize takeDigits significand 0 cs = taken at h ⊢
  obtain ⟨s, t, behind⟩ := taken
  simp only [startsWithDigit_append apart] at h ⊢
  split at h
  · next digit =>
    rw [if_pos digit, (takeWhile_append_apart (not_isDigit_of_apart apart) behind).2]
    exact readExponent_append apart h
  · next noDigit =>
    rw [if_neg noDigit]
    split at h
    · cases h
    · next some_taken =>
      rw [if_neg some_taken]
      exact readExponent_append apart h

/-- What the next character is compared with may stand in a number, so what follows a number never
equals it. -/
theorem head?_append_beq {c : Char} (continues : continuesNumber c = true) (cs : List Char) :
    ((cs ++ rest).head? == some c) = (cs.head? == some c) := by
  cases cs with
  | cons d cs => rfl
  | nil =>
    cases rest with
    | nil => rfl
    | cons d rest =>
      refine beq_false_of_ne fun same => ?_
      rw [Option.some.inj same] at apart
      exact Bool.noConfusion (continues.symm.trans (apart c rfl))

/-- What is behind the digits of a number is read to its end, in each of the three cases: a point,
an exponent or neither. -/
theorem readBehindDigits_append {negative : Bool} {significand : Nat} {dropped cs more : List Char}
    {j : Json} (h : readBehindDigits negative significand dropped cs = some (j, more)) :
    readBehindDigits negative significand dropped (cs ++ rest) = some (j, more ++ rest) := by
  by_cases point : cs.head? = some '.'
  · cases cs with
    | nil => cases point
    | cons c cs =>
      obtain rfl : c = '.' := Option.some.inj point
      exact readFraction_append apart h
  · have point' : (cs ++ rest).head? ≠ some '.' := by
      rwa [ne_eq, ← beq_iff_eq, head?_append_beq apart rfl, beq_iff_eq]
    rw [readBehindDigits_of_ne point] at h
    rw [readBehindDigits_of_ne point', head?_append_beq apart rfl, head?_append_beq apart rfl]
    split at h
    · next exponent =>
      rw [if_pos exponent]
      exact readExponent_append apart h
    · next whole =>
      obtain ⟨rfl, rfl⟩ := Prod.mk.inj (Option.some.inj h)
      exact if_neg whole

/-- **A number without its sign is read to its end** in front of what does not go on in a number:
behind its digits there is a fraction, an exponent or neither. -/
theorem readUnsigned_append {negative : Bool} {cs more : List Char} {j : Json}
    (h : readUnsigned negative cs = some (j, more)) :
    readUnsigned negative (cs ++ rest) = some (j, more ++ rest) := by
  rw [readUnsigned_eq] at h ⊢
  rw [takeDigits_append apart, startsWithDigit_append apart]
  split at h
  · cases h
  · next digit =>
    have nonempty : cs ≠ [] := by
      rintro rfl
      exact digit rfl
    rw [if_neg digit, List.head?_append_of_ne_nil _ nonempty]
    generalize takeDigits 0 0 cs = taken at h ⊢
    obtain ⟨s, t, behind⟩ := taken
    obtain ⟨dropped, -⟩ := takeWhile_append_apart (not_isDigit_of_apart apart) behind
    have within := (List.takeWhile_sublist Char.isDigit (l := behind)).length_le
    simp only [dropped, List.drop_append_of_le_length within] at h ⊢
    split at h
    · cases h
    · next short =>
      rw [if_neg short]
      exact readBehindDigits_append apart h

/-- **A number that is read to the end** is read where a character follows that belongs to none. So
reading a number on its own is enough to know how it is read inside a tree. -/
theorem readNumber_append {cs more : List Char} {j : Json} (h : readNumber cs = some (j, more)) :
    readNumber (cs ++ rest) = some (j, more ++ rest) := by
  cases cs with
  | nil => cases h
  | cons c cs =>
    by_cases minus : c = '-'
    · subst minus
      exact readUnsigned_append apart h
    · have unsigned : ∀ cs, readNumber (c :: cs) = readUnsigned false (c :: cs) := by
        simp [readNumber, minus]
      rw [List.cons_append, unsigned, ← List.cons_append]
      rw [unsigned] at h
      exact readUnsigned_append apart h

end Append

/-- A number starts with a digit or with a minus sign, which tells it from every other scalar. -/
theorem exists_head_of_readNumber {cs more : List Char} {j : Json}
    (h : readNumber cs = some (j, more)) :
    ∃ c rest, cs = c :: rest ∧ (c = '-' ∨ c.isDigit = true) := by
  cases cs with
  | nil => cases h
  | cons c cs =>
    refine ⟨c, cs, rfl, or_iff_not_imp_left.2 fun minus => ?_⟩
    have unsigned : readNumber (c :: cs) = readUnsigned false (c :: cs) := by
      simp [readNumber, minus]
    rw [unsigned, readUnsigned_eq] at h
    by_contra noDigit
    simp [startsWithDigit, noDigit] at h

section Integers

/-- Digits whose number fits 64 bits are taken to the last. Of longer ones some are left out, and
only counted. -/
theorem takeDigits_of_digits {ds : List Char} (digits : ∀ c ∈ ds, c.isDigit = true)
    {significand : Nat} (taken : Nat)
    (fits : Nat.ofDigitChars 10 ds significand < 18446744073709551616) :
    takeDigits significand taken ds =
      (Nat.ofDigitChars 10 ds significand, taken + ds.length, []) := by
  induction ds generalizing significand taken with
  | nil => rfl
  | cons c ds ih =>
    obtain ⟨digit, later⟩ := List.forall_mem_cons.1 digits
    rw [Nat.ofDigitChars_cons, Nat.mul_comm] at fits ⊢
    have grows : significand * 10 + (c.toNat - '0'.toNat) ≤
        Nat.ofDigitChars 10 ds (significand * 10 + (c.toNat - '0'.toNat)) := by
      rw [Nat.ofDigitChars_eq_ofDigitChars_zero]
      exact (Nat.le_mul_of_pos_left _ (Nat.pow_pos (by decide))).trans (Nat.le_add_right _ _)
    rw [takeDigits, digit, decide_eq_true (grows.trans_lt fits)]
    simp only [Bool.and_self, if_true]
    rw [ih later _ fits, List.length_cons, Nat.add_assoc, Nat.add_comm 1]

/-- The digits of an integer that fits are read as that integer, with nothing left. A leading zero
is only the zero itself. -/
theorem readUnsigned_toDigits (negative : Bool) {n : Nat} (fits : n < 18446744073709551616) :
    readUnsigned negative (Nat.toDigits 10 n) = some (ofDigits negative n, []) := by
  have digits : ∀ c ∈ Nat.toDigits 10 n, c.isDigit = true := fun _ =>
    Number.isDigit_of_mem_toDigits
  have starts : startsWithDigit (Nat.toDigits 10 n) = true := by
    obtain ⟨c, cs, same⟩ := List.exists_cons_of_ne_nil (Nat.toDigits_ne_nil (n := n) (b := 10))
    rw [same] at digits ⊢
    exact digits c List.mem_cons_self
  have taken : takeDigits 0 0 (Nat.toDigits 10 n) = (n, (Nat.toDigits 10 n).length, []) := by
    have value := Nat.ofDigitChars_ten_toDigits (n := n)
    rw [takeDigits_of_digits digits 0 (value.trans_lt fits), value, Nat.zero_add]
  have noZero : ¬((decide (1 < (Nat.toDigits 10 n).length) &&
      (Nat.toDigits 10 n).head? == some '0') = true) := by
    rcases Nat.eq_zero_or_pos n with rfl | positive
    · decide
    · simp [Number.head?_toDigits_ne positive]
  rw [readUnsigned_eq, starts, taken]
  simp only [Bool.not_true, Bool.false_eq_true, if_false, if_neg noZero]
  exact readBehindDigits_of_ne (by simp)

/-- **The text of an integer of a word** is read as the integer, with its sign. The least integer is
among them, although its magnitude is no integer of a word. -/
theorem readNumber_toString {n : Int} (fits : Number.fitsWord n = true) :
    readNumber (toString n).toList = some (int n, []) := by
  have word := fits
  rw [Number.fitsWord, Bool.and_eq_true, decide_eq_true_iff, decide_eq_true_iff, Number.minWord,
    Number.maxWord] at word
  cases n with
  | ofNat m =>
    have digits : (toString (Int.ofNat m)).toList = Nat.toDigits 10 m := Nat.toList_repr
    have unsigned : readNumber (Nat.toDigits 10 m) = readUnsigned false (Nat.toDigits 10 m) := by
      unfold readNumber
      split
      · next same =>
        have digit : '-'.isDigit = true :=
          Number.isDigit_of_mem_toDigits (same ▸ List.mem_cons_self)
        cases digit
      · rfl
    rw [Int.ofNat_eq_natCast] at word
    rw [digits, unsigned, readUnsigned_toDigits false (by omega)]
    rfl
  | negSucc m =>
    have digits : (toString (Int.negSucc m)).toList = '-' :: Nat.toDigits 10 (m + 1) := by
      simp [toString, Int.repr]
    have whole : ofDigits true (m + 1) = int (Int.negSucc m) := by
      have negated : -((m + 1 : Nat) : Int) = Int.negSucc m := rfl
      rw [ofDigits, negated, fits]
      simp
    rw [digits, readNumber, readUnsigned_toDigits true (by omega), whole]

end Integers

end Json
end Hindsight
