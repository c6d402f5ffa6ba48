import Hindsight.Expr.Token
import Hindsight.Proofs.Except
import Hindsight.Proofs.Expr.Printing
import Hindsight.Proofs.Text.Digits

/-!
# Spelling tokens

Which tokens the lexer makes (`Token.WellFormed`), how each of them is written (`Token.spelling`),
and which characters behind it would be read as a part of it (`Token.extendedBy`). Characters spell
tokens (`Spells`) when they are the spellings in order, with spaces between them wherever the next
character would go on in a token. **The lexer gives back the tokens that a text spells**
(`Spells.exists_tokenize`), and all tokens that it gives are well formed (`wellFormed_of_tokenize`).
-/

namespace Hindsight

open Lexer

/-- A word of the lexer. -/
def IsWord (s : String) : Prop :=
  s.toList.head?.any startsWord = true ∧ s.toList.all continuesWord = true

instance (s : String) : Decidable (IsWord s) := inferInstanceAs (Decidable (_ ∧ _))

/-- A word has a first character, one that starts a word, and all of its characters go on in one. -/
theorem IsWord.exists_cons {s : String} (h : IsWord s) :
    ∃ c w, s.toList = c :: w ∧ startsWord c = true ∧ ∀ d ∈ c :: w, continuesWord d = true := by
  obtain ⟨starts, all⟩ := h
  cases chars : s.toList with
  | nil => simp [chars] at starts
  | cons c w =>
    rw [chars] at starts all
    exact ⟨c, w, rfl, by simpa using starts, by simpa using all⟩

namespace Token

/-- A token that a text can have: a word is one of the lexer, and an integer is not negative and
fits 64 bits. -/
def WellFormed : Token → Prop
  | word s => IsWord s
  | int n => 0 ≤ n ∧ n ≤ Number.maxWord
  | _ => True

/-- The characters that a token is written with. -/
def spelling : Token → List Char
  | text s => (Expr.quotedText s).toList
  | t => t.shown.toList

/-- Whether a character behind a token would be read as a part of it. -/
def extendedBy : Token → Char → Bool
  | word _, c => continuesWord c
  | int _, c => c.isDigit || c == '.'
  | lt, c | gt, c | bang, c => c == '=' || c == '>'
  | _, _ => false

end Token

section Scanning

/-- The characters that start a word by their numbers: Latin letters of both cases and the low
line. -/
theorem startsWord_iff {c : Char} : startsWord c = true ↔
    (65 ≤ c.toNat ∧ c.toNat ≤ 90) ∨ (97 ≤ c.toNat ∧ c.toNat ≤ 122) ∨ c.toNat = 95 := by
  have line : c = '_' ↔ c.toNat = 95 := (Char.toNat_inj (d := '_')).symm
  have unfolded : startsWord c = (decide (c.val ≥ 65 ∧ c.val ≤ 90) ||
      (decide (c.val ≥ 97) && decide (c.val ≤ 122)) || c == '_') := rfl
  simp [unfolded, UInt32.le_iff_toNat_le, line, or_assoc, ← Char.toNat_val]

/-- A word goes on in the characters that start one and in digits. -/
theorem continuesWord_iff {c : Char} :
    continuesWord c = true ↔ startsWord c = true ∨ c.isDigit = true := by
  simp only [continuesWord, startsWord, Char.isAlphanum, Bool.or_eq_true]
  tauto

/-- Neither a word nor a number has a blank in it. -/
theorem not_isBlank_of_continuesWord {c : Char} (h : continuesWord c = true) :
    Text.isBlank c = false := by
  rw [continuesWord_iff, startsWord_iff, isDigit_iff] at h
  simp only [Text.isBlank, Bool.or_eq_false_iff, Bool.and_eq_false_iff, decide_eq_false_iff_not,
    beq_eq_false_iff_ne]
  omega

/-- A digit starts no word, so a number is not taken for one. -/
theorem not_startsWord_of_isDigit {c : Char} (h : c.isDigit = true) : startsWord c = false := by
  rw [isDigit_iff] at h
  rw [← Bool.not_eq_true, startsWord_iff]
  omega

/-- The digits of a number in front of what is no part of it are read as the number. It has to fit a
word, or it would be refused. -/
theorem scanNumber_toDigits {n : Nat} (small : (n : Int) ≤ Number.maxWord) {cs : List Char}
    (apart : ∀ c ∈ cs.head?, (Token.int n).extendedBy c = false) (position : Nat) :
    scanNumber position (Nat.toDigits 10 n ++ cs) = .ok ⟨.int n, Nat.toDigits 10 n, cs⟩ := by
  have digits : ∀ c ∈ Nat.toDigits 10 n, c.isDigit = true := fun c hc =>
    Number.isDigit_of_mem_toDigits hc
  have noDigit : ∀ c ∈ cs.head?, c.isDigit = false := by
    intro c hc
    have := apart c hc
    simp only [Token.extendedBy, Bool.or_eq_false_iff] at this
    exact this.1
  obtain ⟨taken, dropped⟩ := takeWhile_append_of_apart digits noDigit
  have value := Number.digitsValue_toDigits n
  have fits : Number.word? (n : Int) = some (n : Int) := by
    have large : Number.minWord ≤ (n : Int) := by
      simp only [Number.minWord]
      omega
    simp [Number.word?, Number.fitsWord, large, small]
  simp only [scanNumber, taken, dropped, value, fits]
  -- a point would have been excluded, so the number is no fraction
  cases cs with
  | nil => rfl
  | cons c cs =>
    have noPoint : c ≠ '.' := by
      have := apart c rfl
      simp only [Token.extendedBy, Bool.or_eq_false_iff, beq_eq_false_iff_ne] at this
      exact this.2
    split
    · rename_i same
      simp only [List.cons.injEq] at same
      exact absurd same.1 noPoint
    · rfl

/-- A quoted text is read as the text. Each quote inside is written so that it does not end the
text. -/
theorem scanQuoted_quotedChar (s cs : List Char) :
    scanQuoted '\'' (s.flatMap Expr.quotedChar ++ '\'' :: cs) =
      some (s, s.flatMap Expr.quotedChar ++ ['\''], cs) := by
  induction s with
  | nil => simp [scanQuoted]
  | cons c s ih =>
    rw [List.flatMap_cons, List.append_assoc]
    by_cases backslash : c = '\\'
    · subst backslash
      simp [Expr.quotedChar, scanQuoted, ih]
    by_cases quote : c = '\''
    · subst quote
      simp [Expr.quotedChar, scanQuoted, ih]
    by_cases newline : c = '\n'
    · subst newline
      simp [Expr.quotedChar, scanQuoted, ih]
    by_cases tab : c = '\t'
    · subst tab
      simp [Expr.quotedChar, scanQuoted, ih]
    simp [Expr.quotedChar, scanQuoted, backslash, quote, newline, tab, ih]

/-- A sign is scanned as a sign, because it starts neither a word nor a number nor a quoted text. -/
theorem scanToken_of_sign {c : Char} {cs : List Char} {s : Scanned}
    (noWord : startsWord c = false) (noDigit : c.isDigit = false) (noQuote : ¬(c = '\'' ∨ c = '"'))
    (sign : scanSign (c :: cs) = some s) (position : Nat) :
    scanToken position c cs = .ok s := by
  simp [scanToken, noWord, noDigit, noQuote, sign]

/-- A sign that others start with stands alone in front of a character that they do not have. -/
theorem scanSign_of_apart {t : Token} {c : Char} {cs : List Char}
    (sign : (t = .lt ∧ c = '<') ∨ (t = .gt ∧ c = '>') ∨ (t = .bang ∧ c = '!'))
    (apart : ∀ d ∈ cs.head?, t.extendedBy d = false) : scanSign (c :: cs) = some ⟨t, [c], cs⟩ := by
  cases cs with
  | nil => rcases sign with ⟨rfl, rfl⟩ | ⟨rfl, rfl⟩ | ⟨rfl, rfl⟩ <;> rfl
  | cons d cs =>
    have plain := apart d rfl
    rcases sign with ⟨rfl, rfl⟩ | ⟨rfl, rfl⟩ | ⟨rfl, rfl⟩
    all_goals
      simp only [Token.extendedBy, Bool.or_eq_false_iff, beq_eq_false_iff_ne] at plain
      simp [scanSign, plain]

/-- **A token is scanned from its spelling**, if what follows does not go on in it. Floats are left
out, since their digits need not be read back. -/
theorem Token.exists_scanToken {t : Token} (wellFormed : t.WellFormed) (exact : ∀ x, t ≠ .float x)
    {cs : List Char} (apart : ∀ c ∈ cs.head?, t.extendedBy c = false) :
    ∃ c w, t.spelling = c :: w ∧ Text.isBlank c = false ∧
      ∀ position, scanToken position c (w ++ cs) = .ok ⟨t, c :: w, cs⟩ := by
  cases t with
  | word s =>
    obtain ⟨c, w, chars, starts, all⟩ := IsWord.exists_cons wellFormed
    obtain ⟨taken, dropped⟩ := takeWhile_append_of_apart all apart
    have noBlank := not_isBlank_of_continuesWord (all c List.mem_cons_self)
    refine ⟨c, w, chars, noBlank, fun position => ?_⟩
    rw [scanToken, if_pos starts, scanWord, ← List.cons_append, taken, dropped, ← chars,
      String.ofList_toList]
  | int n =>
    obtain ⟨m, rfl⟩ := Int.eq_ofNat_of_zero_le wellFormed.1
    have chars : (Token.int m).spelling = Nat.toDigits 10 m := Nat.toList_repr
    cases digits : Nat.toDigits 10 m with
    | nil => exact absurd digits Nat.toDigits_ne_nil
    | cons c w =>
      have isDigit : c.isDigit = true :=
        Number.isDigit_of_mem_toDigits (digits ▸ List.mem_cons_self)
      refine ⟨c, w, chars.trans digits,
        not_isBlank_of_continuesWord (continuesWord_iff.2 (.inr isDigit)), fun position => ?_⟩
      have scanned := scanNumber_toDigits wellFormed.2 apart position
      rw [digits, List.cons_append] at scanned
      rw [scanToken, if_neg (by simp [not_startsWord_of_isDigit isDigit]), if_pos isDigit, scanned]
  | float x => exact absurd rfl (exact x)
  | text s =>
    refine ⟨'\'', s.toList.flatMap Expr.quotedChar ++ ['\''], ?_, by decide, fun position => ?_⟩
    · simp [spelling, Expr.quotedText]
    · have scanned := scanQuoted_quotedChar s.toList cs
      rw [scanToken, if_neg (by decide), if_neg (by decide), if_pos (.inl rfl), List.append_assoc,
        List.singleton_append, scanned]
      simp only [String.ofList_toList]
  | lt =>
    exact ⟨'<', [], rfl, by decide,
      scanToken_of_sign (by decide) (by decide) (by decide) (scanSign_of_apart (by simp) apart)⟩
  | gt =>
    exact ⟨'>', [], rfl, by decide,
      scanToken_of_sign (by decide) (by decide) (by decide) (scanSign_of_apart (by simp) apart)⟩
  | bang =>
    exact ⟨'!', [], rfl, by decide,
      scanToken_of_sign (by decide) (by decide) (by decide) (scanSign_of_apart (by simp) apart)⟩
  | openParen | closeParen | comma | dot | atSign | star | plus | minus | slash =>
    exact ⟨_, [], rfl, by decide,
      scanToken_of_sign (by decide) (by decide) (by decide) rfl⟩
  | eq | ne | le | ge | andAnd | orOr =>
    exact ⟨_, [_], rfl, by decide,
      scanToken_of_sign (by decide) (by decide) (by decide) rfl⟩

end Scanning

/-- A character that goes on in no token. -/
def Lexer.Breaks (c : Char) : Prop :=
  continuesWord c = false ∧ c ≠ '.' ∧ c ≠ '=' ∧ c ≠ '>'

instance (c : Char) : Decidable (Breaks c) :=
  inferInstanceAs (Decidable (continuesWord c = false ∧ c ≠ '.' ∧ c ≠ '=' ∧ c ≠ '>'))

/-- A character that breaks is no part of any token before it; so a token may stand in front of it
without a space. -/
theorem Token.extendedBy_of_breaks {c : Char} (h : Breaks c) (t : Token) :
    t.extendedBy c = false := by
  obtain ⟨noWord, noPoint, noEq, noGt⟩ := h
  have noDigit : c.isDigit = false := by
    rw [← Bool.not_eq_true, continuesWord_iff] at noWord
    simpa using fun digit => noWord (.inr digit)
  cases t <;> simp [extendedBy, noWord, noPoint, noEq, noGt, noDigit]

/-- **Characters spell tokens.** -/
inductive Spells : List Token → List Char → Prop
  | nil : Spells [] []
  | blank {ts : List Token} {cs : List Char} (rest : Spells ts cs) : Spells ts (' ' :: cs)
  | token {t : Token} {ts : List Token} {cs : List Char} (wellFormed : t.WellFormed)
    (exact : ∀ x, t ≠ .float x) (apart : ∀ c ∈ cs.head?, t.extendedBy c = false)
    (rest : Spells ts cs) : Spells (t :: ts) (t.spelling ++ cs)

namespace Spells

variable {ts us : List Token} {cs ds : List Char}

/-- Spelled tokens may follow spelled tokens behind a character that goes on in none. -/
theorem append (h : Spells ts cs) (next : Spells us ds) (breaks : ∀ c ∈ ds.head?, Breaks c) :
    Spells (ts ++ us) (cs ++ ds) := by
  induction h with
  | nil => exact next
  | blank _ ih => exact .blank ih
  | @token t ts cs wellFormed exact apart _ ih =>
    rw [List.cons_append, List.append_assoc]
    refine .token wellFormed exact ?_ ih
    cases cs with
    | nil => exact fun c hc => Token.extendedBy_of_breaks (breaks c hc) t
    | cons c cs => exact apart

/-- **Spelled characters are scanned** as the tokens that they spell, wherever they stand. By
induction on the spelling. -/
theorem exists_scan (h : Spells ts cs) (fuel position : Nat) (enough : cs.length ≤ fuel) :
    ∃ ls, scan fuel position cs = .ok ls ∧ ls.map Lexeme.token = ts := by
  induction h generalizing fuel position with
  | nil => exact ⟨[], by rw [scan], rfl⟩
  | @blank ts cs _ ih =>
    obtain ⟨fuel, rfl⟩ : ∃ f, fuel = f + 1 := ⟨fuel - 1, by simp at enough; omega⟩
    rw [scan, if_pos (by decide)]
    exact ih _ _ (by simpa using enough)
  | @token t ts cs wellFormed exact apart _ ih =>
    obtain ⟨c, w, chars, noBlank, scanned⟩ := Token.exists_scanToken wellFormed exact apart
    rw [chars, List.cons_append] at enough ⊢
    obtain ⟨fuel, rfl⟩ : ∃ f, fuel = f + 1 := ⟨fuel - 1, by simp at enough; omega⟩
    have left : cs.length ≤ fuel := by
      simp only [List.length_cons, List.length_append] at enough
      omega
    obtain ⟨ls, rest, tokens⟩ := ih fuel (position + Text.byteLength (c :: w)) left
    rw [scan, if_neg (by simp [noBlank]), scanned]
    simp only [rest]
    exact ⟨_, rfl, by simp [tokens]⟩

/-- **The lexer gives back the tokens that a text spells.** Their positions are left open, as they
depend on the blanks. -/
theorem exists_tokenize {s : String} (h : Spells ts s.toList) :
    ∃ ls, tokenize s = .ok ls ∧ ls.map Lexeme.token = ts :=
  h.exists_scan _ _ (Nat.le_refl _)

/-- A text that spells a token has a character that is not blank. -/
theorem exists_not_isBlank (h : Spells ts cs) (some : ts ≠ []) :
    ∃ c ∈ cs, Text.isBlank c = false := by
  induction h with
  | nil => exact absurd rfl some
  | blank _ ih =>
    obtain ⟨c, hc, noBlank⟩ := ih some
    exact ⟨c, List.mem_cons_of_mem _ hc, noBlank⟩
  | token wellFormed exact apart _ _ =>
    obtain ⟨c, w, chars, noBlank, -⟩ := Token.exists_scanToken wellFormed exact apart
    exact ⟨c, by simp [chars], noBlank⟩

end Spells

section Lexing

/-- A number that is scanned is no negative one and fits 64 bits, or has a fraction. -/
theorem wellFormed_of_scanNumber {position : Nat} {cs : List Char} {s : Scanned}
    (h : scanNumber position cs = .ok s) : s.token.WellFormed := by
  simp only [scanNumber] at h
  -- whichever way a number is found not to be a fraction, it is an integer that fits
  cases word : Number.word? (Number.digitsValue (cs.takeWhile Char.isDigit)) with
  | none =>
    rw [word] at h
    split at h
    · split at h
      · cases h
        trivial
      · cases h
    · cases h
  | some n =>
    rw [word] at h
    obtain ⟨rfl, fits⟩ := Number.word?_eq_some.1 word
    simp only [Number.fitsWord, Bool.and_eq_true, decide_eq_true_eq] at fits
    have wellFormed : (Token.int (Number.digitsValue (cs.takeWhile Char.isDigit))).WellFormed :=
      ⟨Int.natCast_nonneg _, fits.2⟩
    split at h
    · split at h
      · cases h
        trivial
      · cases h
        exact wellFormed
    · cases h
      exact wellFormed

/-- A sign carries nothing that could be malformed. -/
theorem wellFormed_of_scanSign {cs : List Char} {s : Scanned} (h : scanSign cs = some s) :
    s.token.WellFormed := by
  unfold scanSign at h
  split at h <;> cases h <;> trivial

/-- **Every scanned token is well formed.** The parser may then rely on what words and numbers look
like. -/
theorem wellFormed_of_scanToken {position : Nat} {c : Char} {cs : List Char} {s : Scanned}
    (h : scanToken position c cs = .ok s) : s.token.WellFormed := by
  rw [scanToken] at h
  split at h
  case isTrue starts =>
    cases h
    have first : ((c :: cs).takeWhile continuesWord).head? = some c := by
      rw [List.takeWhile_cons_of_pos (continuesWord_iff.2 (.inl starts)), List.head?_cons]
    simp only [scanWord, Token.WellFormed, IsWord, String.toList_ofList, first]
    exact ⟨starts, List.all_takeWhile⟩
  case isFalse =>
  split at h
  case isTrue => exact wellFormed_of_scanNumber h
  case isFalse =>
  split at h
  case isTrue =>
    split at h
    · cases h
      trivial
    · cases h
  case isFalse =>
    split at h
    · rename_i sign
      cases h
      exact wellFormed_of_scanSign sign
    · cases h

/-- **All tokens that are scanned are well formed**, by induction along the scan with one token at
each step. -/
theorem wellFormed_of_scan {fuel position : Nat} {cs : List Char} {ls : List Lexeme}
    (h : scan fuel position cs = .ok ls) : ∀ l ∈ ls, l.token.WellFormed := by
  induction fuel generalizing position cs ls with
  | zero =>
    obtain rfl : ls = [] := by cases cs <;> cases h <;> rfl
    simp
  | succ fuel ih =>
    cases cs with
    | nil =>
      cases h
      simp
    | cons c cs =>
      rw [scan] at h
      split at h
      · exact ih h
      split at h
      · cases h
      rename_i s scanned
      dsimp only at h
      split at h
      · cases h
      rename_i more rest
      cases h
      exact List.forall_mem_cons.2 ⟨wellFormed_of_scanToken scanned, ih rest⟩

/-- **All tokens of the lexer are well formed,** as each of them was scanned. -/
theorem wellFormed_of_tokenize {s : String} {ls : List Lexeme} (h : tokenize s = .ok ls) :
    ∀ l ∈ ls, l.token.WellFormed := wellFormed_of_scan h

end Lexing
end Hindsight
