import Hindsight.Proofs.Expr.Canonical

/-!
# Reading level by level

The reader of a level (`readerAt`) takes an expression of the level from the front of lexemes, if
none of its tokens could go on in what follows. How tightly a token binds to what stands before it
(`Token.binding`) decides that: after an expression of some level it must not be above the rank of
the level (`Follows`).

What one level reads, the next looser one reads as well (`reads_of_tighter`). The chains of
operators that lean to the left need more than that, because an operand is followed there by an
operator of the same level: the reader has then read the operand and is about to go on with the
rest (`Opens`). **Behind an operand, an operator and another operand, it is in that place again**
(`Opens.binary`).
-/

namespace Hindsight

/-- How tightly a token binds to an expression before it. A token that cannot go on in an expression
has the binding zero; an operator is above the level of its own expressions by one. -/
def Token.binding : Token → Nat
  | word w =>
    match Text.asciiLower w with
    | "where" | "group" | "having" => 1
    | "or" => 2
    | "and" => 3
    | "in" | "not" | "contains" | "starts_with" | "ends_with" | "regex" => 5
    | "over" => 8
    | _ => 0
  | orOr => 2
  | andAnd => 3
  | eq | ne | lt | le | gt | ge => 5
  | plus | minus => 6
  | star | slash => 7
  | dot | openParen => 8
  | _ => 0

namespace Grammar

/-- A word is bound as it is in small letters, so `AND` binds as `and` does. -/
theorem binding_of_isWord {l : Lexeme} {w : String} (h : l.isWord w = true) :
    l.token.binding = (Token.word w).binding := by
  unfold Lexeme.isWord at h
  split at h
  · rename_i s same
    have lower : Text.asciiLower s = Text.asciiLower w := eq_of_beq h
    rw [same]
    simp only [Token.binding, lower]
  · cases h

/-- A word that binds tighter than a token is another one. Strengths are compared instead of
words. -/
theorem isWord_eq_false {l : Lexeme} {w : String} {n : Nat} (h : l.token.binding ≤ n)
    (tighter : n < (Token.word w).binding) : l.isWord w = false := by
  rw [← Bool.not_eq_true]
  intro same
  rw [binding_of_isWord same] at h
  omega

/-- No lexeme, or one that does not go on in an expression of a level. -/
def Follows (L : Level) (rest : List Lexeme) : Prop :=
  ∀ l ∈ rest.head?, l.token.binding ≤ L.rank

/-- Whether an expression of a level may end in front of a lexeme is a matter of that lexeme
alone. -/
theorem follows_cons {L : Level} {l : Lexeme} {rest : List Lexeme} :
    Follows L (l :: rest) ↔ l.token.binding ≤ L.rank := by simp [Follows]

/-- What does not go on in a loose level does not go on in a tighter one, as its strength is low
enough for both. -/
theorem Follows.mono {L M : Level} {rest : List Lexeme} (h : Follows M rest)
    (le : M.rank ≤ L.rank) : Follows L rest := fun l hl => Nat.le_trans (h l hl) le

/-- The operators of a level whose expressions lean to the left. -/
def Level.operator? : Level → Lexeme → Option Operator
  | .disjunction => orOperator?
  | .conjunction => andOperator?
  | .sum => sumOperator?
  | .product => productOperator?
  | _ => fun _ => none

/-- The level of which what follows has to be when an expression may still be a left operand. -/
def Level.opening : Level → Level
  | .disjunction => .conjunction
  | .conjunction => .negation
  | .sum => .product
  | .product => .signed
  | L => L

/-- An operator of a level is above the level, so a chain stops in front of what is not. -/
theorem operator?_eq_none {L : Level} {l : Lexeme} (h : l.token.binding ≤ L.rank) :
    L.operator? l = none := by
  cases L with
  | whole | negation | comparison | signed => rfl
  | disjunction =>
    have notOr : l.isWord "or" = false := isWord_eq_false h (by decide)
    simp only [Level.operator?, orOperator?, notOr]
    split
    · rename_i same
      simp [same, Token.binding, Level.rank] at h
    · rfl
  | conjunction =>
    have notAnd : l.isWord "and" = false := isWord_eq_false h (by decide)
    simp only [Level.operator?, andOperator?, notAnd]
    split
    · rename_i same
      simp [same, Token.binding, Level.rank] at h
    · rfl
  | sum =>
    simp only [Level.operator?, sumOperator?]
    split
    · rename_i same
      simp [same, Token.binding, Level.rank] at h
    · rename_i same
      simp [same, Token.binding, Level.rank] at h
    · rfl
  | product =>
    simp only [Level.operator?, productOperator?]
    split
    · rename_i same
      simp [same, Token.binding, Level.rank] at h
    · rename_i same
      simp [same, Token.binding, Level.rank] at h
    · rfl

/-- A token that binds less tightly than a comparison is no operator of one. -/
theorem comparisonOperator?_eq_none {l : Lexeme} (h : l.token.binding ≤ 4) :
    comparisonOperator? l = none := by
  unfold comparisonOperator?
  split
  case h_7 w same =>
    rw [same] at h
    split
    case h_5 => rfl
    all_goals
      rename_i lower
      simp [Token.binding, lower] at h
  case h_8 => rfl
  all_goals
    rename_i same
    simp [same, Token.binding] at h

/-- The reader of a level around readers that nest less than `n` deep. -/
def readerAt (stop n : Nat) : Level → Reader Expr :=
  let self := (readers stop n).1
  let sum := (readers stop n).2
  let signs := signed (primary stop self sum)
  let comparisons := comparison stop self (sumWith stop self sum)
  fun
  | .whole => disjunctionWith stop self sum
  | .disjunction => disjunctionWith stop self sum
  | .conjunction => chain (negation comparisons) andOperator?
  | .negation => negation comparisons
  | .comparison => comparisons
  | .sum => sumWith stop self sum
  | .product => chain signs productOperator?
  | .signed => signs

section Readers

variable {stop : Nat} {self sum operand : Reader Expr} {operator? : Lexeme → Option Operator}
  {ls rest : List Lexeme} {e : Expr}

/-- A chain ends where the next lexeme is none of its operators, however much fuel is left. -/
theorem chainTail_eq_ok (stops : ∀ l ∈ rest.head?, operator? l = none) (fuel : Nat) :
    chainTail operand operator? fuel e rest = .ok (e, rest) := by
  cases fuel with
  | zero => rfl
  | succ fuel =>
    cases rest with
    | nil => rfl
    | cons l rest => simp [chainTail, stops l rfl]

/-- An operand is a chain if no operator follows. -/
theorem chain_of_operand (read : operand ls = .ok (e, rest))
    (stops : ∀ l ∈ rest.head?, operator? l = none) :
    chain operand operator? ls = .ok (e, rest) := by
  rw [chain, read]
  exact chainTail_eq_ok stops _

/-- What is read without a sign before it does not start with one. So the reader of signs passes
nothing over. -/
theorem signed_of_primary {r : Expr × List Lexeme} (read : primary stop self sum ls = .ok r) :
    signed (primary stop self sum) ls = .ok r := by
  unfold signed
  split
  · cases read
  · cases read
  · exact read

/-- A sum is a comparison if no comparison follows. -/
theorem comparison_of_sum (read : sum ls = .ok (e, rest))
    (stops : ∀ l ∈ rest.head?, l.token.binding ≤ 4) :
    comparison stop self sum ls = .ok (e, rest) := by
  rw [comparison, read, ok_bind]
  cases rest with
  | nil => rfl
  | cons l rest =>
    have low := stops l rfl
    have notIn : l.isWord "in" = false := isWord_eq_false low (by decide)
    have notNot : l.isWord "not" = false := isWord_eq_false low (by decide)
    simp only [notIn, notNot, comparisonOperator?_eq_none low]
    rfl

/-- What is read as a comparison does not start with `not`. So the reader of negations passes
nothing over. -/
theorem negation_of_comparison {r : Expr × List Lexeme}
    (read : comparison stop self (sumWith stop self sum) ls = .ok r) :
    negation (comparison stop self (sumWith stop self sum)) ls = .ok r := by
  cases ls with
  | nil => exact read
  | cons l ls =>
    rw [negation]
    split
    · rename_i starts
      obtain ⟨t, p, q⟩ := l
      unfold Lexeme.isWord at starts
      split at starts
      · rename_i w same
        cases same
        have lower : Text.asciiLower w = "not" := eq_of_beq starts
        have isReserved : reserved.contains (Text.asciiLower w) = true := by
          rw [lower]
          decide
        have refused : primary stop self sum (⟨.word w, p, q⟩ :: ls) =
            .error (.unexpectedToken w .expression p) := if_pos isReserved
        have : comparison stop self (sumWith stop self sum) (⟨.word w, p, q⟩ :: ls) =
            .error (.unexpectedToken w .expression p) := by
          simp [comparison, sumWith, chain, signed, refused]
        rw [this] at read
        cases read
      · cases starts
    · exact read

end Readers

/-- The reader of a level takes an expression from the front of its tokens, if what follows is not
above some level. -/
def Reads (stop n : Nat) (L M : Level) (ts : List Token) (e : Expr) : Prop :=
  ∀ ls rest, ls.map Lexeme.token = ts → Follows M rest →
    readerAt stop n L (ls ++ rest) = .ok (e, rest)

/-- The reader of a level has read an expression as its first operand, or as its first operands, and
goes on behind it. -/
def Opens (stop n : Nat) (L : Level) (ts : List Token) (e : Expr) : Prop :=
  ∀ ls rest, ls.map Lexeme.token = ts → Follows L.opening rest → ∃ fuel, rest.length ≤ fuel ∧
    readerAt stop n L (ls ++ rest) =
      chainTail (readerAt stop n L.tighter) L.operator? fuel e rest

section Levels

variable {stop n : Nat} {L M : Level} {ts us : List Token} {e l r : Expr}

/-- What may follow an expression of a level may follow an operand of it as well, so operands are
read in front of it too. -/
theorem rank_le_opening (L : Level) : L.rank ≤ L.opening.rank := by cases L <;> decide

/-- An expression that opens a level is read by the level: behind it the chain finds no operator and
ends. -/
theorem Opens.reads (h : Opens stop n L ts e) : Reads stop n L L ts e := by
  intro ls rest tokens follows
  obtain ⟨fuel, -, read⟩ := h ls rest tokens (follows.mono (rank_le_opening L))
  rw [read]
  exact chainTail_eq_ok (fun l hl => operator?_eq_none (follows l hl)) fuel

/-- What is read in front of every lexeme of some rank is read in front of those of a lower one. -/
theorem Reads.mono (h : Reads stop n L M ts e) {M' : Level} (le : M'.rank ≤ M.rank) :
    Reads stop n L M' ts e := fun ls rest tokens follows => h ls rest tokens (follows.mono le)

/-- **What a level reads, the next looser one reads.** There is one case for each level, since each
has a reader of its own. -/
theorem Reads.of_tighter (h : Reads stop n L.tighter M ts e) (le : M.rank ≤ L.rank) :
    Reads stop n L M ts e := by
  intro ls rest tokens follows
  have read := h ls rest tokens follows
  have stops : ∀ l ∈ rest.head?, L.operator? l = none := fun l hl =>
    operator?_eq_none (Nat.le_trans (follows l hl) le)
  cases L with
  | whole | signed => exact read
  | disjunction | conjunction | sum | product => exact chain_of_operand read stops
  | negation => exact negation_of_comparison read
  | comparison => exact comparison_of_sum read fun l hl => Nat.le_trans (follows l hl) le

/-- On a level without a chain, an expression that is read opens it. There is no operator that could
go on. -/
theorem Opens.of_reads (single : L.opening = L) (h : Reads stop n L L ts e) :
    Opens stop n L ts e := by
  intro ls rest tokens follows
  rw [single] at follows
  refine ⟨rest.length, Nat.le_refl _, (h ls rest tokens follows).trans ?_⟩
  cases L with
  | disjunction | conjunction | sum | product => cases single
  | whole | negation | comparison | signed => exact (chainTail_eq_ok (fun _ _ => rfl) _).symm

/-- What the next tighter level reads is a first operand, and may be the only one. -/
theorem Opens.of_reads_tighter (h : Reads stop n L.tighter L.opening ts e) :
    Opens stop n L ts e := by
  cases L with
  | whole | negation | comparison | signed => exact .of_reads rfl (h.of_tighter (by decide))
  | disjunction | conjunction | sum | product =>
    intro ls rest tokens follows
    refine ⟨rest.length, Nat.le_refl _, ?_⟩
    change chain _ _ _ = _
    rw [chain]
    exact congrArg (· >>= _) (h ls rest tokens follows)

/-- The next tighter level is one rank above, up to the tightest one. -/
theorem rank_tighter (h : L.rank < 7) : L.tighter.rank = L.rank + 1 := by
  cases L <;> first | rfl | exact absurd h (by decide)

/-- A level is told by its rank. -/
theorem eq_of_rank_eq (h : L.rank = M.rank) : L = M := by
  cases L <;> cases M <;> first | rfl | exact absurd h (by decide)

/-- What a level reads, all looser ones read, by induction on the ranks between them. -/
theorem Reads.loosen {F : Level} (h : Reads stop n M F ts e) (le : L.rank ≤ M.rank)
    (low : F.rank ≤ L.rank) : Reads stop n L F ts e := by
  obtain ⟨k, hk⟩ := Nat.exists_eq_add_of_le le
  induction k generalizing L with
  | zero => rwa [← eq_of_rank_eq hk]
  | succ k ih =>
    have most : M.rank ≤ 7 := by cases M <;> decide
    have step : L.tighter.rank = L.rank + 1 := rank_tighter (by omega)
    exact (ih (by omega) (by omega) (by omega)).of_tighter low

/-- An expression that opens a level opens all looser ones. In this way an expression stands
wherever a looser one may. -/
theorem Opens.loosen (h : Opens stop n M ts e) (le : L.rank ≤ M.rank) : Opens stop n L ts e := by
  rcases Nat.eq_or_lt_of_le le with same | lt
  · rwa [eq_of_rank_eq same]
  have most : M.rank ≤ 7 := by cases M <;> decide
  have step : L.tighter.rank = L.rank + 1 := rank_tighter (by omega)
  have low : L.opening.rank ≤ L.tighter.rank := by cases L <;> decide
  have read : Reads stop n M L.opening ts e := h.reads.mono (by omega)
  exact .of_reads_tighter (read.loosen (by omega) low)

/-- **Behind an operand, an operator and another operand, the reader of a chain is where it was
behind the first.** -/
theorem Opens.binary (first : Opens stop n L ts l) {t : Token} {op : Operator}
    (operator : ∀ p q, L.operator? ⟨t, p, q⟩ = some op) (binding : t.binding ≤ L.opening.rank)
    (second : Reads stop n L.tighter L.opening us r) :
    Opens stop n L (ts ++ t :: us) (.binary l op r) := by
  intro ls rest tokens follows
  obtain ⟨ls₁, ls', rfl, tokens₁, tokens'⟩ := List.map_eq_append_iff.1 tokens
  obtain ⟨⟨t', p, q⟩, ls₂, rfl, rfl, tokens₂⟩ := List.map_eq_cons_iff.1 tokens'
  obtain ⟨fuel, enough, read⟩ := first ls₁ (⟨t', p, q⟩ :: (ls₂ ++ rest)) tokens₁
    (follows_cons.2 binding)
  simp only [List.length_cons, List.length_append] at enough
  obtain ⟨fuel, rfl⟩ : ∃ f, fuel = f + 1 := ⟨fuel - 1, by omega⟩
  refine ⟨fuel, by omega, ?_⟩
  rw [List.append_assoc, List.cons_append, read, chainTail, operator p q]
  simp only [second ls₂ rest tokens₂ follows, ok_bind]

end Levels

end Grammar
end Hindsight
