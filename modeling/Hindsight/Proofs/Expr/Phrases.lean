import Hindsight.Proofs.Expr.Levels

/-!
# Phrases

A text is a phrase of a level for an expression (`Phrase`) if it spells tokens that the reader of
the level takes for the expression. Every form of expression makes a phrase of phrases for its
parts, by one lemma for each form.
-/

namespace Hindsight

open Grammar Time

/-- The token of an operator. -/
def Operator.token : Operator → Token
  | compare .eq => .eq
  | compare .ne => .ne
  | compare .gt => .gt
  | compare .ge => .ge
  | compare .lt => .lt
  | compare .le => .le
  | arith .add => .plus
  | arith .sub => .minus
  | arith .mul => .star
  | arith .div => .slash
  | op => .word op.symbol

namespace Operator

/-- The token of an operator is written as the operator itself is, by the cases of operators. -/
theorem spelling_token (op : Operator) : op.token.spelling = op.symbol.toList := by
  rcases op with (_ | _ | _ | _ | _ | _) | (_ | _ | _ | _) | (_ | _) | (_ | _ | _ | _) | _ <;> rfl

/-- The token of an operator is one that a text can have; where it is a word, the word is one of the
lexer. -/
theorem wellFormed_token (op : Operator) : op.token.WellFormed := by
  rcases op with (_ | _ | _ | _ | _ | _) | (_ | _ | _ | _) | (_ | _) | (_ | _ | _ | _) | _ <;>
    trivial

/-- The token of an operator is no float, so that its spelling is exact. -/
theorem token_ne_float (op : Operator) (x : Float) : op.token ≠ .float x := by
  rcases op with (_ | _ | _ | _ | _ | _) | (_ | _ | _ | _) | (_ | _) | (_ | _ | _ | _) | _ <;>
    exact nofun

/-- The token of an operator is just above the level of the operator. -/
theorem binding_token (op : Operator) : op.token.binding = op.level.rank + 1 := by
  rcases op with (_ | _ | _ | _ | _ | _) | (_ | _ | _ | _) | (_ | _) | (_ | _ | _ | _) | _ <;> rfl

/-- An operator of a level that chains is found again by the reader of chains of that level,
wherever it stands. -/
theorem operator?_token {op : Operator} (chains : op.level ≠ .comparison) (p q : Nat) :
    op.level.operator? ⟨op.token, p, q⟩ = some op := by
  rcases op with c | (_ | _ | _ | _) | (_ | _) | m | _
  · exact absurd rfl chains
  all_goals first | rfl | exact absurd rfl chains

/-- A comparison is found again by the reader of comparisons. Membership is read apart from them, by
its words. -/
theorem comparisonOperator?_token {op : Operator} (compares : op.level = .comparison)
    (notIn : op ≠ .isIn) (p q : Nat) : comparisonOperator? ⟨op.token, p, q⟩ = some op := by
  rcases op with (_ | _ | _ | _ | _ | _) | (_ | _ | _ | _) | (_ | _) | (_ | _ | _ | _) | _
  all_goals first | rfl | exact absurd rfl notIn | cases compares

/-- No comparison is taken for a membership, so the reader of comparisons looks for a sum behind
it. -/
theorem isWord_token {op : Operator} (notIn : op ≠ .isIn) (p q : Nat) :
    Lexeme.isWord ⟨op.token, p, q⟩ "in" = false ∧ Lexeme.isWord ⟨op.token, p, q⟩ "not" = false := by
  rcases op with (_ | _ | _ | _ | _ | _) | (_ | _ | _ | _) | (_ | _) | (_ | _ | _ | _) | _
  all_goals first | exact ⟨rfl, rfl⟩ | exact absurd rfl notIn

end Operator

/-- Lexemes with given tokens have the first of these tokens in front, at some position. -/
theorem exists_lexeme {ls : List Lexeme} {t : Token} {ts : List Token}
    (h : ls.map Lexeme.token = t :: ts) :
    ∃ p q ls', ls = ⟨t, p, q⟩ :: ls' ∧ ls'.map Lexeme.token = ts := by
  obtain ⟨⟨t', p, q⟩, ls', rfl, rfl, tokens⟩ := List.map_eq_cons_iff.1 h
  exact ⟨p, q, ls', rfl, tokens⟩

/-- A character that breaks every word and number does so as the first one of any text that it
begins. -/
theorem Lexer.Breaks.head {c : Char} {cs : List Char} (h : Lexer.Breaks c) :
    ∀ d ∈ (c :: cs).head?, Lexer.Breaks d := by
  rintro d ⟨⟩
  exact h

namespace Spells

variable {t : Token} {ts : List Token} {cs : List Char}

/-- A token in front of a space. The space ends every token but a quoted text, which ends by
itself. -/
theorem spaced (wellFormed : t.WellFormed) (exact : ∀ x, t ≠ .float x) (rest : Spells ts cs) :
    Spells (t :: ts) (t.spelling ++ ' ' :: cs) := by
  refine .token wellFormed exact ?_ (.blank rest)
  rintro c ⟨⟩
  exact Token.extendedBy_of_breaks (by decide) t

/-- A sign in front of anything. It may be one that no character goes on in. -/
theorem sign (wellFormed : t.WellFormed) (exact : ∀ x, t ≠ .float x)
    (apart : ∀ c, t.extendedBy c = false) (rest : Spells ts cs) :
    Spells (t :: ts) (t.spelling ++ cs) := .token wellFormed exact (fun c _ => apart c) rest

/-- A word in front of a space. -/
theorem word {w : String} (word : IsWord w) (rest : Spells ts cs) :
    Spells (.word w :: ts) (w.toList ++ ' ' :: cs) := spaced (t := .word w) word nofun rest

/-- A token at the end of a text. -/
theorem single (wellFormed : t.WellFormed) (exact : ∀ x, t ≠ .float x) :
    Spells [t] t.spelling := by
  simpa using Spells.token wellFormed exact (by simp) .nil

end Spells

namespace Grammar

/-- Tokens are read as an expression of a level at every depth that is large enough for them. -/
def Derives (L : Level) (ts : List Token) (e : Expr) : Prop :=
  ∀ stop n, ts.length ≤ n → Opens stop n L ts e

variable {stop n : Nat} {L M : Level} {ts us : List Token} {e l r : Expr}

/-- Tokens that are read as an expression of a level leave what follows to be read, if the depth
suffices for them. -/
theorem Derives.reads (h : Derives L ts e) (deep : ts.length ≤ n) : Reads stop n L L ts e :=
  (h stop n deep).reads

/-- Inside something, the reader of expressions reads those of the two loosest levels, as long as it
is deep enough for their tokens. -/
theorem Derives.self (h : Derives L ts e) (loose : L.rank ≤ 1) (deep : ts.length < n)
    {ls rest : List Lexeme} (tokens : ls.map Lexeme.token = ts) (follows : Follows L rest) :
    (readers stop n).1 (ls ++ rest) = .ok (e, rest) := by
  obtain ⟨n, rfl⟩ : ∃ m, n = m + 1 := ⟨n - 1, by omega⟩
  have read : Reads stop n L L ts e := h.reads (Nat.le_of_lt_succ deep)
  cases L with
  | whole | disjunction => exact read ls rest tokens follows
  | _ => exact absurd loose (by decide)

/-- Inside something, the reader of sums reads a sum, as long as it is deep enough for its
tokens. -/
theorem Derives.sum (h : Derives .sum ts e) (deep : ts.length < n) {ls rest : List Lexeme}
    (tokens : ls.map Lexeme.token = ts) (follows : Follows .sum rest) :
    (readers stop n).2 (ls ++ rest) = .ok (e, rest) := by
  obtain ⟨n, rfl⟩ : ∃ m, n = m + 1 := ⟨n - 1, by omega⟩
  exact h.reads (by omega) ls rest tokens follows

section Items

variable {self : Reader Expr} {ls rest rest' : List Lexeme} {es : List Expr}

/-- A list of expressions in parentheses is its first item and the rest of the list up to the
closing one. -/
theorem items_of_self (first : self ls = .ok (e, rest'))
    (more : ∃ rest'', moreItems self rest'.length rest' = .ok (es, rest'') ∧
      closing stop rest'' = .ok ((), rest)) : items stop self ls = .ok (e :: es, rest) := by
  obtain ⟨rest'', more, closed⟩ := more
  simp only [items, first, more, closed, ok_bind]
  rfl

/-- Several expressions in parentheses are a list. -/
theorem parenthesized_of_items (read : items stop self ls = .ok (es, rest))
    (several : ∀ e, es ≠ [e]) : parenthesized stop self ls = .ok (.list es, rest) := by
  rw [parenthesized, read, ok_bind]
  match es, several with
  | [], _ => rfl
  | [e], several => exact absurd rfl (several e)
  | _ :: _ :: _, _ => rfl

/-- A single expression in parentheses is that expression. -/
theorem parenthesized_of_item (read : items stop self ls = .ok ([e], rest)) :
    parenthesized stop self ls = .ok (e, rest) := by
  rw [parenthesized, read, ok_bind]
  rfl

/-- Tokens are the rest of a parenthesis: further expressions, each behind a comma, and the closing
parenthesis. -/
def DerivesMore (ts : List Token) (es : List Expr) : Prop :=
  (∃ t ts', ts = t :: ts' ∧ t.binding = 0) ∧
  ∀ stop n, ts.length ≤ n → ∀ ls rest fuel, ls.map Lexeme.token = ts → ls.length ≤ fuel →
    ∃ rest', moreItems (readers stop n).1 fuel (ls ++ rest) = .ok (es, rest') ∧
      closing stop rest' = .ok ((), rest)

/-- A closing parenthesis ends the list: it is the rest of no further items. -/
theorem derivesMore_nil : DerivesMore [.closeParen] [] := by
  refine ⟨⟨_, _, rfl, rfl⟩, fun stop n _ ls rest fuel tokens _ => ?_⟩
  obtain ⟨p, q, ls', rfl, tokens'⟩ := exists_lexeme tokens
  obtain rfl := List.map_eq_nil_iff.1 tokens'
  refine ⟨⟨.closeParen, p, q⟩ :: rest, ?_, rfl⟩
  cases fuel <;> rfl

/-- The rest of a parenthesis ends the expression before it: a comma or a closing parenthesis goes
on in none. -/
theorem DerivesMore.follows (more : DerivesMore us es) (tokens : ls.map Lexeme.token = us) :
    Follows L (ls ++ rest) := by
  obtain ⟨⟨t, us', rfl, binding⟩, -⟩ := more
  obtain ⟨p, q, ls', rfl, -⟩ := exists_lexeme tokens
  refine follows_cons.2 ?_
  simp only [binding]
  exact Nat.zero_le _

/-- A comma, the tokens of an expression and the rest of a list are the rest of a list with one more
item. The expression ends there, since neither a comma nor a parenthesis goes on in it. -/
theorem DerivesMore.cons (first : Derives .whole ts e) (more : DerivesMore us es) :
    DerivesMore (.comma :: (ts ++ us)) (e :: es) := by
  refine ⟨⟨_, _, rfl, rfl⟩, fun stop n deep ls rest fuel tokens enough => ?_⟩
  obtain ⟨p, q, ls', rfl, tokens'⟩ := exists_lexeme tokens
  obtain ⟨ls₁, ls₂, rfl, tokens₁, tokens₂⟩ := List.map_eq_append_iff.1 tokens'
  simp only [List.length_cons, List.length_append] at deep enough
  obtain ⟨fuel, rfl⟩ : ∃ f, fuel = f + 1 := ⟨fuel - 1, by omega⟩
  have read : (readers stop n).1 (ls₁ ++ (ls₂ ++ rest)) = .ok (e, ls₂ ++ rest) :=
    first.self (by decide) (by omega) tokens₁ (more.follows tokens₂)
  obtain ⟨rest', readMore, closed⟩ := more.2 stop n (by omega) ls₂ rest fuel tokens₂ (by omega)
  refine ⟨rest', ?_, closed⟩
  rw [List.cons_append, List.append_assoc, moreItems]
  simp only [read, readMore, ok_bind]
  rfl

/-- An expression and the rest of its parenthesis are read as a list, one item after the other. -/
theorem DerivesMore.items (first : Derives .whole ts e) (more : DerivesMore us es)
    (deep : (ts ++ us).length ≤ n) (tokens : ls.map Lexeme.token = ts ++ us) :
    items stop (readers stop n).1 (ls ++ rest) = .ok (e :: es, rest) := by
  obtain ⟨ls₁, ls₂, rfl, tokens₁, tokens₂⟩ := List.map_eq_append_iff.1 tokens
  have some : 0 < us.length := by
    obtain ⟨⟨t, us', rfl, -⟩, -⟩ := more
    simp
  rw [List.length_append] at deep
  rw [List.append_assoc]
  refine items_of_self (first.self (by decide) (by omega) tokens₁ (more.follows tokens₂)) ?_
  exact more.2 stop n (by omega) ls₂ rest _ tokens₂ (by simp)

end Items

end Grammar

/-- **A text is a phrase** of a level for an expression. -/
def Phrase (L : Level) (s : String) (e : Expr) : Prop :=
  ∃ ts, Spells ts s.toList ∧ Derives L ts e

namespace Phrase

variable {L M : Level} {s t : String} {e l r : Expr}

/-- A phrase of a level is one of every looser level, as the reader of the looser level passes it
on. -/
theorem loosen (h : Phrase M s e) (le : L.rank ≤ M.rank) : Phrase L s e := by
  obtain ⟨ts, spells, derives⟩ := h
  exact ⟨ts, spells, fun stop n deep => (derives stop n deep).loosen le⟩

/-- Every phrase is one of the loosest level, the level of whole expressions. -/
theorem whole (h : Phrase L s e) : Phrase .whole s e := h.loosen (Nat.zero_le _)

/-- An expression in parentheses is tight, whatever it was. -/
theorem parenthesize (h : Phrase .whole s e) : Phrase .signed ("(" ++ s ++ ")") e := by
  obtain ⟨ts, spells, derives⟩ := h
  refine ⟨.openParen :: (ts ++ [.closeParen]), ?_, fun stop n deep => .of_reads rfl ?_⟩
  · have chars : ("(" ++ s ++ ")").toList =
        Token.openParen.spelling ++ (s.toList ++ Token.closeParen.spelling) := by
      simp
      rfl
    rw [chars]
    have closed : Spells (ts ++ [.closeParen]) (s.toList ++ Token.closeParen.spelling) :=
      spells.append (.single trivial nofun) (Lexer.Breaks.head (by decide))
    exact .sign trivial nofun (fun _ => rfl) closed
  · intro ls rest tokens _
    obtain ⟨p, q, ls', rfl, tokens'⟩ := exists_lexeme tokens
    have deep' : (ts ++ [Token.closeParen]).length ≤ n := by
      rw [List.length_cons] at deep
      omega
    exact signed_of_primary
      (parenthesized_of_item (derivesMore_nil.items derives deep' tokens'))

/-- **An expression is a phrase wherever it is enclosed as the place asks.** Where it is tight
enough it stands as it is, and elsewhere in parentheses. -/
theorem enclose {own : Level} (h : Phrase own s e) (bound : Level) :
    Phrase bound (bound.enclose own s) e := by
  unfold Level.enclose
  split
  · have low : bound.rank ≤ Level.signed.rank := by cases bound <;> decide
    exact h.whole.parenthesize.loosen low
  · exact h.loosen (by omega)

/-- Two operands and an operator between them are spelled. The spaces around the operator keep the
tokens apart. -/
theorem spells_binary {op : Operator} {ts us : List Token} (left : Spells ts s.toList)
    (right : Spells us t.toList) :
    Spells (ts ++ op.token :: us) (s ++ " " ++ op.symbol ++ " " ++ t).toList := by
  have chars : (s ++ " " ++ op.symbol ++ " " ++ t).toList =
      s.toList ++ ' ' :: (op.token.spelling ++ ' ' :: t.toList) := by
    simp [Operator.spelling_token]
  rw [chars]
  exact left.append (.blank (.spaced op.wellFormed_token op.token_ne_float right))
    (Lexer.Breaks.head (by decide))

/-- Two operands of a chain with its operator between them. The left one may be a chain of the same
level, and the right one may not. -/
theorem chain {op : Operator} (chains : op.level ≠ .comparison) (left : Phrase op.level s l)
    (right : Phrase op.level.tighter t r) :
    Phrase op.level (s ++ " " ++ op.symbol ++ " " ++ t) (.binary l op r) := by
  obtain ⟨ts, spells, derives⟩ := left
  obtain ⟨us, spells', derives'⟩ := right
  have opening : op.level.opening = op.level.tighter ∧
      op.level.rank + 1 ≤ op.level.opening.rank := by
    rcases op with c | (_ | _ | _ | _) | (_ | _) | m | _
    · exact absurd rfl chains
    all_goals first | decide | exact absurd rfl chains
  refine ⟨ts ++ op.token :: us, spells_binary spells spells', fun stop n deep => ?_⟩
  simp only [List.length_append, List.length_cons] at deep
  refine (derives stop n (by omega)).binary (Operator.operator?_token chains) ?_ ?_
  · rw [op.binding_token]
    exact opening.2
  · rw [opening.1]
    exact derives'.reads (by omega)

/-- Two sums with a comparison between them. Comparisons do not chain, so neither side is one. -/
theorem comparison {op : Operator} (compares : op.level = .comparison) (notIn : op ≠ .isIn)
    (left : Phrase .sum s l) (right : Phrase .sum t r) :
    Phrase .comparison (s ++ " " ++ op.symbol ++ " " ++ t) (.binary l op r) := by
  obtain ⟨ts, spells, derives⟩ := left
  obtain ⟨us, spells', derives'⟩ := right
  refine ⟨ts ++ op.token :: us, spells_binary spells spells', fun stop n deep => .of_reads rfl ?_⟩
  intro ls rest tokens follows
  obtain ⟨ls₁, ls', rfl, tokens₁, tokens'⟩ := List.map_eq_append_iff.1 tokens
  obtain ⟨p, q, ls₂, rfl, tokens₂⟩ := exists_lexeme tokens'
  simp only [List.length_append, List.length_cons] at deep
  have binding : op.token.binding = 5 := by
    rw [op.binding_token, compares]
    rfl
  have first : readerAt stop n .sum (ls₁ ++ ⟨op.token, p, q⟩ :: (ls₂ ++ rest)) =
      .ok (l, ⟨op.token, p, q⟩ :: (ls₂ ++ rest)) := by
    refine derives.reads (by omega) ls₁ _ tokens₁ (follows_cons.2 ?_)
    rw [binding]
    decide
  have second : readerAt stop n .sum (ls₂ ++ rest) = .ok (r, rest) :=
    derives'.reads (by omega) ls₂ rest tokens₂ (follows.mono (by decide))
  change Grammar.comparison stop _ (readerAt stop n .sum) _ = _
  rw [List.append_assoc, List.cons_append, Grammar.comparison, first, ok_bind]
  obtain ⟨noIn, noNot⟩ := Operator.isWord_token notIn p q
  simp only [noIn, noNot, Operator.comparisonOperator?_token compares notIn p q, second, ok_bind]
  rfl

/-- A sum in a list of expressions. How the list is read is left open, for it depends on how many
items there are. -/
theorem isIn {items : List Expr} (left : Phrase .sum s l)
    (list : ∃ us, Spells us t.toList ∧ ∀ stop n, us.length ≤ n → ∀ ls rest,
      ls.map Lexeme.token = us →
        membershipList stop (readers stop n).1 (ls ++ rest) = .ok (.list items, rest)) :
    Phrase .comparison (s ++ " " ++ Operator.isIn.symbol ++ " " ++ t)
      (.binary l .isIn (.list items)) := by
  obtain ⟨ts, spells, derives⟩ := left
  obtain ⟨us, spells', read⟩ := list
  refine ⟨ts ++ Operator.isIn.token :: us, spells_binary spells spells',
    fun stop n deep => .of_reads rfl ?_⟩
  intro ls rest tokens follows
  obtain ⟨ls₁, ls', rfl, tokens₁, tokens'⟩ := List.map_eq_append_iff.1 tokens
  obtain ⟨p, q, ls₂, rfl, tokens₂⟩ := exists_lexeme tokens'
  simp only [List.length_append, List.length_cons] at deep
  have first : readerAt stop n .sum (ls₁ ++ ⟨Operator.isIn.token, p, q⟩ :: (ls₂ ++ rest)) =
      .ok (l, ⟨Operator.isIn.token, p, q⟩ :: (ls₂ ++ rest)) :=
    derives.reads (by omega) ls₁ _ tokens₁ (follows_cons.2 (Nat.le_refl 5))
  have isIn : Lexeme.isWord ⟨Operator.isIn.token, p, q⟩ "in" = true := rfl
  change Grammar.comparison stop _ (readerAt stop n .sum) _ = _
  rw [List.append_assoc, List.cons_append, Grammar.comparison, first, ok_bind]
  simp only [isIn, read stop n (by omega) ls₂ rest tokens₂, ok_bind]
  rfl

/-- A negated condition. -/
theorem not (h : Phrase .negation s e) : Phrase .negation ("not " ++ s) (.unary .not e) := by
  obtain ⟨ts, spells, derives⟩ := h
  refine ⟨.word "not" :: ts, ?_, fun stop n deep => .of_reads rfl ?_⟩
  · have chars : ("not " ++ s).toList = (Token.word "not").spelling ++ ' ' :: s.toList := by
      simp
      rfl
    rw [chars]
    exact .spaced (t := .word "not") (by decide : IsWord "not") nofun spells
  · intro ls rest tokens follows
    obtain ⟨p, q, ls', rfl, tokens'⟩ := exists_lexeme tokens
    rw [List.length_cons] at deep
    have read : readerAt stop n .negation (ls' ++ rest) = .ok (e, rest) :=
      derives.reads (by omega) ls' rest tokens' follows
    have isNot : Lexeme.isWord ⟨.word "not", p, q⟩ "not" = true := rfl
    change negation _ _ = _
    rw [List.cons_append, negation, if_pos isNot]
    exact congrArg (· >>= _) read

/-- A negative, of which the sign is not taken into a number. In front of a number the sign becomes
part of the literal that is read. -/
theorem negate (h : Phrase .signed s e) :
    Phrase .signed ("-" ++ s) (negative e) := by
  obtain ⟨ts, spells, derives⟩ := h
  refine ⟨.minus :: ts, ?_, fun stop n deep => .of_reads rfl ?_⟩
  · have chars : ("-" ++ s).toList = Token.minus.spelling ++ s.toList := by
      simp
      rfl
    rw [chars]
    exact .sign trivial nofun (fun _ => rfl) spells
  · intro ls rest tokens follows
    obtain ⟨p, q, ls', rfl, tokens'⟩ := exists_lexeme tokens
    rw [List.length_cons] at deep
    have read : readerAt stop n .signed (ls' ++ rest) = .ok (e, rest) :=
      derives.reads (by omega) ls' rest tokens' follows
    change signed _ _ = _
    rw [List.cons_append, signed]
    exact congrArg (· >>= _) read

/-- An expression of one token. Constants, fields and wildcards are all of this form. -/
theorem atom {t : Token} (wellFormed : t.WellFormed) (exact : ∀ x, t ≠ .float x)
    (chars : s.toList = t.spelling)
    (read : ∀ stop self sum p q rest, Follows .signed rest →
      primary stop self sum (⟨t, p, q⟩ :: rest) = .ok (e, rest)) : Phrase .signed s e := by
  refine ⟨[t], chars ▸ .single wellFormed exact, fun stop n deep => .of_reads rfl ?_⟩
  intro ls rest tokens follows
  obtain ⟨p, q, ls', rfl, tokens'⟩ := exists_lexeme tokens
  obtain rfl := List.map_eq_nil_iff.1 tokens'
  exact signed_of_primary (read _ _ _ p q rest follows)

end Phrase

section Lists

variable {e : Expr} {es : List Expr}

/-- What follows an expression in a parenthesis goes on in no token. -/
theorem breaks_more (es : List Expr) :
    ∀ c ∈ ((Expr.renderMore es).toList ++ [')']).head?, Lexer.Breaks c := by
  cases es with
  | nil => exact Lexer.Breaks.head (by decide)
  | cons e es =>
    simp only [Expr.renderMore, String.toList_append, List.append_assoc]
    exact Lexer.Breaks.head (by decide)

/-- Further expressions, each behind a comma, and a closing parenthesis. By induction on the
expressions. -/
theorem exists_derivesMore (each : ∀ e ∈ es, Phrase .disjunction (e.renderAt .disjunction) e) :
    ∃ ts, Spells ts ((Expr.renderMore es).toList ++ [')']) ∧ DerivesMore ts es := by
  induction es with
  | nil => exact ⟨[.closeParen], .single (t := .closeParen) trivial nofun, derivesMore_nil⟩
  | cons e es ih =>
    obtain ⟨ts, spells, derives⟩ := (each e List.mem_cons_self).whole
    obtain ⟨us, spells', more⟩ := ih fun e he => each e (List.mem_cons_of_mem _ he)
    refine ⟨.comma :: (ts ++ us), ?_, more.cons derives⟩
    have chars : (Expr.renderMore (e :: es)).toList ++ [')'] = Token.comma.spelling ++
        ' ' :: ((e.renderAt .disjunction).toList ++ ((Expr.renderMore es).toList ++ [')'])) := by
      simp [Expr.renderMore, Expr.renderAt]
      rfl
    rw [chars]
    exact .spaced trivial nofun (spells.append spells' (breaks_more es))

/-- One or more expressions with commas between them, and a closing parenthesis. -/
theorem exists_items (some : es ≠ [])
    (each : ∀ e ∈ es, Phrase .disjunction (e.renderAt .disjunction) e) :
    ∃ ts, Spells ts ((Expr.renderItems es).toList ++ [')']) ∧ ∀ stop n, ts.length ≤ n →
      ∀ ls rest, ls.map Lexeme.token = ts →
        items stop (readers stop n).1 (ls ++ rest) = .ok (es, rest) := by
  obtain ⟨e, es, rfl⟩ := List.exists_cons_of_ne_nil some
  obtain ⟨ts, spells, derives⟩ := (each e List.mem_cons_self).whole
  obtain ⟨us, spells', more⟩ := exists_derivesMore fun e he => each e (List.mem_cons_of_mem _ he)
  refine ⟨ts ++ us, ?_, fun stop n deep ls rest tokens => more.items derives deep tokens⟩
  have chars : (Expr.renderItems (e :: es)).toList ++ [')'] =
      (e.renderAt .disjunction).toList ++ ((Expr.renderMore es).toList ++ [')']) := by
    simp [Expr.renderItems, Expr.renderAt]
  rw [chars]
  exact spells.append spells' (breaks_more es)

/-- The tokens of a parenthesis with some expressions in it. -/
theorem spells_parenthesis {ts : List Token}
    (h : Spells ts ((Expr.renderItems es).toList ++ [')'])) :
    Spells (.openParen :: ts) ("(" ++ Expr.renderItems es ++ ")").toList := by
  have chars : ("(" ++ Expr.renderItems es ++ ")").toList =
      Token.openParen.spelling ++ ((Expr.renderItems es).toList ++ [')']) := by
    simp
    rfl
  rw [chars]
  exact .sign trivial nofun (fun _ => rfl) h

/-- Several expressions in a parenthesis. A single one would be read as itself. -/
theorem Phrase.list (several : 2 ≤ es.length)
    (each : ∀ e ∈ es, Phrase .disjunction (e.renderAt .disjunction) e) :
    Phrase .signed ("(" ++ Expr.renderItems es ++ ")") (.list es) := by
  have some : es ≠ [] := by
    rintro rfl
    simp at several
  have noSingle : ∀ e, es ≠ [e] := by
    rintro e rfl
    simp at several
  obtain ⟨ts, spells, read⟩ := exists_items some each
  refine ⟨_, spells_parenthesis spells, fun stop n deep => .of_reads rfl ?_⟩
  intro ls rest tokens _
  obtain ⟨p, q, ls', rfl, tokens'⟩ := exists_lexeme tokens
  rw [List.length_cons] at deep
  exact signed_of_primary
    (parenthesized_of_items (read stop n (by omega) ls' rest tokens') noSingle)

/-- The list behind `in`. A list of one list is left out, since its parentheses would be taken for
those of the list itself. -/
theorem exists_membershipList (some : es ≠ []) (noList : ∀ inner, es ≠ [.list inner])
    (each : ∀ e ∈ es, Phrase .disjunction (e.renderAt .disjunction) e) :
    ∃ us, Spells us ("(" ++ Expr.renderItems es ++ ")").toList ∧ ∀ stop n, us.length ≤ n →
      ∀ ls rest, ls.map Lexeme.token = us →
        membershipList stop (readers stop n).1 (ls ++ rest) = .ok (.list es, rest) := by
  obtain ⟨ts, spells, read⟩ := exists_items some each
  refine ⟨_, spells_parenthesis spells, fun stop n deep ls rest tokens => ?_⟩
  obtain ⟨p, q, ls', rfl, tokens'⟩ := exists_lexeme tokens
  rw [List.length_cons] at deep
  have inside := read stop n (by omega) ls' rest tokens'
  rw [List.cons_append, membershipList]
  match es, some, noList with
  | [e], _, noList =>
    rw [parenthesized_of_item inside, ok_bind]
    dsimp only
    split
    · exact absurd rfl (noList _)
    · rfl
  | _ :: _ :: _, _, _ =>
    rw [parenthesized_of_items inside (by simp)]
    rfl

/-- No expression starts with a closing parenthesis. So a parenthesis that is closed at once has no
arguments. -/
theorem fails_readers_closeParen (stop n p q : Nat) (rest : List Lexeme) :
    Fails ((readers stop n).1 (⟨.closeParen, p, q⟩ :: rest)) := by
  cases n with
  | zero => exact ⟨_, rfl⟩
  | succ n => exact ⟨_, rfl⟩

/-- The arguments of a call. -/
theorem exists_arguments (each : ∀ e ∈ es, Phrase .disjunction (e.renderAt .disjunction) e) :
    ∃ ts, Spells ts ((Expr.renderItems es).toList ++ [')']) ∧ ∀ stop n, ts.length ≤ n →
      ∀ ls rest, ls.map Lexeme.token = ts →
        arguments stop (readers stop n).1 (ls ++ rest) = .ok (es, rest) := by
  by_cases some : es = []
  · subst some
    refine ⟨[.closeParen], .single (t := .closeParen) trivial nofun, ?_⟩
    intro stop n _ ls rest tokens
    obtain ⟨p, q, ls', rfl, tokens'⟩ := exists_lexeme tokens
    obtain rfl := List.map_eq_nil_iff.1 tokens'
    rfl
  · obtain ⟨ts, spells, read⟩ := exists_items some each
    refine ⟨ts, spells, fun stop n deep ls rest tokens => ?_⟩
    have inside := read stop n deep ls rest tokens
    unfold arguments
    split
    · rename_i p q rest' starts
      obtain ⟨fault, fails⟩ := fails_readers_closeParen stop n p q rest'
      rw [starts, items, fails] at inside
      cases inside
    · exact inside

end Lists

section Windows

/-- The tokens of a window. -/
def Time.Window.tokens : Window → List Token
  | .last n unit => [.word "last", .int n, .word unit.name]
  | .next n unit => [.word "next", .int n, .word unit.name]
  | .past => [.word "past"]
  | .future => [.word "future"]
  | .allTime => [.word "all", .word "time"]
  | .yearToDate => [.word "ytd"]
  | .monthToDate => [.word "mtd"]

variable {w : Window}

/-- A window is spelled by its text, token by token. -/
theorem spells_window (writable : w.Writable) : Spells w.tokens w.text.toList := by
  have lengths (s : String) (word : IsWord s) {n : Int} (small : 0 < n ∧ n ≤ Number.maxWord)
      (unit : TimeUnit) : Spells [.word s, .int n, .word unit.name]
        (s ++ " " ++ toString n ++ " " ++ unit.name).toList := by
    have isWord : IsWord unit.name := by cases unit <;> decide
    have chars : (s ++ " " ++ toString n ++ " " ++ unit.name).toList = (Token.word s).spelling ++
        ' ' :: ((Token.int n).spelling ++ ' ' :: (Token.word unit.name).spelling) := by
      simp
      rfl
    rw [chars]
    refine .spaced (t := .word s) word nofun ?_
    refine .spaced (t := .int n) ⟨by omega, small.2⟩ nofun ?_
    exact .single (t := .word unit.name) isWord nofun
  cases w with
  | last n unit => exact lengths "last" (by decide) writable unit
  | next n unit => exact lengths "next" (by decide) writable unit
  | past => exact .single (t := .word "past") (by decide : IsWord "past") nofun
  | future => exact .single (t := .word "future") (by decide : IsWord "future") nofun
  | allTime =>
    exact .spaced (t := .word "all") (by decide : IsWord "all") nofun
      (.single (t := .word "time") (by decide : IsWord "time") nofun)
  | yearToDate => exact .single (t := .word "ytd") (by decide : IsWord "ytd") nofun
  | monthToDate => exact .single (t := .word "mtd") (by decide : IsWord "mtd") nofun

/-- The length of a window is read from its tokens. -/
theorem windowLength_tokens {n : Int} (positive : 0 < n) (unit : TimeUnit) {stop : Nat}
    {ls rest : List Lexeme} (tokens : ls.map Lexeme.token = [.int n, .word unit.name]) :
    windowLength stop (ls ++ rest) = .ok ((n, unit), rest) := by
  obtain ⟨p, q, ls₁, rfl, tokens₁⟩ := exists_lexeme tokens
  obtain ⟨p', q', ls₂, rfl, tokens₂⟩ := exists_lexeme tokens₁
  obtain rfl := List.map_eq_nil_iff.1 tokens₂
  have known : TimeUnit.ofWord? unit.name = some unit := by cases unit <;> decide
  simp only [windowLength, List.cons_append, if_pos positive, anyWord, ok_bind, known]
  rfl

/-- A window is read from its tokens. There is one case for each form of window. -/
theorem window_tokens (writable : w.Writable) {stop position : Nat} {ls rest : List Lexeme}
    (tokens : ls.map Lexeme.token = w.tokens) :
    window stop position (ls ++ rest) = .ok (w, rest) := by
  cases w with
  | last n unit =>
    obtain ⟨p, q, ls₁, rfl, tokens₁⟩ := exists_lexeme tokens
    exact congrArg (· >>= _) (windowLength_tokens writable.1 unit tokens₁)
  | next n unit =>
    obtain ⟨p, q, ls₁, rfl, tokens₁⟩ := exists_lexeme tokens
    exact congrArg (· >>= _) (windowLength_tokens writable.1 unit tokens₁)
  | past | future | yearToDate | monthToDate =>
    obtain ⟨p, q, ls₁, rfl, tokens₁⟩ := exists_lexeme tokens
    obtain rfl := List.map_eq_nil_iff.1 tokens₁
    rfl
  | allTime =>
    obtain ⟨p, q, ls₁, rfl, tokens₁⟩ := exists_lexeme tokens
    obtain ⟨p', q', ls₂, rfl, tokens₂⟩ := exists_lexeme tokens₁
    obtain rfl := List.map_eq_nil_iff.1 tokens₂
    rfl

end Windows

section Clauses

variable {e : Expr} {f : Option Expr} {s : Selection}

/-- The filter of an aggregate, if what follows is no filter. Without a filter nothing is read. -/
theorem exists_filterClause
    (each : ∀ e ∈ f, Phrase .disjunction (e.renderAt .disjunction) e) :
    ∃ ts, Spells ts (Expr.renderFilter f).toList ∧ ∀ stop n, ts.length ≤ n → ∀ ls rest,
      ls.map Lexeme.token = ts → Follows .disjunction rest → atWord "where" rest = false →
        filterClause (readers stop n).1 (ls ++ rest) = .ok (f, rest) := by
  cases f with
  | none =>
    refine ⟨[], .nil, fun stop n _ ls rest tokens _ noWhere => ?_⟩
    obtain rfl := List.map_eq_nil_iff.1 tokens
    cases rest with
    | nil => rfl
    | cons l rest =>
      have noWhere : l.isWord "where" = false := noWhere
      rw [List.nil_append, filterClause]
      simp [noWhere]
  | some e =>
    obtain ⟨ts, spells, derives⟩ := each e rfl
    refine ⟨.word "where" :: ts, ?_, fun stop n deep ls rest tokens follows _ => ?_⟩
    · have chars : (Expr.renderFilter (some e)).toList =
          ' ' :: ("where".toList ++ ' ' :: (e.renderAt .disjunction).toList) := by
        simp [Expr.renderFilter, Expr.renderAt]
      rw [chars]
      exact .blank (.word (by decide) spells)
    · obtain ⟨p, q, ls', rfl, tokens'⟩ := exists_lexeme tokens
      rw [List.length_cons] at deep
      have isWhere : Lexeme.isWord ⟨.word "where", p, q⟩ "where" = true := rfl
      have read : (readers stop n).1 (ls' ++ rest) = .ok (e, rest) :=
        derives.self (by decide) (by omega) tokens' follows
      rw [List.cons_append, filterClause, if_pos isWhere, read]
      rfl

variable {stop : Nat} {sum : Reader Expr} {ls rest : List Lexeme}

/-- What goes on in no expression starts no clause, so an aggregate may end there. -/
theorem selection_of_follows (follows : Follows .whole rest) :
    selection stop sum rest = .ok (.all, rest) ∧ atWord "where" rest = false := by
  cases rest with
  | nil => exact ⟨rfl, rfl⟩
  | cons l rest =>
    have low := follows_cons.1 follows
    have noGroup : l.isWord "group" = false := isWord_eq_false low (by decide)
    have noHaving : l.isWord "having" = false := isWord_eq_false low (by decide)
    refine ⟨?_, isWord_eq_false low (by decide)⟩
    rw [selection]
    simp [noGroup, noHaving]

/-- A grouping takes its key, and there is no `having` behind it. -/
theorem selection_groupBy {key : Expr} (read : sum ls = .ok (key, rest))
    (follows : Follows .whole rest) (p q p' q' : Nat) :
    selection stop sum (⟨.word "group", p, q⟩ :: ⟨.word "by", p', q'⟩ :: ls) =
      .ok (.groupBy key, rest) := by
  have isGroup : Lexeme.isWord ⟨.word "group", p, q⟩ "group" = true := rfl
  have isBy : Lexeme.isWord ⟨.word "by", p', q'⟩ "by" = true := rfl
  simp only [selection, isGroup, atWord, isBy, Bool.not_true, Bool.false_eq_true, if_true, if_false,
    List.drop_one, List.tail_cons, read, ok_bind]
  cases rest with
  | nil => rfl
  | cons l rest =>
    have noHaving : l.isWord "having" = false :=
      isWord_eq_false (follows_cons.1 follows) (by decide)
    simp [noHaving, pure, Except.pure]

/-- The clause behind `having` is read as the extreme and the rank, wherever its words stand. -/
theorem selection_having {extreme : Extreme} {rank : Expr} (read : sum ls = .ok (rank, rest))
    (p q p' q' : Nat) :
    selection stop sum (⟨.word "having", p, q⟩ :: ⟨.word extreme.name, p', q'⟩ :: ls) =
      .ok (.having extreme rank, rest) := by
  cases extreme <;> exact congrArg (· >>= _) read

/-- The grouping or the selection of an aggregate at its end. It is no filter, and it does not go on
in one. -/
theorem exists_selection (each : ∀ e ∈ s.expr?, Phrase .sum (e.renderAt .sum) e) :
    ∃ ts, Spells ts (Expr.renderSelection s).toList ∧ ∀ stop n, ts.length ≤ n → ∀ ls rest,
      ls.map Lexeme.token = ts → Follows .whole rest →
        selection stop (readers stop n).2 (ls ++ rest) = .ok (s, rest) ∧
        Follows .disjunction (ls ++ rest) ∧ atWord "where" (ls ++ rest) = false := by
  cases s with
  | all =>
    refine ⟨[], .nil, fun stop n _ ls rest tokens follows => ?_⟩
    obtain rfl := List.map_eq_nil_iff.1 tokens
    have ends : selection stop (readers stop n).2 rest = .ok (.all, rest) ∧
        atWord "where" rest = false := selection_of_follows follows
    exact ⟨ends.1, follows.mono (by decide), ends.2⟩
  | groupBy key =>
    obtain ⟨ts, spells, derives⟩ := each key rfl
    refine ⟨.word "group" :: .word "by" :: ts, ?_, fun stop n deep ls rest tokens follows => ?_⟩
    · have chars : (Expr.renderSelection (.groupBy key)).toList = ' ' :: ("group".toList ++
          ' ' :: ("by".toList ++ ' ' :: (key.renderAt .sum).toList)) := by
        simp [Expr.renderSelection, Expr.renderAt]
      rw [chars]
      exact .blank (.word (by decide) (.word (by decide) spells))
    · obtain ⟨p, q, ls₁, rfl, tokens₁⟩ := exists_lexeme tokens
      obtain ⟨p', q', ls₂, rfl, tokens₂⟩ := exists_lexeme tokens₁
      simp only [List.length_cons] at deep
      have read : (readers stop n).2 (ls₂ ++ rest) = .ok (key, rest) :=
        derives.sum (by omega) tokens₂ (follows.mono (by decide))
      exact ⟨selection_groupBy read follows p q p' q', follows_cons.2 (Nat.le_refl 1), rfl⟩
  | having extreme rank =>
    obtain ⟨ts, spells, derives⟩ := each rank rfl
    refine ⟨.word "having" :: .word extreme.name :: ts, ?_,
      fun stop n deep ls rest tokens follows => ?_⟩
    · have chars : (Expr.renderSelection (.having extreme rank)).toList = ' ' ::
          ("having".toList ++ ' ' :: (extreme.name.toList ++ ' ' ::
            (rank.renderAt .sum).toList)) := by
        simp [Expr.renderSelection, Expr.renderAt]
      have isWord : IsWord extreme.name := by cases extreme <;> decide
      rw [chars]
      exact .blank (.word (by decide) (.word isWord spells))
    · obtain ⟨p, q, ls₁, rfl, tokens₁⟩ := exists_lexeme tokens
      obtain ⟨p', q', ls₂, rfl, tokens₂⟩ := exists_lexeme tokens₁
      simp only [List.length_cons] at deep
      have read : (readers stop n).2 (ls₂ ++ rest) = .ok (rank, rest) :=
        derives.sum (by omega) tokens₂ (follows.mono (by decide))
      exact ⟨selection_having read p q p' q', follows_cons.2 (Nat.le_refl 1), rfl⟩

/-- The clauses of an aggregate break what stands before them, each with a space in front. -/
theorem breaks_clauses (f : Option Expr) (s : Selection) :
    ∀ c ∈ ((Expr.renderFilter f).toList ++ (Expr.renderSelection s).toList).head?,
      Lexer.Breaks c := by
  have selection : ∀ c ∈ (Expr.renderSelection s).toList.head?, Lexer.Breaks c := by
    cases s with
    | all => simp [Expr.renderSelection]
    | groupBy key =>
      simp only [Expr.renderSelection, String.toList_append]
      exact Lexer.Breaks.head (by decide)
    | having extreme rank =>
      simp only [Expr.renderSelection, String.toList_append, List.append_assoc]
      exact Lexer.Breaks.head (by decide)
  cases f with
  | none => simpa [Expr.renderFilter] using selection
  | some e =>
    simp only [Expr.renderFilter, String.toList_append, List.append_assoc]
    exact Lexer.Breaks.head (by decide)

/-- **An aggregate from behind its `over` on**, which takes all clauses that follow. So an aggregate
in front of another clause has to stand in parentheses. -/
theorem exists_clauses {w : Window} (writable : w.Writable)
    (filter : ∀ e ∈ f, Phrase .disjunction (e.renderAt .disjunction) e)
    (selected : ∀ e ∈ s.expr?, Phrase .sum (e.renderAt .sum) e) :
    ∃ ts, Spells ts (w.text.toList ++
        ((Expr.renderFilter f).toList ++ (Expr.renderSelection s).toList)) ∧
      ∀ stop n name position argument parameter, ts.length ≤ n → ∀ ls rest,
        ls.map Lexeme.token = ts → Follows .whole rest →
          clauses stop (readers stop n).1 (readers stop n).2 name position argument parameter
            (ls ++ rest) = .ok (.aggregate name argument parameter w f s, rest) := by
  obtain ⟨ts, spells, readFilter⟩ := exists_filterClause filter
  obtain ⟨us, spells', readSelection⟩ := exists_selection selected
  refine ⟨w.tokens ++ (ts ++ us), ?_, ?_⟩
  · refine (spells_window writable).append (spells.append spells' ?_) (breaks_clauses f s)
    simpa [Expr.renderFilter] using breaks_clauses none s
  · intro stop n name position argument parameter deep ls rest tokens follows
    obtain ⟨ls₁, ls', rfl, tokens₁, tokens'⟩ := List.map_eq_append_iff.1 tokens
    obtain ⟨ls₂, ls₃, rfl, tokens₂, tokens₃⟩ := List.map_eq_append_iff.1 tokens'
    simp only [List.length_append] at deep
    obtain ⟨select, loose, noWhere⟩ := readSelection stop n (by omega) ls₃ rest tokens₃ follows
    have windowed : window stop position (ls₁ ++ (ls₂ ++ (ls₃ ++ rest))) =
        .ok (w, ls₂ ++ (ls₃ ++ rest)) := window_tokens writable tokens₁
    have filtered := readFilter stop n (by omega) ls₂ (ls₃ ++ rest) tokens₂ loose noWhere
    simp only [List.append_assoc, clauses, windowed, filtered, select, ok_bind]
    rfl

end Clauses

section References

/-- What follows a tightest expression is none of what goes on in a path or a call. -/
theorem Grammar.Follows.noPostfix {ls : List Lexeme} (h : Follows .signed ls) :
    ∀ l ∈ ls.head?, l.token ≠ .dot ∧ l.token ≠ .openParen ∧ l.isWord "over" = false := by
  intro l hl
  have low : l.token.binding ≤ 7 := h l hl
  refine ⟨?_, ?_, isWord_eq_false low (by decide)⟩
  · intro dot
    simp [dot, Token.binding] at low
  · intro paren
    simp [paren, Token.binding] at low

variable {w : String} {ws : List String}

/-- A dotted path is written as its first word and then, for each further word, a point and that
word. -/
theorem toList_dotted (w : String) (ws : List String) :
    (dotted w ws).toList = w.toList ++ ws.flatMap fun v => '.' :: v.toList := by
  induction ws generalizing w with
  | nil => simp [dotted]
  | cons v ws ih =>
    have step : dotted w (v :: ws) = dotted (w ++ "." ++ v) ws := rfl
    rw [step, ih]
    simp

/-- The words of a path behind the first. -/
def dotTokens (ws : List String) : List Token := ws.flatMap fun v => [.dot, .word v]

/-- Behind a word of a dotted path stands a point or nothing, so the word ends there. -/
theorem breaksWord_dots (ws : List String) (s : String) :
    ∀ c ∈ (ws.flatMap fun v => '.' :: v.toList).head?, (Token.word s).extendedBy c = false := by
  cases ws with
  | nil => simp
  | cons v ws =>
    rintro c ⟨⟩
    rfl

/-- The points and words of a path are spelled by its characters, by induction on the words. -/
theorem spells_dots (words : ∀ v ∈ ws, IsWord v) :
    Spells (dotTokens ws) (ws.flatMap fun v => '.' :: v.toList) := by
  induction ws with
  | nil => exact .nil
  | cons v ws ih =>
    obtain ⟨word, words⟩ := List.forall_mem_cons.1 words
    exact .sign (t := .dot) trivial nofun (fun _ => rfl)
      (.token (t := .word v) word nofun (breaksWord_dots ws v) (ih words))

/-- **A dotted path spells its words with points between them**, so the lexer gives back the tokens
that the reader of paths puts together again. -/
theorem spells_dotted (word : IsWord w) (words : ∀ v ∈ ws, IsWord v) :
    Spells (.word w :: dotTokens ws) (dotted w ws).toList := by
  rw [toList_dotted]
  exact .token (t := .word w) word nofun (breaksWord_dots ws w) (spells_dots words)

/-- A path is read from its words, if no point follows. -/
theorem dottedTail_dotTokens {stop : Nat} {path : String} {ls rest : List Lexeme}
    (tokens : ls.map Lexeme.token = dotTokens ws) (follows : Follows .signed rest) :
    dottedTail stop path (ls ++ rest) = .ok (dotted path ws, rest) := by
  induction ws generalizing path ls with
  | nil =>
    obtain rfl := List.map_eq_nil_iff.1 tokens
    rw [List.nil_append]
    unfold dottedTail
    split
    · exact absurd rfl (follows.noPostfix _ rfl).1
    · exact absurd rfl (follows.noPostfix _ rfl).1
    · rfl
  | cons v ws ih =>
    obtain ⟨p, q, ls₁, rfl, tokens₁⟩ := exists_lexeme tokens
    obtain ⟨p', q', ls₂, rfl, tokens₂⟩ := exists_lexeme tokens₁
    rw [List.cons_append, List.cons_append, dottedTail]
    exact ih tokens₂

/-- A name is taken for a call or a path. It is no constant, no field and no keyword, and `entities`
is one only where a point follows. -/
theorem identifier_of_name {stop start : Nat} {self sum : Reader Expr} (name : IsName w)
    {ls : List Lexeme}
    (noEntity : Text.sameWord w "entities" = true → ∀ l ∈ ls.head?, l.token ≠ .dot) :
    identifier stop self sum w start ls = named stop self sum w start ls := by
  have notReserved : reserved.contains (Text.asciiLower w) = false := by
    simpa using name.notReserved
  have notSpecial := name.notSpecial
  simp only [special, List.mem_cons, List.not_mem_nil, or_false, not_or] at notSpecial
  obtain ⟨noTrue, noFalse, noNull, noTime, noType, noEventTime, noId⟩ := notSpecial
  unfold identifier
  simp only [notReserved, Bool.false_eq_true, if_false]
  split
  case h_8 entities =>
    split
    · exact absurd rfl (noEntity (beq_iff_eq.2 entities) _ rfl)
    · rfl
  case h_9 => rfl
  all_goals
    rename_i lower
    exact absurd lower ‹_›

/-- **A path of attributes.** The word `entities` alone is an attribute, and with a point behind it
stands for an entity. -/
theorem Phrase.attr (name : IsName w) (words : ∀ v ∈ ws, IsWord v)
    (noEntity : Text.sameWord w "entities" = true → ws = []) :
    Phrase .signed (dotted w ws) (.attr (dotted w ws)) := by
  refine ⟨_, spells_dotted name.isWord words, fun stop n deep => .of_reads rfl ?_⟩
  intro ls rest tokens follows
  obtain ⟨p, q, ls', rfl, tokens'⟩ := exists_lexeme tokens
  refine signed_of_primary ?_
  have noDot : Text.sameWord w "entities" = true → ∀ l ∈ (ls' ++ rest).head?, l.token ≠ .dot := by
    intro entity l hl
    obtain rfl := noEntity entity
    obtain rfl := List.map_eq_nil_iff.1 tokens'
    exact (follows.noPostfix l hl).1
  have noParen : ∀ l ∈ (ls' ++ rest).head?, l.token ≠ .openParen := by
    cases ws with
    | nil =>
      obtain rfl := List.map_eq_nil_iff.1 tokens'
      exact fun l hl => (follows.noPostfix l hl).2.1
    | cons v ws =>
      obtain ⟨p', q', ls₁, rfl, -⟩ := exists_lexeme tokens'
      rintro l ⟨⟩
      exact nofun
  rw [List.cons_append, primary, identifier_of_name name noDot]
  unfold named
  split
  · rename_i starts
    exact absurd rfl (noParen _ (by rw [starts]; rfl))
  · rw [dottedTail_dotTokens tokens' follows]
    rfl

/-- **A call** of a name with its arguments, where nothing follows that would make it an
aggregate. -/
theorem Phrase.call {args : List Expr} (name : IsName w)
    (each : ∀ e ∈ args, Phrase .disjunction (e.renderAt .disjunction) e) :
    Phrase .signed (w ++ "(" ++ Expr.renderItems args ++ ")") (.call w args) := by
  obtain ⟨ts, spells, read⟩ := exists_arguments each
  refine ⟨.word w :: .openParen :: ts, ?_, fun stop n deep => .of_reads rfl ?_⟩
  · have chars : (w ++ "(" ++ Expr.renderItems args ++ ")").toList = (Token.word w).spelling ++
        (Token.openParen.spelling ++ ((Expr.renderItems args).toList ++ [')'])) := by
      simp
      rfl
    rw [chars]
    refine .token (t := .word w) name.isWord nofun ?_ (.sign trivial nofun (fun _ => rfl) spells)
    rintro c ⟨⟩
    rfl
  · intro ls rest tokens follows
    obtain ⟨p, q, ls₁, rfl, tokens₁⟩ := exists_lexeme tokens
    obtain ⟨p', q', ls₂, rfl, tokens₂⟩ := exists_lexeme tokens₁
    simp only [List.length_cons] at deep
    refine signed_of_primary ?_
    rw [List.cons_append, primary, identifier_of_name name (by simp), List.cons_append, named,
      call_eq, read stop n (by omega) ls₂ rest tokens₂, ok_bind]
    cases rest with
    | nil => rfl
    | cons l rest =>
      have noOver := (follows.noPostfix l rfl).2.2
      simp [callOf, noOver]

/-- **An aggregate**, where nothing follows. All of its parts are phrases of the level that their
place asks for. -/
theorem Phrase.aggregate {a : Expr} {parameter f : Option Expr} {s : Selection} {v : Window}
    (name : IsName w) (argument : Phrase .disjunction (a.renderAt .disjunction) a)
    (parameters : ∀ e ∈ parameter, Phrase .disjunction (e.renderAt .disjunction) e)
    (writable : v.Writable) (filter : ∀ e ∈ f, Phrase .disjunction (e.renderAt .disjunction) e)
    (selected : ∀ e ∈ s.expr?, Phrase .sum (e.renderAt .sum) e) :
    Phrase .whole (Expr.aggregate w a parameter v f s).render
      (.aggregate w a parameter v f s) := by
  have each : ∀ e ∈ a :: parameter.toList, Phrase .disjunction (e.renderAt .disjunction) e := by
    simpa [argument] using parameters
  obtain ⟨ts, spells, readArguments⟩ := exists_arguments each
  obtain ⟨us, spells', readClauses⟩ := exists_clauses writable filter selected
  refine ⟨.word w :: .openParen :: (ts ++ .word "over" :: us), ?_,
    fun stop n deep => .of_reads rfl ?_⟩
  · have more : (Expr.renderMore parameter.toList).toList =
        (Expr.renderParameter parameter).toList := by
      cases parameter <;> simp [Expr.renderMore, Expr.renderParameter]
    have chars : (Expr.aggregate w a parameter v f s).render.toList = (Token.word w).spelling ++
        (Token.openParen.spelling ++
          (((Expr.renderItems (a :: parameter.toList)).toList ++ [')']) ++
            ' ' :: ("over".toList ++ ' ' :: (v.text.toList ++
              ((Expr.renderFilter f).toList ++ (Expr.renderSelection s).toList))))) := by
      simp [Expr.render, Expr.renderItems, more]
      rfl
    rw [chars]
    refine .token (t := .word w) name.isWord nofun ?_ (.sign trivial nofun (fun _ => rfl) ?_)
    · rintro c ⟨⟩
      rfl
    · exact spells.append (.blank (.word (by decide) spells')) (Lexer.Breaks.head (by decide))
  · refine Reads.loosen (M := .signed) ?_ (by decide) (Nat.le_refl _)
    intro ls rest tokens follows
    obtain ⟨p, q, ls₁, rfl, tokens₁⟩ := exists_lexeme tokens
    obtain ⟨p', q', ls₂, rfl, tokens₂⟩ := exists_lexeme tokens₁
    obtain ⟨ls₃, ls₄, rfl, tokens₃, tokens₄⟩ := List.map_eq_append_iff.1 tokens₂
    obtain ⟨p'', q'', ls₅, rfl, tokens₅⟩ := exists_lexeme tokens₄
    simp only [List.length_cons, List.length_append] at deep
    have isOver : Lexeme.isWord ⟨.word "over", p'', q''⟩ "over" = true := rfl
    refine signed_of_primary ?_
    rw [List.cons_append, primary, identifier_of_name name (by simp), List.cons_append, named,
      call_eq, List.append_assoc, readArguments stop n (by omega) ls₃ _ tokens₃, ok_bind,
      List.cons_append, callOf, if_pos isOver]
    cases parameter with
    | none =>
      exact readClauses stop n w p'' a none (by omega) ls₅ rest tokens₅ follows
    | some b =>
      exact readClauses stop n w p'' a (some b) (by omega) ls₅ rest tokens₅ follows

/-- An attribute of the event of an observation, with an at sign in front of its path. -/
theorem Phrase.sourceAttr (word : IsWord w) (words : ∀ v ∈ ws, IsWord v)
    (noEntity : Text.sameWord w "entities" = true → ws = []) :
    Phrase .signed ("@" ++ dotted w ws) (.sourceAttr (dotted w ws)) := by
  refine ⟨.atSign :: .word w :: dotTokens ws, ?_, fun stop n deep => .of_reads rfl ?_⟩
  · have chars : ("@" ++ dotted w ws).toList = Token.atSign.spelling ++ (dotted w ws).toList := by
      simp
      rfl
    rw [chars]
    exact .sign trivial nofun (fun _ => rfl) (spells_dotted word words)
  · intro ls rest tokens follows
    obtain ⟨p, q, ls₁, rfl, tokens₁⟩ := exists_lexeme tokens
    obtain ⟨p', q', ls₂, rfl, tokens₂⟩ := exists_lexeme tokens₁
    refine signed_of_primary ?_
    simp only [List.cons_append, primary, observationReference, anyWord, ok_bind]
    split
    · rename_i entity starts
      obtain rfl := noEntity entity
      obtain rfl := List.map_eq_nil_iff.1 tokens₂
      exact absurd rfl (follows.noPostfix _ (congrArg List.head? starts)).1
    · rw [dottedTail_dotTokens tokens₂ follows]
      rfl

/-- The tokens of a reference to an entity. -/
theorem spells_entity (word : IsWord w) :
    Spells [.word "entities", .dot, .word w] ("entities." ++ w).toList := by
  have chars : ("entities." ++ w).toList = (Token.word "entities").spelling ++
      (Token.dot.spelling ++ (Token.word w).spelling) := by
    simp
    rfl
  rw [chars]
  refine .token (t := .word "entities") (by decide : IsWord "entities") nofun ?_
    (.sign trivial nofun (fun _ => rfl) (.single (t := .word w) word nofun))
  rintro c ⟨⟩
  rfl

/-- An entity of the event at hand or of the observation, the second with an at sign in front. -/
theorem Phrase.entity (scope : EntityScope) (word : IsWord w) :
    Phrase .signed (Expr.entity scope w).render (.entity scope w) := by
  cases scope with
  | event =>
    refine ⟨_, spells_entity word, fun stop n deep => .of_reads rfl ?_⟩
    intro ls rest tokens _
    obtain ⟨p, q, ls₁, rfl, tokens₁⟩ := exists_lexeme tokens
    obtain ⟨p', q', ls₂, rfl, tokens₂⟩ := exists_lexeme tokens₁
    obtain ⟨p'', q'', ls₃, rfl, tokens₃⟩ := exists_lexeme tokens₂
    obtain rfl := List.map_eq_nil_iff.1 tokens₃
    exact signed_of_primary rfl
  | observation =>
    refine ⟨[.atSign, .word "entities", .dot, .word w], ?_, fun stop n deep => .of_reads rfl ?_⟩
    · have chars : (Expr.entity .observation w).render.toList =
          Token.atSign.spelling ++ ("entities." ++ w).toList := by
        simp [Expr.render]
        rfl
      rw [chars]
      exact .sign trivial nofun (fun _ => rfl) (spells_entity word)
    · intro ls rest tokens _
      obtain ⟨p₀, q₀, ls₀, rfl, tokens₀⟩ := exists_lexeme tokens
      obtain ⟨p, q, ls₁, rfl, tokens₁⟩ := exists_lexeme tokens₀
      obtain ⟨p', q', ls₂, rfl, tokens₂⟩ := exists_lexeme tokens₁
      obtain ⟨p'', q'', ls₃, rfl, tokens₃⟩ := exists_lexeme tokens₂
      obtain rfl := List.map_eq_nil_iff.1 tokens₃
      exact signed_of_primary rfl

end References

/-- An integer with its sign. The least integer is left out, since its digits alone do not fit a
word. -/
theorem Phrase.int {n : Int} (large : -Number.maxWord ≤ n) (small : n ≤ Number.maxWord) :
    Phrase .signed (toString n) (.literal (.int n)) := by
  have unsigned (m : Nat) (small : (m : Int) ≤ Number.maxWord) :
      Phrase .signed (toString m) (.literal (.int m)) :=
    .atom (t := .int m) ⟨Int.natCast_nonneg m, small⟩ nofun rfl fun _ _ _ _ _ _ _ => rfl
  cases n with
  | ofNat m => exact unsigned m small
  | negSucc m =>
    have positive : ((m + 1 : Nat) : Int) ≤ Number.maxWord := by omega
    exact (unsigned (m + 1) positive).negate

end Hindsight
