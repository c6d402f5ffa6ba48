import Hindsight.Proofs.Expr.Canonical

/-!
# Positions do not matter

Where tokens stand in a text, and how long the text is, shows in messages only. It is shown reader
by reader that lexemes with the same tokens are read as the same thing and leave lexemes with the
same tokens, or are not read at all (`Grammar.Alike`), up to whole expressions
(`Grammar.alike_expression`) and the name of a feature (`Grammar.alike_aliasClause`).
-/

namespace Hindsight
namespace Grammar

open Time (TimeUnit Window)

/-- **Lexemes have the same tokens,** wherever these stand. -/
inductive SameTokens : List Lexeme → List Lexeme → Prop
  | nil : SameTokens [] []
  | cons (t : Token) {p q p' q' : Nat} {ls ls' : List Lexeme} (rest : SameTokens ls ls') :
    SameTokens (⟨t, p, q⟩ :: ls) (⟨t, p', q'⟩ :: ls')

/-- What is read is the same, and so are the tokens that are left. -/
def SameReading {α : Type} (x y : α × List Lexeme) : Prop := x.1 = y.1 ∧ SameTokens x.2 y.2

/-- **Readers are alike** if they make the same of the same tokens. -/
def Alike {α : Type} (R R' : Reader α) : Prop :=
  ∀ ls ls', SameTokens ls ls' → Related SameReading (R ls) (R' ls')

variable {α β : Type} {stop stop' : Nat} {ls ls' : List Lexeme}

/-- Lexemes with the same tokens are equally many, so that a budget taken from the number of
lexemes, as the one for nesting is, comes out the same on both sides. -/
theorem SameTokens.length_eq (same : SameTokens ls ls') : ls.length = ls'.length := by
  induction same with
  | nil => rfl
  | cons t _ ih => rw [List.length_cons, List.length_cons, ih]

/-- Whether the next lexeme is a given word is a matter of its token alone, not of where it
stands. -/
theorem SameTokens.atWord_eq (same : SameTokens ls ls') (w : String) :
    atWord w ls = atWord w ls' := by
  cases same <;> rfl

/-- Passing over one lexeme on both sides leaves lexemes with the same tokens. -/
theorem SameTokens.drop (same : SameTokens ls ls') : SameTokens (ls.drop 1) (ls'.drop 1) := by
  cases same with
  | nil => exact .nil
  | cons t rest => exact rest

/-- What has been read is done with, and what is left is read on. Readers in sequence are put
together by this. -/
theorem Alike.next {R R' : Reader α} (h : Alike R R') (same : SameTokens ls ls')
    {f f' : α × List Lexeme → Except ParseError (β × List Lexeme)}
    (next : ∀ a rest rest', SameTokens rest rest' →
      Related SameReading (f (a, rest)) (f' (a, rest'))) :
    Related SameReading (R ls >>= f) (R' ls' >>= f') := by
  refine (h ls ls' same).bind ?_
  rintro ⟨a, rest⟩ ⟨_, rest'⟩ ⟨rfl, same'⟩
  exact next a rest rest' same'

/-- The same is made of the same reading, and what is left is not touched. -/
theorem map_sameReading {x y : Except ParseError (α × List Lexeme)}
    (h : Related SameReading x y) (make : α → β) :
    Related SameReading (x >>= fun r => .ok (make r.1, r.2))
      (y >>= fun r => .ok (make r.1, r.2)) := by
  refine h.bind ?_
  rintro ⟨a, rest⟩ ⟨_, rest'⟩ ⟨rfl, same⟩
  exact .ok ⟨rfl, same⟩

/-- What is made of a reading does not matter: alike readers stay alike when the same is made of
what they read. -/
theorem Alike.map {R R' : Reader α} (h : Alike R R') (same : SameTokens ls ls') (make : α → β) :
    Related SameReading (R ls >>= fun r => .ok (make r.1, r.2))
      (R' ls' >>= fun r => .ok (make r.1, r.2)) :=
  map_sameReading (h ls ls' same) make

/-- A word is read on both sides or on neither. What was expected and where the text ends shows in
the message only. -/
theorem alike_anyWord (expected : Expectation) :
    Alike (anyWord stop expected) (anyWord stop' expected) := by
  intro ls ls' same
  cases same with
  | nil => exact .error _ _
  | cons t rest =>
    cases t with
    | word w => exact .ok ⟨rfl, rest⟩
    | _ => exact .error _ _

/-- A closing parenthesis is read on both sides or on neither. -/
theorem alike_closing : Alike (closing stop) (closing stop') := by
  intro ls ls' same
  cases same with
  | nil => exact .error _ _
  | cons t rest =>
    cases t with
    | closeParen => exact .ok ⟨rfl, rest⟩
    | _ => exact .error _ _

section Chains

variable {operand operand' : Reader Expr} {operator? : Lexeme → Option Operator}

/-- **The rest of a chain is read alike if its operands are**, by induction on the fuel. The second
condition says that the operator is found by its token and not by where it stands. -/
theorem alike_chainTail (operands : Alike operand operand')
    (operators : ∀ t p q p' q', operator? ⟨t, p, q⟩ = operator? ⟨t, p', q'⟩) (fuel : Nat)
    (left : Expr) :
    Alike (chainTail operand operator? fuel left) (chainTail operand' operator? fuel left) := by
  intro ls ls' same
  induction fuel generalizing ls ls' left with
  | zero => exact .ok ⟨rfl, same⟩
  | succ fuel ih =>
    cases same with
    | nil => exact .ok ⟨rfl, .nil⟩
    | @cons t p q p' q' _ _ rest =>
      rw [chainTail, chainTail, operators t p q p' q']
      cases operator? ⟨t, p', q'⟩ with
      | none => exact .ok ⟨rfl, .cons t rest⟩
      | some op => exact operands.next rest fun right _ _ same' => ih _ _ _ same'

/-- A chain is read alike if its operands are: the fuel is the number of lexemes behind the first
operand, which is the same on both sides. -/
theorem alike_chain (operands : Alike operand operand')
    (operators : ∀ t p q p' q', operator? ⟨t, p, q⟩ = operator? ⟨t, p', q'⟩) :
    Alike (chain operand operator?) (chain operand' operator?) := by
  intro ls ls' same
  refine operands.next same fun left rest rest' same' => ?_
  dsimp only
  rw [same'.length_eq]
  exact alike_chainTail operands operators _ left _ _ same'

end Chains

variable {self self' sum sum' : Reader Expr}

section Lists

/-- The rest of a list is read alike if its items are, by induction on the fuel. -/
theorem alike_moreItems (hself : Alike self self') (fuel : Nat) :
    Alike (moreItems self fuel) (moreItems self' fuel) := by
  intro ls ls' same
  induction fuel generalizing ls ls' with
  | zero => exact .ok ⟨rfl, same⟩
  | succ fuel ih =>
    cases same with
    | nil => exact .ok ⟨rfl, .nil⟩
    | cons t rest =>
      cases t with
      | comma =>
        refine hself.next rest fun e _ _ same' => ?_
        exact Alike.map ih same' (e :: ·)
      | _ => exact .ok ⟨rfl, .cons _ rest⟩

/-- A list is read alike if its items are; the fuel is the number of lexemes behind the first item,
the same on both sides. -/
theorem alike_items (hself : Alike self self') : Alike (items stop self) (items stop' self') := by
  intro ls ls' same
  refine hself.next same fun first rest rest' same' => ?_
  dsimp only
  rw [same'.length_eq]
  refine (alike_moreItems hself _).next same' fun more _ _ same'' => ?_
  exact alike_closing.map same'' fun _ => first :: more

/-- A parenthesis is read alike: the items are, and what is made of them depends on their number
only. -/
theorem alike_parenthesized (hself : Alike self self') :
    Alike (parenthesized stop self) (parenthesized stop' self') := by
  intro ls ls' same
  refine (alike_items hself).next same fun es rest rest' same' => ?_
  match es with
  | [] | [_] | _ :: _ :: _ => exact .ok ⟨rfl, same'⟩

/-- The list behind `in` is read alike, with and without a parenthesis of its own around one
value. -/
theorem alike_membershipList (hself : Alike self self') :
    Alike (membershipList stop self) (membershipList stop' self') := by
  intro ls ls' same
  cases same with
  | nil => exact .error _ _
  | cons t rest =>
    cases t with
    | openParen =>
      refine (alike_parenthesized hself).next rest fun e _ _ same' => ?_
      cases e <;> exact .ok ⟨rfl, same'⟩
    | _ => exact .error _ _

end Lists

section References

/-- The rest of a dotted path is read alike, along the recursion of the reader. -/
theorem alike_dottedTail (path : String) :
    Alike (dottedTail stop path) (dottedTail stop' path) := by
  intro ls ls' same
  fun_induction dottedTail stop path ls generalizing ls' with
  | case1 path p q w p' q' ls ih =>
    obtain _ | ⟨_, _ | ⟨_, rest⟩⟩ := same
    exact ih _ rest
  | case2 path p q ls noWord =>
    obtain _ | ⟨_, rest⟩ := same
    cases rest with
    | nil => exact .error _ _
    | cons t rest =>
      cases t with
      | word w => exact absurd rfl (noWord _ _ _ _)
      | _ => exact .error _ _
  | case3 path ls noPath noPoint =>
    cases same with
    | nil => exact .ok ⟨rfl, .nil⟩
    | cons t rest =>
      cases t with
      | dot => exact absurd rfl (noPoint _ _ _)
      | _ => exact .ok ⟨rfl, .cons _ rest⟩

/-- What stands behind an at sign is read alike: a name, and a type of entity or a path. -/
theorem alike_observationReference :
    Alike (observationReference stop) (observationReference stop') := by
  intro ls ls' same
  refine (alike_anyWord _).next same fun name rest rest' same' => ?_
  have path : Related SameReading
      (dottedTail stop name rest >>= fun r => .ok (Expr.sourceAttr r.1, r.2))
      (dottedTail stop' name rest' >>= fun r => .ok (Expr.sourceAttr r.1, r.2)) :=
    (alike_dottedTail name).map same' _
  dsimp only
  cases Text.sameWord name "entities" with
  | false => exact path
  | true =>
    cases same' with
    | nil => exact path
    | cons t more =>
      cases t with
      | dot => exact (alike_anyWord _).map more (Expr.entity .observation)
      | _ => exact path

end References

section Windows

/-- The length of a window is read alike. The position of the unit is taken on both sides, and the
two differ, but they show only in the message that refuses the unit. -/
theorem alike_windowLength : Alike (windowLength stop) (windowLength stop') := by
  intro ls ls' same
  cases same with
  | nil => exact .error _ _
  | cons t rest =>
    cases t with
    | int n =>
      unfold windowLength
      dsimp only
      by_cases positive : 0 < n
      · rw [if_pos positive, if_pos positive]
        refine (alike_anyWord _).next rest fun w _ _ same' => ?_
        dsimp only
        cases TimeUnit.ofWord? w with
        | none => exact .error _ _
        | some unit => exact .ok ⟨rfl, same'⟩
      · rw [if_neg positive, if_neg positive]
        exact .error _ _
    | _ => exact .error _ _

/-- A window is read alike, whatever position each side would report for a missing one. -/
theorem alike_window (position position' : Nat) :
    Alike (window stop position) (window stop' position') := by
  intro ls ls' same
  cases same with
  | nil => exact .error _ _
  | cons t rest =>
    cases t with
    | word w =>
      unfold window
      dsimp only
      split
      case h_1 | h_2 => exact alike_windowLength.map rest fun l => Window.last l.1 l.2
      case h_3 => exact alike_windowLength.map rest fun l => Window.next l.1 l.2
      case h_7 =>
        cases rest with
        | nil => exact .error _ _
        | @cons t p q p' q' _ _ more =>
          have time : (Lexeme.mk t p q).isWord "time" = (Lexeme.mk t p' q').isWord "time" := rfl
          dsimp only
          rw [time]
          split
          · exact .ok ⟨rfl, more⟩
          · exact .error _ _
      case h_10 => exact .error _ _
      all_goals exact .ok ⟨rfl, rest⟩
    | _ => exact .error _ _

end Windows

section Aggregates

/-- A filter is read alike if expressions are. -/
theorem alike_filterClause (hself : Alike self self') :
    Alike (filterClause self) (filterClause self') := by
  intro ls ls' same
  cases same with
  | nil => exact .ok ⟨rfl, .nil⟩
  | @cons t p q p' q' _ _ rest =>
    have filtered : (Lexeme.mk t p q).isWord "where" = (Lexeme.mk t p' q').isWord "where" := rfl
    rw [filterClause, filterClause]
    dsimp only
    rw [filtered]
    split
    · exact hself.map rest some
    · exact .ok ⟨rfl, .cons t rest⟩

/-- The extreme and the rank behind `having` are read alike if sums are. -/
theorem alike_havingClause (hsum : Alike sum sum') :
    Alike (havingClause stop sum) (havingClause stop' sum') := by
  intro ls ls' same
  cases same with
  | nil => exact .error _ _
  | @cons t p q p' q' _ _ rest =>
    have word (w : String) : (Lexeme.mk t p q).isWord w = (Lexeme.mk t p' q').isWord w := rfl
    rw [havingClause, havingClause, word, word]
    split
    · exact hsum.map rest (Selection.having .min)
    · split
      · exact hsum.map rest (Selection.having .max)
      · exact .error _ _

/-- The grouping or the selection of an aggregate is read alike if sums are. -/
theorem alike_selection (hsum : Alike sum sum') :
    Alike (selection stop sum) (selection stop' sum') := by
  intro ls ls' same
  cases same with
  | nil => exact .ok ⟨rfl, .nil⟩
  | @cons t p q p' q' _ _ rest =>
    have word (w : String) : (Lexeme.mk t p q).isWord w = (Lexeme.mk t p' q').isWord w := rfl
    rw [selection, selection]
    dsimp only
    rw [word, word, rest.atWord_eq]
    split
    · split
      · exact .error _ _
      · refine hsum.next rest.drop fun key _ _ same' => ?_
        cases same' with
        | nil => exact .ok ⟨rfl, .nil⟩
        | @cons t p q p' q' _ _ more =>
          have having : (Lexeme.mk t p q).isWord "having" = (Lexeme.mk t p' q').isWord "having" :=
            rfl
          dsimp only
          rw [having]
          split
          · exact .error _ _
          · exact .ok ⟨rfl, .cons t more⟩
    · split
      · exact alike_havingClause hsum _ _ rest
      · exact .ok ⟨rfl, .cons t rest⟩

/-- **The clauses of an aggregate are read alike**, whatever position each side has for its `over`:
what one clause leaves has the same tokens on both sides, and the next clause starts there. -/
theorem alike_clauses (hself : Alike self self') (hsum : Alike sum sum') (name : String)
    (position position' : Nat) (argument : Expr) (parameter : Option Expr) :
    Alike (clauses stop self sum name position argument parameter)
      (clauses stop' self' sum' name position' argument parameter) := by
  intro ls ls' same
  refine (alike_window _ _).next same fun w _ _ same => ?_
  refine (alike_filterClause hself).next same fun filter _ _ same => ?_
  exact (alike_selection hsum).map same (Expr.aggregate name argument parameter w filter)

/-- An aggregate is read alike, or refused on both sides for the number of its arguments. -/
theorem alike_aggregate (hself : Alike self self') (hsum : Alike sum sum') (name : String)
    (start position start' position' : Nat) (args : List Expr) :
    Alike (aggregate stop self sum name start position args)
      (aggregate stop' self' sum' name start' position' args) := by
  intro ls ls' same
  match args with
  | [a] => exact alike_clauses hself hsum name _ _ a none _ _ same
  | [a, b] => exact alike_clauses hself hsum name _ _ a (some b) _ _ same
  | [] | _ :: _ :: _ :: _ => exact .error _ _

/-- The arguments of a call are read alike if expressions are. -/
theorem alike_arguments (hself : Alike self self') :
    Alike (arguments stop self) (arguments stop' self') := by
  intro ls ls' same
  cases same with
  | nil => exact alike_items hself _ _ .nil
  | cons t rest =>
    cases t with
    | closeParen => exact .ok ⟨rfl, rest⟩
    | _ => exact alike_items hself _ _ (.cons _ rest)

/-- A call is read alike, and becomes an aggregate on both sides or on neither, since `over` is a
token. -/
theorem alike_call (hself : Alike self self') (hsum : Alike sum sum') (name : String)
    (start start' : Nat) :
    Alike (call stop self sum name start) (call stop' self' sum' name start') := by
  intro ls ls' same
  rw [call_eq, call_eq]
  refine (alike_arguments hself).next same fun args _ _ same' => ?_
  cases same' with
  | nil => exact .ok ⟨rfl, .nil⟩
  | @cons t p q p' q' _ _ more =>
    have word : (Lexeme.mk t p q).isWord "over" = (Lexeme.mk t p' q').isWord "over" := rfl
    dsimp only [callOf]
    rw [word]
    split
    · exact alike_aggregate hself hsum name _ _ _ _ args _ _ more
    · exact .ok ⟨rfl, .cons t more⟩

end Aggregates

section Operators

/-- What a name stands for is read alike, a call or a dotted path. -/
theorem alike_named (hself : Alike self self') (hsum : Alike sum sum') (name : String)
    (start start' : Nat) :
    Alike (named stop self sum name start) (named stop' self' sum' name start') := by
  intro ls ls' same
  have path {ls ls' : List Lexeme} (same : SameTokens ls ls') :
      Related SameReading (dottedTail stop name ls >>= fun r => .ok (Expr.attr r.1, r.2))
        (dottedTail stop' name ls' >>= fun r => .ok (Expr.attr r.1, r.2)) :=
    (alike_dottedTail name).map same Expr.attr
  cases same with
  | nil => exact path .nil
  | cons t rest =>
    cases t with
    | openParen => exact alike_call hself hsum name _ _ _ _ rest
    | _ => exact path (.cons _ rest)

/-- The expression that starts with a word is read alike; the words with a meaning of their own are
told by the word, which is the same on both sides. -/
theorem alike_identifier (hself : Alike self self') (hsum : Alike sum sum') (name : String)
    (start start' : Nat) :
    Alike (identifier stop self sum name start) (identifier stop' self' sum' name start') := by
  intro ls ls' same
  have reference : Related SameReading (named stop self sum name start ls)
      (named stop' self' sum' name start' ls') := alike_named hself hsum name _ _ _ _ same
  unfold identifier
  dsimp only
  split
  · exact .error _ _
  split
  case h_8 =>
    cases same with
    | nil => exact reference
    | cons t rest =>
      cases t with
      | dot => exact (alike_anyWord _).map rest (Expr.entity .event)
      | _ => exact reference
  case h_9 => exact reference
  all_goals exact .ok ⟨rfl, same⟩

/-- **An expression without operators around it is read alike** if expressions and sums are: the
token at the head decides which reader it is. -/
theorem alike_primary (hself : Alike self self') (hsum : Alike sum sum') :
    Alike (primary stop self sum) (primary stop' self' sum') := by
  intro ls ls' same
  cases same with
  | nil => exact .error _ _
  | cons t rest =>
    cases t with
    | int | float | text | star => exact .ok ⟨rfl, rest⟩
    | openParen => exact alike_parenthesized hself _ _ rest
    | atSign => exact alike_observationReference _ _ rest
    | word w => exact alike_identifier hself hsum w _ _ _ _ rest
    | _ => exact .error _ _

/-- Signs are passed over alike, along the recursion of the reader. -/
theorem alike_signed {inner inner' : Reader Expr} (hinner : Alike inner inner') :
    Alike (signed inner) (signed inner') := by
  intro ls ls' same
  induction same with
  | nil => exact hinner _ _ .nil
  | cons t rest ih =>
    cases t with
    | minus => exact map_sameReading ih negative
    | bang => exact map_sameReading ih (Expr.unary .not)
    | _ => exact hinner _ _ (.cons _ rest)

/-- Sums are read alike: they are chains of chains of signed primary expressions, and their
operators are found by tokens. -/
theorem alike_sumWith (hself : Alike self self') (hsum : Alike sum sum') :
    Alike (sumWith stop self sum) (sumWith stop' self' sum') :=
  alike_chain (alike_chain (alike_signed (alike_primary hself hsum)) fun _ _ _ _ _ => rfl)
    fun _ _ _ _ _ => rfl

/-- A comparison is read alike, with a list, another sum or nothing behind its first sum. -/
theorem alike_comparison (hself : Alike self self') (hsum : Alike sum sum') :
    Alike (comparison stop self sum) (comparison stop' self' sum') := by
  intro ls ls' same
  refine hsum.next same fun left _ _ same' => ?_
  cases same' with
  | nil => exact .ok ⟨rfl, .nil⟩
  | @cons t p q p' q' _ _ more =>
    have word (w : String) : (Lexeme.mk t p q).isWord w = (Lexeme.mk t p' q').isWord w := rfl
    have operator : comparisonOperator? ⟨t, p, q⟩ = comparisonOperator? ⟨t, p', q'⟩ := rfl
    dsimp only
    rw [word, word, more.atWord_eq, operator]
    split
    · exact (alike_membershipList hself).map more (Expr.binary left .isIn)
    split
    · exact (alike_membershipList hself).map more.drop
        fun list => Expr.unary .not (.binary left .isIn list)
    cases comparisonOperator? ⟨t, p', q'⟩ with
    | none => exact .ok ⟨rfl, .cons t more⟩
    | some op => exact hsum.map more (Expr.binary left op)

/-- The words `not` are passed over alike, along the recursion of the reader. -/
theorem alike_negation {inner inner' : Reader Expr} (hinner : Alike inner inner') :
    Alike (negation inner) (negation inner') := by
  intro ls ls' same
  induction same with
  | nil => exact hinner _ _ .nil
  | @cons t p q p' q' _ _ rest ih =>
    have word : (Lexeme.mk t p q).isWord "not" = (Lexeme.mk t p' q').isWord "not" := rfl
    rw [negation, negation, word]
    split
    · exact map_sameReading ih (Expr.unary .not)
    · exact hinner _ _ (.cons t rest)

/-- Disjunctions are read alike: they are chains of chains of negated comparisons. -/
theorem alike_disjunctionWith (hself : Alike self self') (hsum : Alike sum sum') :
    Alike (disjunctionWith stop self sum) (disjunctionWith stop' self' sum') :=
  alike_chain (alike_chain (alike_negation (alike_comparison hself (alike_sumWith hself hsum)))
    fun _ _ _ _ _ => rfl) fun _ _ _ _ _ => rfl

/-- Readers of any depth are alike, by induction on the depth. Both sides have the same depth, as
they have as many lexemes. -/
theorem alike_readers (n : Nat) :
    Alike (readers stop n).1 (readers stop' n).1 ∧
      Alike (readers stop n).2 (readers stop' n).2 := by
  induction n with
  | zero => exact ⟨fun _ _ _ => .error _ _, fun _ _ _ => .error _ _⟩
  | succ n ih => exact ⟨alike_disjunctionWith ih.1 ih.2, alike_sumWith ih.1 ih.2⟩

end Operators

/-- **The same tokens are read as the same expression.** Only the faults may differ, in the
positions that they report. -/
theorem alike_expression : Alike (expression stop) (expression stop') := by
  intro ls ls' same
  rw [expression, expression, same.length_eq]
  exact (alike_readers _).1 _ _ same

/-- The same tokens name a feature in the same way. -/
theorem alike_aliasClause : Alike (aliasClause stop) (aliasClause stop') := by
  intro ls ls' same
  cases same with
  | nil => exact .ok ⟨rfl, .nil⟩
  | @cons t p q p' q' _ _ rest =>
    have word : (Lexeme.mk t p q).isWord "as" = (Lexeme.mk t p' q').isWord "as" := rfl
    rw [aliasClause, aliasClause]
    dsimp only
    rw [word]
    split
    · exact (alike_anyWord _).map rest some
    · exact .ok ⟨rfl, .cons t rest⟩

/-- The text ends after the same tokens, and what is left behind an expression is left on both
sides. -/
theorem SameTokens.endOfText (same : SameTokens ls ls') :
    Related Eq (endOfText stop ls) (endOfText stop' ls') := by
  cases same with
  | nil => exact .ok rfl
  | cons => exact .error _ _

end Grammar
end Hindsight
