import Hindsight.Proofs.Expr.Phrases

/-!
# Reading back what is written

**A tree that was read from a text is read again from its own text** (`Expr.parse_render`), unless
it has a number with a fraction, whose digits are rounded. Canonical trees make phrases
(`Expr.Canonical.phrase`), by induction on the tree with one case for each form.
-/

namespace Hindsight

open Grammar

namespace Expr

mutual

/-- Whether a number with a fraction occurs in an expression. -/
def hasFloat : Expr → Bool
  | literal (.float _) => true
  | list items => anyHasFloat items
  | unary _ operand => hasFloat operand
  | binary left _ right => hasFloat left || hasFloat right
  | call _ args => anyHasFloat args
  | aggregate _ argument parameter _ filter selection =>
    hasFloat argument || optionHasFloat parameter || optionHasFloat filter ||
      selectionHasFloat selection
  | _ => false

/-- Whether a number with a fraction occurs in any of the expressions. -/
def anyHasFloat : List Expr → Bool
  | [] => false
  | e :: rest => hasFloat e || anyHasFloat rest

/-- Whether a number with a fraction occurs in an optional expression. -/
def optionHasFloat : Option Expr → Bool
  | none => false
  | some e => hasFloat e

/-- Whether a number with a fraction occurs in a selection. -/
def selectionHasFloat : Selection → Bool
  | .all => false
  | .groupBy key => hasFloat key
  | .having _ rank => hasFloat rank

end

/-- No expression of a list has a float in it just if each of them is without one. So each may be
printed on its own. -/
theorem anyHasFloat_eq_false {es : List Expr} :
    anyHasFloat es = false ↔ ∀ e ∈ es, e.hasFloat = false := by
  induction es with
  | nil => simp [anyHasFloat]
  | cons e es ih => simp [anyHasFloat, ih]

/-- The same for a part that may be absent, a filter or a second argument. -/
theorem optionHasFloat_eq_false {o : Option Expr} :
    optionHasFloat o = false ↔ ∀ e ∈ o, e.hasFloat = false := by
  cases o <;> simp [optionHasFloat]

/-- The same for a grouping or a selection, whose only expression is its key or rank. -/
theorem selectionHasFloat_eq_false {s : Selection} :
    selectionHasFloat s = false ↔ ∀ e ∈ s.expr?, e.hasFloat = false := by
  cases s <;> simp [selectionHasFloat, Selection.expr?]

/-- **The text of a canonical tree is a phrase for it.** By induction on the tree: each constructor
has its phrase. Floats are left out, since their digits are rounded. -/
theorem Canonical.phrase {e : Expr} (h : e.Canonical) (exact : e.hasFloat = false) :
    Phrase e.level e.render e := by
  induction h with
  | null =>
    exact .atom (t := .word "null") (by decide : IsWord "null") nofun rfl fun _ _ _ _ _ _ _ => rfl
  | bool b =>
    cases b with
    | true =>
      exact .atom (t := .word "true") (by decide : IsWord "true") nofun rfl fun _ _ _ _ _ _ _ => rfl
    | false =>
      exact .atom (t := .word "false") (by decide : IsWord "false") nofun rfl
        fun _ _ _ _ _ _ _ => rfl
  | int large small => exact .int large small
  | float x => simp [hasFloat] at exact
  | text s => exact .atom (t := .text s) trivial nofun rfl fun _ _ _ _ _ _ _ => rfl
  | attr name words noEntity => exact .attr name words noEntity
  | sourceAttr word words noEntity => exact .sourceAttr word words noEntity
  | field f =>
    have word : IsWord f.word := by cases f <;> decide
    refine .atom (t := .word f.word) word nofun rfl fun _ _ _ _ _ _ _ => ?_
    cases f <;> rfl
  | entity scope word => exact .entity scope word
  | observationTime =>
    exact .atom (t := .word "obs_dt") (by decide : IsWord "obs_dt") nofun rfl
      fun _ _ _ _ _ _ _ => rfl
  | wildcard => exact .atom (t := .star) trivial nofun rfl fun _ _ _ _ _ _ _ => rfl
  | list several each ih =>
    rw [hasFloat, anyHasFloat_eq_false] at exact
    exact .list several fun e he => (ih e he (exact e he)).enclose .disjunction
  | not operand ih =>
    rw [hasFloat] at exact
    exact ((ih exact).enclose .negation).not
  | @negate e operand noInt noFloat ih =>
    rw [hasFloat] at exact
    have unfolded : negative e = .unary .negate e := by
      unfold negative
      split
      · exact absurd rfl (noInt _)
      · exact absurd rfl (noFloat _)
      · rfl
    have read := ((ih exact).enclose .signed).negate
    rw [unfolded] at read
    exact read
  | @binary l r op notIn left right ihl ihr =>
    simp only [hasFloat, Bool.or_eq_false_iff] at exact
    have first := (ihl exact.1).enclose op.leftLevel
    have second := (ihr exact.2).enclose op.rightLevel
    rw [level]
    by_cases compares : op.level = .comparison
    · have left : op.leftLevel = .sum := if_pos compares
      have right : op.rightLevel = .sum := congrArg Level.tighter compares
      rw [left] at first
      rw [right] at second
      rw [compares, render, left, right]
      exact .comparison compares notIn first second
    · have left : op.leftLevel = op.level := if_neg compares
      rw [left] at first
      rw [render, left]
      exact .chain compares first second
  | @isIn l items left some noList each ihl ih =>
    rw [hasFloat, hasFloat, Bool.or_eq_false_iff, anyHasFloat_eq_false] at exact
    have phrases : ∀ e ∈ items, Phrase .disjunction (e.renderAt .disjunction) e := fun e he =>
      (ih e he (exact.2 e he)).enclose .disjunction
    have listed := exists_membershipList some noList phrases
    rw [render, render]
    exact .isIn ((ihl exact.1).enclose .sum) listed
  | call name each ih =>
    rw [hasFloat, anyHasFloat_eq_false] at exact
    exact .call name fun e he => (ih e he (exact e he)).enclose .disjunction
  | aggregate name argument parameter window filter selection iha ihp ihf ihs =>
    simp only [hasFloat, Bool.or_eq_false_iff, optionHasFloat_eq_false,
      selectionHasFloat_eq_false] at exact
    obtain ⟨⟨⟨exactArgument, exactParameter⟩, exactFilter⟩, exactSelection⟩ := exact
    exact .aggregate name ((iha exactArgument).enclose .disjunction)
      (fun e he => (ihp e he (exactParameter e he)).enclose .disjunction) window
      (fun e he => (ihf e he (exactFilter e he)).enclose .disjunction)
      (fun e he => (ihs e he (exactSelection e he)).enclose .sum)

/-- A character that is not blank is still there when the blanks in front are dropped, so a text
with such a character is not blank. -/
theorem mem_dropBlanks {cs : List Char} {c : Char} (hc : c ∈ cs)
    (noBlank : Text.isBlank c = false) : c ∈ Text.dropBlanks cs := by
  induction cs with
  | nil => cases hc
  | cons d cs ih =>
    rw [Text.dropBlanks, List.dropWhile_cons]
    split
    · rename_i blank
      rcases List.mem_cons.1 hc with rfl | hc
      · rw [noBlank] at blank
        cases blank
      · exact ih hc
    · exact hc

/-- The lexemes of a text that spells a token are those tokens. It has a token, so it is not
blank. -/
theorem exists_lexemes {ts : List Token} {s : String} (h : Spells ts s.toList) (some : ts ≠ []) :
    ∃ ls, lexemes s = .ok ls ∧ ls.map Lexeme.token = ts := by
  obtain ⟨ls, tokenized, tokens⟩ := h.exists_tokenize
  obtain ⟨c, hc, noBlank⟩ := h.exists_not_isBlank some
  have kept : c ∈ Text.trimChars s.toList :=
    List.mem_reverse.2 (mem_dropBlanks (List.mem_reverse.2 (mem_dropBlanks hc noBlank)) noBlank)
  have notEmpty : (Text.trimChars s.toList).isEmpty = false := by
    cases chars : Text.trimChars s.toList with
    | nil => simp [chars] at kept
    | cons d cs => rfl
  exact ⟨ls, by rw [lexemes, notEmpty]; exact tokenized, tokens⟩

/-- **A phrase is read as its expression.** Nothing stands behind it, and there is depth enough for
its tokens. -/
theorem parse_of_phrase {L : Level} {s : String} {e : Expr} (h : Phrase L s e) :
    Expr.parse s = .ok e := by
  obtain ⟨ts, spells, derives⟩ := h.whole
  have some : ts ≠ [] := by
    rintro rfl
    have read : (readers 0 1).1 ([] ++ []) = .ok (e, []) :=
      derives.self (by decide) (by decide) rfl (by simp [Follows])
    cases read
  obtain ⟨ls, lexed, tokens⟩ := exists_lexemes spells some
  have deep : ts.length < ls.length + 1 := by
    rw [← tokens, List.length_map]
    exact Nat.lt_succ_self _
  have read : expression s.utf8ByteSize (ls ++ []) = .ok (e, []) := by
    rw [expression, List.length_append]
    exact derives.self (by decide) deep tokens (by simp [Follows])
  rw [List.append_nil] at read
  rw [Expr.parse, lexed, ok_bind, read, ok_bind]
  rfl

/-- **A tree that was read from a text is read again from the text that is written for it**, if no
number in it has a fraction. What is read is canonical, a canonical tree is written as a phrase, and
a phrase is read as the tree that it stands for. -/
theorem parse_render {s : String} {e : Expr} (h : Expr.parse s = .ok e)
    (exact : e.hasFloat = false) : Expr.parse e.render = .ok e :=
  parse_of_phrase ((canonical_of_parse h).phrase exact)

/-- An average by groups whose text needs parentheses, signs and an escape. -/
def groupedAverage : Expr :=
  let difference := .binary (.attr "c") (.arith .sub) (.literal (.int (-1)))
  let argument := .unary .negate (.binary (.attr "a.b") (.arith .sub) difference)
  let tags := .list [.literal (.text "it's")]
  .aggregate "avg" (.binary (.literal (.int 2)) (.arith .mul) argument) none (.last 7 .day)
    (some (.unary .not (.binary (.attr "tag") .isIn tags))) (.groupBy (.unary .not (.attr "d")))

/-- A text that is not written as its tree is: spaces, the case of keywords, a unit in the plural,
`not in` and `!` are its own. -/
theorem parse_render_groupedAverage :
    Expr.parse "avg(2*-(a.b-(c - -1))) OVER last 7 days where tag not in (\"it's\") group by !d" =
      .ok groupedAverage ∧
    groupedAverage.render =
      "avg(2 * -(a.b - (c - -1))) over last 7 day where not tag in ('it\\'s') group by (not d)" ∧
    Expr.parse groupedAverage.render = .ok groupedAverage := by
  have read : Expr.parse
      "avg(2*-(a.b-(c - -1))) OVER last 7 days where tag not in (\"it's\") group by !d" =
        .ok groupedAverage := rfl
  exact ⟨read, rfl, parse_render read rfl⟩

end Expr
end Hindsight
