import Hindsight.Expr.Parser
import Hindsight.Proofs.Expr.Spelling

/-!
# What texts read as

The syntax trees that texts have (`Expr.Canonical`): names and paths are made of words of the lexer
and are not taken for anything else, integers and windows are as large as they can be written, a
list has at least two items unless it stands behind `in`, and no sign stands before a number.
**Every tree that is read is of this kind** (`Expr.canonical_of_parse`). It is shown reader by
reader that well-formed tokens yield canonical parts and leave well-formed tokens
(`Grammar.Yields`).
-/

namespace Hindsight

open Grammar Time

/-- The words that stand for something else where an attribute could be named. -/
def Grammar.special : List String :=
  ["true", "false", "null", "obs_dt", "event_type", "event_time", "event_id"]

/-- A word that names an attribute or a function. -/
structure IsName (w : String) : Prop where
  isWord : IsWord w
  notReserved : Text.asciiLower w ∉ Grammar.reserved
  notSpecial : Text.asciiLower w ∉ Grammar.special

/-- A path from a word on, with points between its words. -/
def dotted (w : String) (ws : List String) : String := ws.foldl (fun path v => path ++ "." ++ v) w

/-- A window of a length that can be written. -/
def Time.Window.Writable : Window → Prop
  | .last n _ | .next n _ => 0 < n ∧ n ≤ Number.maxWord
  | _ => True

namespace Expr

/-- **The syntax trees that texts have.** -/
inductive Canonical : Expr → Prop
  | null : Canonical (.literal .null)
  | bool (b : Bool) : Canonical (.literal (.bool b))
  | int {n : Int} (large : -Number.maxWord ≤ n) (small : n ≤ Number.maxWord) :
    Canonical (.literal (.int n))
  | float (x : Float) : Canonical (.literal (.float x))
  | text (s : String) : Canonical (.literal (.text s))
  | attr {w : String} {ws : List String} (name : IsName w) (words : ∀ v ∈ ws, IsWord v)
    (noEntity : Text.sameWord w "entities" = true → ws = []) : Canonical (.attr (dotted w ws))
  | sourceAttr {w : String} {ws : List String} (word : IsWord w) (words : ∀ v ∈ ws, IsWord v)
    (noEntity : Text.sameWord w "entities" = true → ws = []) : Canonical (.sourceAttr (dotted w ws))
  | field (f : EventField) : Canonical (.field f)
  | entity (scope : EntityScope) {t : String} (word : IsWord t) : Canonical (.entity scope t)
  | observationTime : Canonical .observationTime
  | wildcard : Canonical .wildcard
  | list {items : List Expr} (several : 2 ≤ items.length) (each : ∀ e ∈ items, Canonical e) :
    Canonical (.list items)
  | not {e : Expr} (operand : Canonical e) : Canonical (.unary .not e)
  | negate {e : Expr} (operand : Canonical e) (noInt : ∀ n, e ≠ .literal (.int n))
    (noFloat : ∀ x, e ≠ .literal (.float x)) : Canonical (.unary .negate e)
  | binary {l r : Expr} {op : Operator} (notIn : op ≠ .isIn) (left : Canonical l)
    (right : Canonical r) : Canonical (.binary l op r)
  | isIn {l : Expr} {items : List Expr} (left : Canonical l) (some : items ≠ [])
    (noList : ∀ inner, items ≠ [.list inner]) (each : ∀ e ∈ items, Canonical e) :
    Canonical (.binary l .isIn (.list items))
  | call {f : String} {args : List Expr} (name : IsName f) (each : ∀ e ∈ args, Canonical e) :
    Canonical (.call f args)
  | aggregate {f : String} {a : Expr} {p c : Option Expr} {w : Window} {s : Selection}
    (name : IsName f) (argument : Canonical a) (parameter : ∀ e ∈ p, Canonical e)
    (window : w.Writable) (filter : ∀ e ∈ c, Canonical e)
    (selection : ∀ e ∈ s.expr?, Canonical e) : Canonical (.aggregate f a p w c s)

end Expr

namespace Grammar

open Hindsight.Expr (Canonical)

/-- Lexemes as the lexer makes them. -/
def AllWellFormed (ls : List Lexeme) : Prop := ∀ l ∈ ls, l.token.WellFormed

/-- The lexemes behind the first one are well formed if all of them are, so this is kept as a reader
goes on. -/
theorem AllWellFormed.tail {l : Lexeme} {ls : List Lexeme} (h : AllWellFormed (l :: ls)) :
    AllWellFormed ls := (List.forall_mem_cons.1 h).2

/-- A reader makes something of a kind of well-formed lexemes, and leaves such lexemes. -/
def Yields {α : Type} (R : Reader α) (P : α → Prop) : Prop :=
  ∀ ls a rest, AllWellFormed ls → R ls = .ok (a, rest) → P a ∧ AllWellFormed rest

/-- **What a reader yields is handed to what reads on**: if the two together come to something, the
first one has read something of its kind and left well-formed lexemes, and the second one has come
to the result from there. -/
theorem Yields.next {α β : Type} {R : Reader α} {P : α → Prop} (h : Yields R P) {ls : List Lexeme}
    (wf : AllWellFormed ls) {f : α × List Lexeme → Except ParseError β} {b : β}
    (read : R ls >>= f = .ok b) :
    ∃ a rest, P a ∧ AllWellFormed rest ∧ f (a, rest) = .ok b := by
  obtain ⟨⟨a, rest⟩, first, read⟩ := bind_eq_ok_iff.1 read
  obtain ⟨here, wf'⟩ := h _ _ _ wf first
  exact ⟨a, rest, here, wf', read⟩

variable {stop : Nat} {self sum operand : Reader Expr}

/-- A word that is read is a word of the lexer, because its token is well formed. -/
theorem yields_anyWord (expected : Expectation) : Yields (anyWord stop expected) IsWord := by
  intro ls a rest wf h
  unfold anyWord at h
  split at h
  · cases h
    exact ⟨wf _ List.mem_cons_self, wf.tail⟩
  · cases h

/-- A closing parenthesis is nothing by itself; it leaves well-formed lexemes. -/
theorem yields_closing : Yields (closing stop) (fun _ => True) := by
  intro ls a rest wf h
  unfold closing at h
  split at h
  · cases h
    exact ⟨trivial, wf.tail⟩
  · cases h

section Chains

variable {operator? : Lexeme → Option Operator}

/-- **A chain from a canonical operand on is canonical**, by induction on the fuel. Membership is
excluded among the operators, because its right side would have to be a list. -/
theorem yields_chainTail (operands : Yields operand Canonical)
    (noList : ∀ l, operator? l ≠ some .isIn) (fuel : Nat) {left : Expr} (hleft : Canonical left) :
    Yields (chainTail operand operator? fuel left) Canonical := by
  intro ls e rest wf h
  induction fuel generalizing ls left with
  | zero =>
    cases h
    exact ⟨hleft, wf⟩
  | succ fuel ih =>
    cases ls with
    | nil =>
      cases h
      exact ⟨hleft, wf⟩
    | cons l ls =>
      rw [chainTail] at h
      split at h
      · cases h
        exact ⟨hleft, wf⟩
      · rename_i op found
        obtain ⟨right, rest', hright, wf', h⟩ := operands.next wf.tail h
        have noIn : op ≠ .isIn := fun same => noList l (same ▸ found)
        exact ih (.binary noIn hleft hright) _ wf' h

/-- Operands with operators of one strength between them make a canonical expression. A membership
is never one of these operators, so no operand has to be a list. -/
theorem yields_chain (operands : Yields operand Canonical)
    (noList : ∀ l, operator? l ≠ some .isIn) : Yields (chain operand operator?) Canonical := by
  intro ls e rest wf h
  obtain ⟨left, rest', hleft, wf', h⟩ := operands.next wf h
  exact yields_chainTail operands noList _ hleft _ _ _ wf' h

end Chains

section Lists

/-- The rest of a list consists of canonical items, by induction on the fuel. -/
theorem yields_moreItems (hself : Yields self Canonical) (fuel : Nat) :
    Yields (moreItems self fuel) (fun es => ∀ e ∈ es, Canonical e) := by
  intro ls es rest wf h
  induction fuel generalizing ls es with
  | zero =>
    cases h
    exact ⟨by simp, wf⟩
  | succ fuel ih =>
    unfold moreItems at h
    split at h
    · rename_i same
      obtain rfl := Nat.succ.inj same
      obtain ⟨e, rest', he, wf', h⟩ := hself.next wf.tail h
      obtain ⟨⟨more, rest''⟩, hmore, h⟩ := bind_eq_ok_iff.1 h
      cases h
      obtain ⟨each, wf''⟩ := ih _ _ wf' hmore
      exact ⟨List.forall_mem_cons.2 ⟨he, each⟩, wf''⟩
    · cases h
      exact ⟨by simp, wf⟩

/-- The expressions of a parenthesis are canonical, and there is at least one. So a list of a text
is never empty. -/
theorem yields_items (hself : Yields self Canonical) :
    Yields (items stop self) (fun es => es ≠ [] ∧ ∀ e ∈ es, Canonical e) := by
  intro ls es rest wf h
  obtain ⟨first, rest', hfirst, wf', h⟩ := hself.next wf h
  obtain ⟨more, rest'', each, wf'', h⟩ := (yields_moreItems hself _).next wf' h
  obtain ⟨⟨⟩, rest''', -, wf''', h⟩ := yields_closing.next wf'' h
  cases h
  exact ⟨⟨by simp, List.forall_mem_cons.2 ⟨hfirst, each⟩⟩, wf'''⟩

/-- What stands in parentheses is canonical: a single expression as it is, and several as a list of
at least two items. -/
theorem yields_parenthesized (hself : Yields self Canonical) :
    Yields (parenthesized stop self) Canonical := by
  intro ls e rest wf h
  obtain ⟨es, rest', ⟨some, each⟩, wf', h⟩ := (yields_items hself).next wf h
  match es, some, each, h with
  | [_], _, each, h =>
    cases h
    exact ⟨each _ List.mem_cons_self, wf'⟩
  | _ :: _ :: _, _, each, h =>
    cases h
    exact ⟨.list (by simp) each, wf'⟩

/-- What stands behind `in` makes a canonical membership: a list with an item, which is no list if
it is the only one. -/
theorem yields_membershipList (hself : Yields self Canonical) :
    Yields (membershipList stop self)
      (fun e => ∀ l, Canonical l → Canonical (.binary l .isIn e)) := by
  intro ls e rest wf h
  unfold membershipList at h
  split at h
  · obtain ⟨inner, rest', hinner, wf', h⟩ := (yields_parenthesized hself).next wf.tail h
    dsimp only at h
    split at h
    · rename_i es
      cases h
      cases hinner with
      | list several each =>
        refine ⟨fun l hl => .isIn hl ?_ ?_ each, wf'⟩
        · rintro rfl
          simp at several
        · rintro inner rfl
          simp at several
    · rename_i noList
      cases h
      refine ⟨fun l hl => .isIn hl (by simp) (fun es same => ?_) (by simpa using hinner), wf'⟩
      exact noList es (List.head_eq_of_cons_eq same)
  · cases h

end Lists

section References

/-- A path goes on from its first word by words, and not at all if no point follows. By recursion
along the reader of paths. -/
theorem exists_dotted_of_dottedTail {path a : String} {ls rest : List Lexeme}
    (wf : AllWellFormed ls) (h : dottedTail stop path ls = .ok (a, rest)) :
    ∃ ws, a = dotted path ws ∧ (∀ v ∈ ws, IsWord v) ∧ AllWellFormed rest ∧
      ((∀ l ∈ ls.head?, l.token ≠ .dot) → ws = []) := by
  fun_induction dottedTail stop path ls with
  | case1 path p q w p' q' ls ih =>
    obtain ⟨ws, ha, words, wf', -⟩ := ih wf.tail.tail h
    have word : IsWord w := wf.tail _ List.mem_cons_self
    refine ⟨w :: ws, ha, List.forall_mem_cons.2 ⟨word, words⟩, wf', fun none => ?_⟩
    exact absurd rfl (none _ rfl)
  | case2 => cases h
  | case3 =>
    cases h
    exact ⟨[], rfl, by simp, wf, fun _ => rfl⟩

/-- What an at sign refers to is canonical: a path from a word on, or an entity of a type that is a
word. A path behind the word `entities` would have been taken for an entity. -/
theorem yields_observationReference : Yields (observationReference stop) Canonical := by
  intro ls e rest wf h
  obtain ⟨w, rest', word, wf', h⟩ := (yields_anyWord _).next wf h
  dsimp only at h
  split at h
  · obtain ⟨t, rest'', hword, wf'', h⟩ := (yields_anyWord _).next wf'.tail h
    cases h
    exact ⟨.entity _ hword, wf''⟩
  · rename_i ls' noEntity
    obtain ⟨⟨path, rest''⟩, read, h⟩ := bind_eq_ok_iff.1 h
    cases h
    obtain ⟨ws, rfl, words, wf'', stops⟩ := exists_dotted_of_dottedTail wf' read
    refine ⟨.sourceAttr word words fun entity => stops fun l hl dot => ?_, wf''⟩
    obtain ⟨more, rfl⟩ := List.head?_eq_some_iff.1 hl
    obtain ⟨t, p, q⟩ := l
    cases dot
    exact noEntity _ _ _ entity rfl

end References

section Windows

/-- The length of a window is positive, as it is checked when it is read, and fits 64 bits since its
token does. -/
theorem yields_windowLength :
    Yields (windowLength stop) (fun l => 0 < l.1 ∧ l.1 ≤ Number.maxWord) := by
  intro ls l rest wf h
  unfold windowLength at h
  split at h
  · rename_i n p q rest'
    split at h
    · rename_i positive
      obtain ⟨w, rest'', -, wf'', h⟩ := (yields_anyWord _).next wf.tail h
      dsimp only at h
      split at h
      · cases h
        have small : 0 ≤ n ∧ n ≤ Number.maxWord := wf _ List.mem_cons_self
        exact ⟨⟨positive, small.2⟩, wf''⟩
      · cases h
    · cases h
  · cases h
  · cases h

/-- A window that is read has a length that can be written, if it has one: a positive number and a
unit. -/
theorem yields_window (position : Nat) : Yields (window stop position) Window.Writable := by
  intro ls w rest wf h
  unfold window at h
  split at h
  · cases h
  · split at h
    case h_7 =>
      -- `all` has to be followed by `time`
      split at h
      · split at h
        · cases h
          exact ⟨trivial, wf.tail.tail⟩
        · cases h
      · cases h
    case h_10 => cases h
    case h_1 | h_2 | h_3 =>
      obtain ⟨⟨n, unit⟩, rest'', bounds, wf'', h⟩ := yields_windowLength.next wf.tail h
      cases h
      exact ⟨bounds, wf''⟩
    all_goals
      cases h
      exact ⟨trivial, wf.tail⟩
  · cases h

end Windows

section Aggregates

/-- A filter that is read is canonical; where there is no filter nothing is claimed. -/
theorem yields_filterClause (hself : Yields self Canonical) :
    Yields (filterClause self) (fun f => ∀ e ∈ f, Canonical e) := by
  intro ls f rest wf h
  unfold filterClause at h
  split at h
  · split at h
    · obtain ⟨e, rest', he, wf', h⟩ := hself.next wf.tail h
      cases h
      exact ⟨by simpa using he, wf'⟩
    · cases h
      exact ⟨by simp, wf⟩
  · cases h
    exact ⟨by simp, wf⟩

/-- The rank behind `having` is canonical. -/
theorem yields_havingClause (hsum : Yields sum Canonical) :
    Yields (havingClause stop sum) (fun s => ∀ e ∈ s.expr?, Canonical e) := by
  intro ls s rest wf h
  unfold havingClause at h
  split at h
  · split at h
    · obtain ⟨e, rest', he, wf', h⟩ := hsum.next wf.tail h
      cases h
      exact ⟨by simpa [Selection.expr?] using he, wf'⟩
    · split at h
      · obtain ⟨e, rest', he, wf', h⟩ := hsum.next wf.tail h
        cases h
        exact ⟨by simpa [Selection.expr?] using he, wf'⟩
      · cases h
  · cases h

/-- The key of a grouping and the rank of a selection are canonical. They are sums, not whole
expressions, as the grammar has it. -/
theorem yields_selection (hsum : Yields sum Canonical) :
    Yields (selection stop sum) (fun s => ∀ e ∈ s.expr?, Canonical e) := by
  intro ls s rest wf h
  unfold selection at h
  split at h
  · rename_i l ls'
    split at h
    · split at h
      · cases h
      have wf' : AllWellFormed (ls'.drop 1) := fun l hl => wf.tail l (List.mem_of_mem_drop hl)
      obtain ⟨e, rest', he, wf'', h⟩ := hsum.next wf' h
      dsimp only at h
      split at h
      · split at h
        · cases h
        · cases h
          exact ⟨by simpa [Selection.expr?] using he, wf''⟩
      · cases h
        exact ⟨by simpa [Selection.expr?] using he, wf''⟩
    · split at h
      · exact yields_havingClause hsum _ _ _ wf.tail h
      · cases h
        exact ⟨by simp [Selection.expr?], wf⟩
  · cases h
    exact ⟨by simp [Selection.expr?], wf⟩

/-- An aggregate of given arguments from behind its `over` on. -/
def clauses (stop : Nat) (self sum : Reader Expr) (name : String) (position : Nat)
    (argument : Expr) (parameter : Option Expr) : Reader Expr := fun ls => do
  let (w, rest) ← window stop position ls
  let (filter, rest) ← filterClause self rest
  let (sel, rest) ← selection stop sum rest
  return (.aggregate name argument parameter w filter sel, rest)

/-- The arguments of a call and the closing parenthesis. -/
def arguments (stop : Nat) (self : Reader Expr) : Reader (List Expr)
  | ⟨.closeParen, _, _⟩ :: rest => .ok ([], rest)
  | ls => items stop self ls

/-- A call of given arguments from behind its closing parenthesis on. -/
def callOf (stop : Nat) (self sum : Reader Expr) (name : String) (start : Nat) (args : List Expr) :
    Reader Expr
  | l :: more =>
    if l.isWord "over" then aggregate stop self sum name start l.start args more
    else .ok (.call name args, l :: more)
  | [] => .ok (.call name args, [])

/-- A call is read as its arguments and then as what follows them, so that the two can be told
apart. -/
theorem call_eq (name : String) (start : Nat) (ls : List Lexeme) :
    call stop self sum name start ls =
      arguments stop self ls >>= fun r => callOf stop self sum name start r.1 r.2 := by
  unfold call
  split
  · rename_i rest
    cases rest <;> rfl
  · rename_i notClosed
    have read : arguments stop self ls = items stop self ls := by
      unfold arguments
      split
      · exact absurd rfl (notClosed _ _ _)
      · rfl
    rw [read]
    cases items stop self ls with
    | error e => rfl
    | ok r =>
      obtain ⟨args, rest⟩ := r
      cases rest <;> rfl

/-- **An aggregate with canonical arguments is canonical**: its name is one by assumption, and the
window, the filter and the selection come from readers that yield such parts. -/
theorem yields_clauses (hself : Yields self Canonical) (hsum : Yields sum Canonical)
    {name : String} (hname : IsName name) (position : Nat) {argument : Expr}
    {parameter : Option Expr} (hargument : Canonical argument)
    (hparameter : ∀ e ∈ parameter, Canonical e) :
    Yields (clauses stop self sum name position argument parameter) Canonical := by
  intro ls e rest wf h
  obtain ⟨w, rest₁, hw, wf₁, h⟩ := (yields_window position).next wf h
  obtain ⟨filter, rest₂, hfilter, wf₂, h⟩ := (yields_filterClause hself).next wf₁ h
  obtain ⟨sel, rest₃, hsel, wf₃, h⟩ := (yields_selection hsum).next wf₂ h
  cases h
  exact ⟨.aggregate hname hargument hparameter hw hfilter hsel, wf₃⟩

/-- A call with `over` behind it is a canonical aggregate. With no argument, or with more than two
of them, it is refused, so nothing is to be shown for those. -/
theorem yields_aggregate (hself : Yields self Canonical) (hsum : Yields sum Canonical)
    {name : String} (hname : IsName name) (start position : Nat) {args : List Expr}
    (hargs : ∀ e ∈ args, Canonical e) :
    Yields (aggregate stop self sum name start position args) Canonical := by
  intro ls e rest wf h
  match args, hargs, h with
  | [a], hargs, h =>
    exact yields_clauses hself hsum hname position (hargs a (by simp)) (by simp) _ _ _ wf h
  | [a, b], hargs, h =>
    have hb : ∀ e ∈ some b, Canonical e := by simpa using hargs b (by simp)
    exact yields_clauses hself hsum hname position (hargs a (by simp)) hb _ _ _ wf h
  | [], _, h => cases h
  | _ :: _ :: _ :: _, _, h => cases h

/-- A call is canonical, whether it becomes an aggregate or not. What stands behind its parenthesis
decides. -/
theorem yields_call (hself : Yields self Canonical) (hsum : Yields sum Canonical)
    {name : String} (hname : IsName name) (start : Nat) :
    Yields (call stop self sum name start) Canonical := by
  intro ls e rest wf h
  have hargs : Yields (arguments stop self) (fun args => ∀ a ∈ args, Canonical a) := by
    intro ls args rest wf h
    unfold arguments at h
    split at h
    · cases h
      exact ⟨by simp, wf.tail⟩
    · obtain ⟨⟨-, each⟩, wf'⟩ := yields_items hself _ _ _ wf h
      exact ⟨each, wf'⟩
  rw [call_eq] at h
  obtain ⟨args, rest', each, wf', h⟩ := hargs.next wf h
  cases rest' with
  | nil =>
    cases h
    exact ⟨.call hname each, wf'⟩
  | cons l more =>
    dsimp only [callOf] at h
    split at h
    · exact yields_aggregate hself hsum hname _ _ each _ _ _ wf'.tail h
    · cases h
      exact ⟨.call hname each, wf'⟩

end Aggregates

section Operators

/-- What a name stands for: a call or a path. -/
def named (stop : Nat) (self sum : Reader Expr) (name : String) (start : Nat) : Reader Expr
  | ⟨.openParen, _, _⟩ :: rest => call stop self sum name start rest
  | ls => do
    let (path, rest) ← dottedTail stop name ls
    return (.attr path, rest)

/-- What a name stands for is canonical, a call or a path. The word `entities` in front of a point
is excluded, since that is read as an entity and not as a path. -/
theorem canonical_of_named (hself : Yields self Canonical) (hsum : Yields sum Canonical)
    {name : String} (hname : IsName name) {start : Nat} {ls rest : List Lexeme} {e : Expr}
    (noEntity : Text.sameWord name "entities" = true → ∀ l ∈ ls.head?, l.token ≠ .dot)
    (wf : AllWellFormed ls) (h : named stop self sum name start ls = .ok (e, rest)) :
    Canonical e ∧ AllWellFormed rest := by
  unfold named at h
  split at h
  · exact yields_call hself hsum hname start _ _ _ wf.tail h
  · obtain ⟨⟨path, rest'⟩, read, h⟩ := bind_eq_ok_iff.1 h
    cases h
    obtain ⟨ws, rfl, words, wf', stops⟩ := exists_dotted_of_dottedTail wf read
    exact ⟨.attr hname words fun entity => stops (noEntity entity), wf'⟩

/-- The expression that starts with a word is canonical. Reserved words are refused and special
words have a node of their own, so that a word that is left is a name. -/
theorem yields_identifier (hself : Yields self Canonical) (hsum : Yields sum Canonical)
    {name : String} (word : IsWord name) (start : Nat) :
    Yields (identifier stop self sum name start) Canonical := by
  intro ls e rest wf h
  unfold identifier at h
  dsimp only at h
  split at h
  · cases h
  rename_i notReserved
  have hname (notSpecial : Text.asciiLower name ∉ special) : IsName name :=
    ⟨word, by simpa using notReserved, notSpecial⟩
  split at h
  case h_1 | h_2 =>
    cases h
    exact ⟨.bool _, wf⟩
  case h_3 =>
    cases h
    exact ⟨.null, wf⟩
  case h_4 =>
    cases h
    exact ⟨.observationTime, wf⟩
  case h_5 | h_6 | h_7 =>
    cases h
    exact ⟨.field _, wf⟩
  case h_8 entities =>
    have notSpecial : Text.asciiLower name ∉ special := by
      rw [entities]
      decide
    split at h
    · obtain ⟨t, rest', word, wf', h⟩ := (yields_anyWord _).next wf.tail h
      cases h
      exact ⟨.entity _ word, wf'⟩
    · rename_i noDot
      refine canonical_of_named hself hsum (hname notSpecial) (fun _ l hl dot => ?_) wf h
      obtain ⟨more, rfl⟩ := List.head?_eq_some_iff.1 hl
      obtain ⟨t, p, q⟩ := l
      cases dot
      exact noDot _ _ _ rfl
  case h_9 noTrue noFalse noNull noTime noType noEventTime noId noEntities =>
    have notSpecial : Text.asciiLower name ∉ special := by
      simp only [special, List.mem_cons, List.not_mem_nil, or_false, not_or]
      exact ⟨noTrue, noFalse, noNull, noTime, noType, noEventTime, noId⟩
    refine canonical_of_named hself hsum (hname notSpecial)
      (fun entity => absurd ?_ noEntities) wf h
    exact eq_of_beq entity

/-- **An expression without operators around it is canonical**, by the token it starts with:
literals, the star, what is in parentheses, what is behind an at sign, and what starts with a
word. -/
theorem yields_primary (hself : Yields self Canonical) (hsum : Yields sum Canonical) :
    Yields (primary stop self sum) Canonical := by
  intro ls e rest wf h
  unfold primary at h
  split at h
  case h_1 n _ _ _ =>
    cases h
    have bounds : 0 ≤ n ∧ n ≤ Number.maxWord := wf _ List.mem_cons_self
    refine ⟨.int ?_ bounds.2, wf.tail⟩
    have : (0 : Int) ≤ Number.maxWord := by decide
    omega
  case h_2 =>
    cases h
    exact ⟨.float _, wf.tail⟩
  case h_3 =>
    cases h
    exact ⟨.text _, wf.tail⟩
  case h_4 =>
    cases h
    exact ⟨.wildcard, wf.tail⟩
  case h_5 => exact yields_parenthesized hself _ _ _ wf.tail h
  case h_6 => exact yields_observationReference _ _ _ wf.tail h
  case h_7 => exact yields_identifier hself hsum (wf _ List.mem_cons_self) _ _ _ _ wf.tail h
  case h_8 => cases h

/-- A sign before a number is taken into the number, which may then be negative, and before anything
else it makes a node of its own. -/
theorem canonical_negative {e : Expr} (h : Canonical e) : Canonical (negative e) := by
  unfold negative
  split
  · cases h with
    | int large small => exact .int (by omega) (by omega)
  · exact .float _
  · rename_i noInt noFloat
    exact .negate h noInt noFloat

/-- Signs before a canonical expression make a canonical expression, along the recursion of the
reader. -/
theorem yields_signed {inner : Reader Expr} (hinner : Yields inner Canonical) :
    Yields (signed inner) Canonical := by
  intro ls e rest wf h
  fun_induction signed inner ls generalizing e rest with
  | case1 p q ls ih =>
    obtain ⟨⟨operand, rest'⟩, read, h⟩ := bind_eq_ok_iff.1 h
    cases h
    obtain ⟨canonical, wf'⟩ := ih _ _ wf.tail read
    exact ⟨canonical_negative canonical, wf'⟩
  | case2 p q ls ih =>
    obtain ⟨⟨operand, rest'⟩, read, h⟩ := bind_eq_ok_iff.1 h
    cases h
    obtain ⟨canonical, wf'⟩ := ih _ _ wf.tail read
    exact ⟨.not canonical, wf'⟩
  | case3 => exact hinner _ _ _ wf h

/-- Sums are canonical: no operator of a product or of a sum is a membership. -/
theorem yields_sumWith (hself : Yields self Canonical) (hsum : Yields sum Canonical) :
    Yields (sumWith stop self sum) Canonical := by
  have products : ∀ l, productOperator? l ≠ some .isIn := by
    intro l
    unfold productOperator?
    split <;> simp
  have sums : ∀ l, sumOperator? l ≠ some .isIn := by
    intro l
    unfold sumOperator?
    split <;> simp
  exact yields_chain (yields_chain (yields_signed (yields_primary hself hsum)) products) sums

/-- A comparison is canonical. Behind `in` stands a list, which may have one item there but is never
a list with a list as its single item. -/
theorem yields_comparison (hself : Yields self Canonical) (hsum : Yields sum Canonical) :
    Yields (comparison stop self sum) Canonical := by
  intro ls e rest wf h
  obtain ⟨left, rest', hleft, wf', h⟩ := hsum.next wf h
  dsimp only at h
  split at h
  · cases h
    exact ⟨hleft, wf'⟩
  rename_i l more
  split at h
  · obtain ⟨list, rest'', hlist, wf'', h⟩ := (yields_membershipList hself).next wf'.tail h
    cases h
    exact ⟨hlist _ hleft, wf''⟩
  split at h
  · have dropped : AllWellFormed (more.drop 1) := fun l hl => wf'.tail l (List.mem_of_mem_drop hl)
    obtain ⟨list, rest'', hlist, wf'', h⟩ := (yields_membershipList hself).next dropped h
    cases h
    exact ⟨.not (hlist _ hleft), wf''⟩
  split at h
  · rename_i op found
    have notIn : op ≠ .isIn := by
      rintro rfl
      unfold comparisonOperator? at found
      split at found
      case h_7 => split at found <;> simp at found
      all_goals simp at found
    obtain ⟨right, rest'', hright, wf'', h⟩ := hsum.next wf'.tail h
    cases h
    exact ⟨.binary notIn hleft hright, wf''⟩
  · cases h
    exact ⟨hleft, wf'⟩

/-- The words `not` before a canonical expression make a canonical expression. -/
theorem yields_negation {inner : Reader Expr} (hinner : Yields inner Canonical) :
    Yields (negation inner) Canonical := by
  intro ls e rest wf h
  induction ls generalizing e rest with
  | nil => exact hinner _ _ _ wf h
  | cons l ls ih =>
    rw [negation] at h
    split at h
    · obtain ⟨⟨operand, rest'⟩, read, h⟩ := bind_eq_ok_iff.1 h
      cases h
      obtain ⟨canonical, wf'⟩ := ih _ _ wf.tail read
      exact ⟨.not canonical, wf'⟩
    · exact hinner _ _ _ wf h

/-- Disjunctions are canonical: neither connective is a membership. -/
theorem yields_disjunctionWith (hself : Yields self Canonical) (hsum : Yields sum Canonical) :
    Yields (disjunctionWith stop self sum) Canonical := by
  have ands : ∀ l, andOperator? l ≠ some .isIn := by
    intro l
    unfold andOperator?
    split
    · simp
    · split <;> simp
  have ors : ∀ l, orOperator? l ≠ some .isIn := by
    intro l
    unfold orOperator?
    split
    · simp
    · split <;> simp
  have comparisons : Yields (comparison stop self (sumWith stop self sum)) Canonical :=
    yields_comparison hself (yields_sumWith hself hsum)
  exact yields_chain (yields_chain (yields_negation comparisons) ands) ors

/-- **Readers of any depth yield canonical trees.** By induction on the depth: what stands in a
parenthesis is read by the readers of one less. -/
theorem yields_readers (n : Nat) :
    Yields (readers stop n).1 Canonical ∧ Yields (readers stop n).2 Canonical := by
  induction n with
  | zero => exact ⟨fun _ _ _ _ h => (by cases h), fun _ _ _ _ h => (by cases h)⟩
  | succ n ih => exact ⟨yields_disjunctionWith ih.1 ih.2, yields_sumWith ih.1 ih.2⟩

end Operators

end Grammar

/-- The lexemes of a text are well formed, unless the text is blank or is not made of tokens. -/
theorem wellFormed_of_lexemes {s : String} {ls : List Lexeme} (h : lexemes s = .ok ls) :
    ∀ l ∈ ls, l.token.WellFormed := by
  unfold lexemes at h
  split at h
  · cases h
  · exact wellFormed_of_tokenize h

/-- **Every tree that is read from a text is canonical.** So what is proved of canonical trees is
proved of every expression that a query can have. -/
theorem Expr.canonical_of_parse {s : String} {e : Expr} (h : Expr.parse s = .ok e) :
    e.Canonical := by
  obtain ⟨ls, hls, h⟩ := bind_eq_ok_iff.1 h
  obtain ⟨⟨e', rest⟩, read, h⟩ := bind_eq_ok_iff.1 h
  obtain ⟨⟨⟩, -, h⟩ := bind_eq_ok_iff.1 h
  cases h
  exact ((yields_readers _).1 _ _ _ (wellFormed_of_lexemes hls) read).1

/-- The tree of a feature that is read from a text is canonical, with a name of its own or
without. -/
theorem FeatureText.canonical_of_parse {s : String} {t : FeatureText}
    (h : FeatureText.parse s = .ok t) : t.expr.Canonical := by
  obtain ⟨ls, hls, h⟩ := bind_eq_ok_iff.1 h
  obtain ⟨⟨e, rest⟩, read, h⟩ := bind_eq_ok_iff.1 h
  obtain ⟨⟨name, rest'⟩, -, h⟩ := bind_eq_ok_iff.1 h
  obtain ⟨⟨⟩, -, h⟩ := bind_eq_ok_iff.1 h
  cases h
  exact ((yields_readers _).1 _ _ _ (wellFormed_of_lexemes hls) read).1

end Hindsight
