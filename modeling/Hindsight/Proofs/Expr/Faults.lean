import Hindsight.Proofs.Expr.Spans

/-!
# Where faults are reported

A reader that is given lexemes which start at boundaries of the text leaves such lexemes or reports
a boundary (`Grammar.Located`): it reports where a lexeme starts, where the clause that it reads
starts, or the end of the text. This is shown reader by reader, up to whole expressions
(`Grammar.located_expression`) and the name of a feature (`Grammar.located_aliasClause`). With what
is known of the lexer, **the tokens of a text tile it, and whatever is wrong with a text is reported
at one of its boundaries** (`tiling_and_isBoundary_position`).
-/

namespace Hindsight
namespace Grammar

open Time (TimeUnit Window)

/-- **An attempt is reported well** if it comes to something of a kind, or its fault has a good
position. -/
inductive Reported {α : Type} (good : Nat → Prop) (P : α → Prop) : Except ParseError α → Prop
  | ok {a : α} (h : P a) : Reported good P (.ok a)
  | error {e : ParseError} {p : Nat} (here : e.position? = some p) (h : good p) :
    Reported good P (.error e)

/-- All lexemes start at good positions. -/
def AllStart (good : Nat → Prop) (ls : List Lexeme) : Prop := ∀ l ∈ ls, good l.start

/-- Lexemes are left that start at good positions, or a good position is reported. -/
abbrev Leaves {α : Type} (good : Nat → Prop) : Except ParseError (α × List Lexeme) → Prop :=
  Reported good fun r => AllStart good r.2

/-- **A reader keeps to good positions.** -/
def Located {α : Type} (good : Nat → Prop) (R : Reader α) : Prop :=
  ∀ ls, AllStart good ls → Leaves good (R ls)

variable {α β : Type} {good : Nat → Prop} {stop : Nat} {ls : List Lexeme} {l : Lexeme}

/-- Attempts that are reported well may be put one behind the other: a fault of the first is the
fault of both, and what the first comes to is all that the second is given. -/
theorem Reported.bind {P : α → Prop} {Q : β → Prop} {x : Except ParseError α}
    {f : α → Except ParseError β} (h : Reported good P x)
    (next : ∀ a, P a → Reported good Q (f a)) : Reported good Q (x >>= f) := by
  cases h with
  | ok h => exact next _ h
  | error here h => exact .error here h

/-- The position that a well reported attempt names is a good one. A fault that names none says
nothing here, so the position is asked for. -/
theorem Reported.good_of_eq_error {P : α → Prop} {x : Except ParseError α} {e : ParseError}
    (h : Reported good P x) (failed : x = .error e) {p : Nat} (here : e.position? = some p) :
    good p := by
  subst failed
  obtain _ | ⟨reported, h⟩ := h
  obtain rfl := Option.some.inj (here.symm.trans reported)
  exact h

/-- Where there is nothing to read, no position is reported, good or not. Every other fault is
reported somewhere. -/
theorem good_of_blank_or_reported {P : α → Prop} {x : Except ParseError α} {e : ParseError}
    (h : x = .error .emptyExpression ∨ Reported good P x) (failed : x = .error e) {p : Nat}
    (here : e.position? = some p) : good p := by
  rcases h with blank | reported
  · obtain rfl := Except.error.inj (failed.symm.trans blank)
    cases here
  · exact reported.good_of_eq_error failed here

/-- The lexemes behind the first one start at good positions if all of them do, so this is kept as a
reader goes on. -/
theorem AllStart.tail (starts : AllStart good (l :: ls)) : AllStart good ls :=
  (List.forall_mem_cons.1 starts).2

/-- The first lexeme starts at a good position if all of them do; this is the position that a
refused lexeme reports. -/
theorem AllStart.head (starts : AllStart good (l :: ls)) : good l.start :=
  (List.forall_mem_cons.1 starts).1

/-- Passing over one lexeme, as behind a word of two words, leaves lexemes that start at good
positions. -/
theorem AllStart.drop (starts : AllStart good ls) : AllStart good (ls.drop 1) :=
  fun l mem => starts l (List.mem_of_mem_drop mem)

/-- What has been read is done with, and what is left is read on. Readers in sequence are put
together by this. -/
theorem Located.next {R : Reader α} (h : Located good R) (starts : AllStart good ls)
    {f : α × List Lexeme → Except ParseError (β × List Lexeme)}
    (next : ∀ a rest, AllStart good rest → Leaves good (f (a, rest))) :
    Leaves good (R ls >>= f) :=
  (h ls starts).bind fun r => next r.1 r.2

/-- What is made of the thing that was read does not matter for where faults are reported: the
lexemes that are left stay the same. -/
theorem Leaves.map {x : Except ParseError (α × List Lexeme)} (h : Leaves good x) (make : α → β) :
    Leaves good (x >>= fun r => .ok (make r.1, r.2)) :=
  h.bind fun _ starts => .ok starts

/-- A reader that keeps to good positions still does when something is made of what it reads. Most
clauses are read in this way, a part first and then the clause around it. -/
theorem Located.map {R : Reader α} (h : Located good R) (starts : AllStart good ls)
    (make : α → β) : Leaves good (R ls >>= fun r => .ok (make r.1, r.2)) :=
  Leaves.map (h ls starts) make

/-- What comes instead of what is expected is reported where it starts, or where the text ends. Most
faults of readers are of this kind. -/
theorem reported_unexpected {P : α → Prop} (hstop : good stop) (starts : AllStart good ls)
    (expected : Expectation) : Reported good P (.error (unexpected stop expected ls)) := by
  cases ls with
  | nil => exact .error rfl hstop
  | cons l ls => exact .error rfl starts.head

/-- The next lexeme starts at a good position, and where there is none the end of the text is one.
This is where an unknown unit of a window is reported. -/
theorem good_nextStart (hstop : good stop) (starts : AllStart good ls) :
    good (nextStart stop ls) := by
  cases ls with
  | nil => exact hstop
  | cons l ls => exact starts.head

/-- A word is read or its absence is reported, at the lexeme that stands there or at the end of the
text. -/
theorem located_anyWord (hstop : good stop) (expected : Expectation) :
    Located good (anyWord stop expected) := by
  intro ls starts
  unfold anyWord
  split
  · exact .ok starts.tail
  · exact reported_unexpected hstop starts _

/-- A closing parenthesis is read or its absence is reported at the lexeme that stands there, or at
the end. -/
theorem located_closing (hstop : good stop) : Located good (closing stop) := by
  intro ls starts
  unfold closing
  split
  · exact .ok starts.tail
  · exact reported_unexpected hstop starts _

section Chains

variable {operand : Reader Expr} {operator? : Lexeme → Option Operator}

/-- **The rest of a chain keeps to good positions if its operands do**, by induction on the fuel:
behind an operator an operand is read, and a chain with less fuel behind it. -/
theorem located_chainTail (operands : Located good operand) (fuel : Nat) (left : Expr) :
    Located good (chainTail operand operator? fuel left) := by
  intro ls starts
  induction fuel generalizing ls left with
  | zero => exact .ok starts
  | succ fuel ih =>
    cases ls with
    | nil => exact .ok starts
    | cons l ls =>
      rw [chainTail]
      split
      · exact .ok starts
      · exact operands.next starts.tail fun right rest => ih _ rest

/-- A chain is an operand with the rest of a chain behind it, so it keeps to good positions if its
operands do. The operators play no part: looking for one reports nothing. -/
theorem located_chain (operands : Located good operand) :
    Located good (chain operand operator?) := by
  intro ls starts
  exact operands.next starts fun left rest => located_chainTail operands _ left rest

end Chains

variable {self sum : Reader Expr}

section Lists

/-- The rest of a list keeps to good positions if its items do, by induction on the fuel: a comma is
passed over, and without one the list ends and nothing is reported. -/
theorem located_moreItems (hself : Located good self) (fuel : Nat) :
    Located good (moreItems self fuel) := by
  intro ls starts
  induction fuel generalizing ls with
  | zero => exact .ok starts
  | succ fuel ih =>
    unfold moreItems
    split
    · rename_i same
      obtain rfl := Nat.succ.inj same
      exact hself.next starts.tail fun e rest starts => Leaves.map (ih rest starts) (e :: ·)
    · exact .ok starts

/-- A list keeps to good positions if its items do; what it adds is the closing parenthesis behind
them. -/
theorem located_items (hstop : good stop) (hself : Located good self) :
    Located good (items stop self) := by
  intro ls starts
  refine hself.next starts fun first rest starts => ?_
  refine (located_moreItems hself _).next starts fun more rest starts => ?_
  exact (located_closing hstop).map starts fun _ => first :: more

/-- One expression in parentheses or several: the same items are read and only what is made of them
differs. -/
theorem located_parenthesized (hstop : good stop) (hself : Located good self) :
    Located good (parenthesized stop self) := by
  intro ls starts
  refine (located_items hstop hself).next starts fun es rest starts => ?_
  match es with
  | [] | [_] | _ :: _ :: _ => exact .ok starts

/-- The list behind `in` reports a missing parenthesis where the parenthesis should be, and is
otherwise read as a parenthesis is. -/
theorem located_membershipList (hstop : good stop) (hself : Located good self) :
    Located good (membershipList stop self) := by
  intro ls starts
  unfold membershipList
  split
  · refine (located_parenthesized hstop hself).next starts.tail fun e rest starts => ?_
    cases e <;> exact .ok starts
  · exact reported_unexpected hstop starts _

end Lists

section References

/-- The rest of a dotted path, segment by segment, along the recursion of the reader; a missing
segment is reported behind the dot. -/
theorem located_dottedTail (hstop : good stop) (path : String) :
    Located good (dottedTail stop path) := by
  intro ls starts
  fun_induction dottedTail stop path ls with
  | case1 path p q w p' q' ls ih => exact ih starts.tail.tail
  | case2 => exact reported_unexpected hstop starts.tail _
  | case3 => exact .ok starts

/-- What stands behind an at sign: a name, and behind `entities` a type of entity, each missing one
reported where it should be. -/
theorem located_observationReference (hstop : good stop) :
    Located good (observationReference stop) := by
  intro ls starts
  refine (located_anyWord hstop _).next starts fun name rest starts => ?_
  dsimp only
  split
  · exact (located_anyWord hstop _).map starts.tail (Expr.entity .observation)
  · exact (located_dottedTail hstop name).map starts Expr.sourceAttr

end References

section Windows

/-- The length of a window is refused at its number, or at its unit when that is unknown. The unit
is looked up only after it was read, so that its start was taken before. -/
theorem located_windowLength (hstop : good stop) : Located good (windowLength stop) := by
  intro ls starts
  unfold windowLength
  split
  · rename_i n p q rest
    split
    · -- a word that is no unit is reported where it starts
      have unitStart : good (nextStart stop rest) := good_nextStart hstop starts.tail
      refine (located_anyWord hstop _).next starts.tail fun w rest starts => ?_
      dsimp only
      split
      · exact .ok starts
      · exact .error rfl unitStart
    · exact .error rfl starts.head
  · exact .error rfl starts.head
  · exact .error rfl hstop

/-- A window is refused at its word or inside its length, and a missing one at the position it is
given, which is that of the word `over`. That position is good by assumption, since the word was
passed over already. -/
theorem located_window (hstop : good stop) {position : Nat} (hposition : good position) :
    Located good (window stop position) := by
  intro ls starts
  unfold window
  split
  · exact .error rfl hposition
  · split
    case h_1 | h_2 =>
      exact (located_windowLength hstop).map starts.tail fun l => Window.last l.1 l.2
    case h_3 => exact (located_windowLength hstop).map starts.tail fun l => Window.next l.1 l.2
    case h_7 =>
      split
      · split
        · exact .ok starts.tail.tail
        · exact .error rfl starts.tail.head
      · exact .error rfl hstop
    case h_10 => exact .error rfl starts.head
    all_goals exact .ok starts.tail
  · exact .error rfl starts.head

end Windows

section Aggregates

/-- A filter is an expression behind `where`. Without that word nothing is read and nothing
reported. -/
theorem located_filterClause (hself : Located good self) : Located good (filterClause self) := by
  intro ls starts
  unfold filterClause
  split
  · split
    · exact hself.map starts.tail some
    · exact .ok starts
  · exact .ok starts

/-- The clause behind `having`: a missing extreme is reported where it should be, and the rank is a
sum. -/
theorem located_havingClause (hstop : good stop) (hsum : Located good sum) :
    Located good (havingClause stop sum) := by
  intro ls starts
  unfold havingClause
  split
  · split
    · exact hsum.map starts.tail (Selection.having .min)
    split
    · exact hsum.map starts.tail (Selection.having .max)
    · exact reported_unexpected hstop starts _
  · exact reported_unexpected hstop starts _

/-- The grouping or the selection of an aggregate. Of its faults one is reported at the word
`having` that comes behind a grouping, the others by the readers of its parts. -/
theorem located_selection (hstop : good stop) (hsum : Located good sum) :
    Located good (selection stop sum) := by
  intro ls starts
  unfold selection
  split
  · split
    · split
      · exact reported_unexpected hstop starts.tail _
      · refine hsum.next starts.tail.drop fun key rest starts => ?_
        dsimp only
        split
        · split
          · exact .error rfl starts.head
          · exact .ok starts
        · exact .ok starts
    · split
      · exact located_havingClause hstop hsum _ starts.tail
      · exact .ok starts
  · exact .ok starts

/-- **The clauses of an aggregate, from the window to the selection, keep to good positions**: the
window is given the position of `over`, and what each clause leaves is read by the next one. -/
theorem located_clauses (hstop : good stop) (hself : Located good self) (hsum : Located good sum)
    (name : String) {position : Nat} (hposition : good position) (argument : Expr)
    (parameter : Option Expr) :
    Located good (clauses stop self sum name position argument parameter) := by
  intro ls starts
  refine (located_window hstop hposition).next starts fun w rest starts => ?_
  refine (located_filterClause hself).next starts fun filter rest starts => ?_
  exact (located_selection hstop hsum).map starts (Expr.aggregate name argument parameter w filter)

/-- An aggregate with too few or too many arguments is refused at the start of its call, before any
clause is read; otherwise its faults are those of its clauses. -/
theorem located_aggregate (hstop : good stop) (hself : Located good self)
    (hsum : Located good sum) (name : String) {start position : Nat} (hstart : good start)
    (hposition : good position) (args : List Expr) :
    Located good (aggregate stop self sum name start position args) := by
  intro ls starts
  match args with
  | [a] => exact located_clauses hstop hself hsum name hposition a none _ starts
  | [a, b] => exact located_clauses hstop hself hsum name hposition a (some b) _ starts
  | [] | _ :: _ :: _ :: _ => exact .error rfl hstart

/-- The arguments of a call: a closing parenthesis at once, or a list. Neither reports a position of
its own. -/
theorem located_arguments (hstop : good stop) (hself : Located good self) :
    Located good (arguments stop self) := by
  intro ls starts
  unfold arguments
  split
  · exact .ok starts.tail
  · exact located_items hstop hself _ starts

/-- A call, and the aggregate that it becomes if `over` follows. The position of `over` is taken
here, where the word is still at hand. -/
theorem located_call (hstop : good stop) (hself : Located good self) (hsum : Located good sum)
    (name : String) {start : Nat} (hstart : good start) :
    Located good (call stop self sum name start) := by
  intro ls starts
  rw [call_eq]
  refine (located_arguments hstop hself).next starts fun args rest starts => ?_
  cases rest with
  | nil => exact .ok starts
  | cons l more =>
    dsimp only [callOf]
    split
    · exact located_aggregate hstop hself hsum name hstart starts.head args _ starts.tail
    · exact .ok starts

end Aggregates

section Operators

/-- A name with a parenthesis behind it is a call, any other one starts a dotted path. A fault of
the call itself is reported at its start, so this has to be a good position too. -/
theorem located_named (hstop : good stop) (hself : Located good self) (hsum : Located good sum)
    (name : String) {start : Nat} (hstart : good start) :
    Located good (named stop self sum name start) := by
  intro ls starts
  unfold named
  split
  · exact located_call hstop hself hsum name hstart _ starts.tail
  · exact (located_dottedTail hstop name).map starts Expr.attr

/-- The expression that starts with a word. A reserved word is reported where it stands; the words
with a meaning of their own report nothing. -/
theorem located_identifier (hstop : good stop) (hself : Located good self)
    (hsum : Located good sum) (name : String) {start : Nat} (hstart : good start) :
    Located good (identifier stop self sum name start) := by
  intro ls starts
  have reference : Leaves good (named stop self sum name start ls) :=
    located_named hstop hself hsum name hstart _ starts
  unfold identifier
  dsimp only
  split
  · exact .error rfl hstart
  split
  case h_8 =>
    split
    · exact (located_anyWord hstop _).map starts.tail (Expr.entity .event)
    · exact reference
  case h_9 => exact reference
  all_goals exact .ok starts

/-- **An expression without operators around it keeps to good positions**, if the readers of
expressions and of sums that it is given do. The lexeme at the head decides which reader it is. -/
theorem located_primary (hstop : good stop) (hself : Located good self)
    (hsum : Located good sum) : Located good (primary stop self sum) := by
  intro ls starts
  unfold primary
  split
  case h_5 => exact located_parenthesized hstop hself _ starts.tail
  case h_6 => exact located_observationReference hstop _ starts.tail
  case h_7 w p q rest => exact located_identifier hstop hself hsum w starts.head _ starts.tail
  case h_8 => exact reported_unexpected hstop starts _
  all_goals exact .ok starts.tail

/-- Signs are passed over one by one, along the recursion of the reader, and report nothing
themselves. -/
theorem located_signed {inner : Reader Expr} (hinner : Located good inner) :
    Located good (signed inner) := by
  intro ls starts
  fun_induction signed inner ls with
  | case1 p q rest ih => exact Leaves.map (ih starts.tail) negative
  | case2 p q rest ih => exact Leaves.map (ih starts.tail) (Expr.unary .not)
  | case3 => exact hinner _ starts

/-- A sum is a chain of chains of signed primary expressions, so it is enough that these keep to
good positions. -/
theorem located_sumWith (hstop : good stop) (hself : Located good self)
    (hsum : Located good sum) : Located good (sumWith stop self sum) :=
  located_chain (located_chain (located_signed (located_primary hstop hself hsum)))

/-- A comparison reads a sum, and behind it a list or another sum if an operator is there. An
operator without something behind it is reported there. -/
theorem located_comparison (hstop : good stop) (hself : Located good self)
    (hsum : Located good sum) : Located good (comparison stop self sum) := by
  intro ls starts
  refine hsum.next starts fun left rest starts => ?_
  cases rest with
  | nil => exact .ok starts
  | cons l more =>
    have members : Located good (membershipList stop self) := located_membershipList hstop hself
    dsimp only
    split
    · exact members.map starts.tail (Expr.binary left .isIn)
    split
    · exact members.map starts.tail.drop fun list => Expr.unary .not (.binary left .isIn list)
    split
    · rename_i op _
      exact hsum.map starts.tail (Expr.binary left op)
    · exact .ok starts

/-- The words `not` are passed over one by one, along the recursion of the reader, as signs are. -/
theorem located_negation {inner : Reader Expr} (hinner : Located good inner) :
    Located good (negation inner) := by
  intro ls starts
  fun_induction negation inner ls with
  | case1 l rest _ ih => exact Leaves.map (ih starts.tail) (Expr.unary .not)
  | case2 | case3 => exact hinner _ starts

/-- A disjunction is a chain of chains of negated comparisons, so it is enough that these keep to
good positions. -/
theorem located_disjunctionWith (hstop : good stop) (hself : Located good self)
    (hsum : Located good sum) : Located good (disjunctionWith stop self sum) :=
  located_chain (located_chain (located_negation
    (located_comparison hstop hself (located_sumWith hstop hself hsum))))

/-- Readers of any depth keep to good positions. By induction on the depth; at depth zero an
expression is refused where it should start. -/
theorem located_readers (hstop : good stop) (n : Nat) :
    Located good (readers stop n).1 ∧ Located good (readers stop n).2 := by
  induction n with
  | zero =>
    have none : Located good fun ls =>
        (.error (unexpected stop .expression ls) : Except ParseError (Expr × List Lexeme)) :=
      fun ls starts => reported_unexpected hstop starts _
    exact ⟨none, none⟩
  | succ n ih =>
    exact ⟨located_disjunctionWith hstop ih.1 ih.2, located_sumWith hstop ih.1 ih.2⟩

end Operators

/-- **The reader of expressions** keeps to good positions. Its depth is the number of lexemes, which
is always enough. -/
theorem located_expression (hstop : good stop) : Located good (expression stop) :=
  fun ls => (located_readers hstop _).1 ls

/-- The name of a feature behind `as`. Without that word nothing is read and nothing reported. -/
theorem located_aliasClause (hstop : good stop) : Located good (aliasClause stop) := by
  intro ls starts
  unfold aliasClause
  split
  · split
    · exact (located_anyWord hstop _).map starts.tail some
    · exact .ok starts
  · exact .ok starts

/-- What is left behind a whole expression is reported at its first lexeme, and nothing is if
nothing is left. -/
theorem reported_endOfText (hstop : good stop) (starts : AllStart good ls) :
    Reported good (fun _ => True) (endOfText stop ls) := by
  unfold endOfText
  split
  · exact .ok trivial
  · exact reported_unexpected hstop starts _

end Grammar

open Grammar
open Text (IsBoundary)

/-- Only that there is nothing to read is reported nowhere. A blank text has no place to point
at. -/
theorem ParseError.position?_eq_none_iff {e : ParseError} :
    e.position? = none ↔ e = .emptyExpression := by
  cases e <;> simp [position?]

/-- **A text is split into lexemes that start at its boundaries, or a boundary is reported.**
Lexemes are found along the text and reported positions are those the scan has reached
(`tiling_of_tokenize` and `isBoundary_of_tokenize`). -/
theorem reported_tokenize (s : String) :
    Reported (IsBoundary s) (AllStart (IsBoundary s)) (tokenize s) := by
  cases tokens : tokenize s with
  | ok ls => exact .ok fun l mem => ((tiling_of_tokenize tokens).onBoundaries l mem).1
  | error e =>
    obtain ⟨p, here, boundary⟩ := isBoundary_of_tokenize tokens
    exact .error here boundary

/-- A text is blank, or its lexemes start at boundaries, as far as it has any. This starts the
reading of a text off with good positions. -/
theorem lexemes_eq_or_reported (s : String) :
    lexemes s = .error .emptyExpression ∨
      Reported (IsBoundary s) (AllStart (IsBoundary s)) (lexemes s) := by
  unfold lexemes
  split
  · exact .inl rfl
  · exact .inr (reported_tokenize s)

/-- **Reading an expression finds a blank text or reports a boundary.** The end of the text is a
boundary, the lexemes start at boundaries, and the readers keep to these positions. -/
theorem Expr.parse_eq_or_reported (s : String) :
    Expr.parse s = .error .emptyExpression ∨
      Reported (IsBoundary s) (fun _ => True) (Expr.parse s) := by
  have last := Text.isBoundary_utf8ByteSize s
  rw [Expr.parse]
  refine (lexemes_eq_or_reported s).imp (fun blank => by rw [blank]; rfl) fun tokens => ?_
  refine tokens.bind fun ls starts => ?_
  refine (located_expression last ls starts).bind fun r starts => ?_
  exact (reported_endOfText last starts).bind fun _ _ => .ok trivial

/-- Reading a feature finds a blank text or reports a boundary; behind the expression comes only the
name of the feature. -/
theorem FeatureText.parse_eq_or_reported (s : String) :
    FeatureText.parse s = .error .emptyExpression ∨
      Reported (IsBoundary s) (fun _ => True) (FeatureText.parse s) := by
  have last := Text.isBoundary_utf8ByteSize s
  rw [FeatureText.parse]
  refine (lexemes_eq_or_reported s).imp (fun blank => by rw [blank]; rfl) fun tokens => ?_
  refine tokens.bind fun ls starts => ?_
  refine (located_expression last ls starts).bind fun r starts => ?_
  refine (located_aliasClause last _ starts).bind fun r starts => ?_
  exact (reported_endOfText last starts).bind fun _ _ => .ok trivial

/-- **The tokens of a text tile it, and faults are reported at its boundaries.** The bytes of the
tokens are disjoint, in order, and leave out blanks only; what fails to be read is reported at a
boundary of the text, unless it is reported that there is nothing to read. Tokens start and stop at
boundaries, and every reader reports the start of a token or the end. -/
theorem tiling_and_isBoundary_position (s : String) :
    (∀ ls, tokenize s = .ok ls → Tiling s ls) ∧
      ∀ e, tokenize s = .error e ∨ Expr.parse s = .error e ∨ FeatureText.parse s = .error e →
        (e.position? = none ↔ e = .emptyExpression) ∧
          ∀ p, e.position? = some p → IsBoundary s p ∧ p ≤ s.utf8ByteSize := by
  refine ⟨fun ls => tiling_of_tokenize, fun e failed =>
    ⟨ParseError.position?_eq_none_iff, fun p here => ?_⟩⟩
  have boundary : IsBoundary s p := by
    rcases failed with failed | failed | failed
    · exact (reported_tokenize s).good_of_eq_error failed here
    · exact good_of_blank_or_reported (Expr.parse_eq_or_reported s) failed here
    · exact good_of_blank_or_reported (FeatureText.parse_eq_or_reported s) failed here
  exact ⟨boundary, boundary.le⟩

/-- Letters of two bytes and a blank of three are counted as such: in a text with all its tokens, in
an open string, behind a string, and where a text ends early. -/
theorem tiling_and_isBoundary_position_accents :
    (tokenize "'é' =\u3000b" =
        .ok [⟨.text "é", 0, 4⟩, ⟨.eq, 5, 6⟩, ⟨.word "b", 9, 10⟩] ∧
      Tiling "'é' =\u3000b" [⟨.text "é", 0, 4⟩, ⟨.eq, 5, 6⟩, ⟨.word "b", 9, 10⟩]) ∧
    (tokenize "é" = .error (.invalidCharacter 'é' 0) ∧ IsBoundary "é" 0) ∧
    (Expr.parse "'é' b" = .error (.unexpectedToken "b" .endOfExpression 5) ∧
      IsBoundary "'é' b" 5) ∧
    (FeatureText.parse "'é' as" = .error (.unexpectedEnd .alias_ 7) ∧
      IsBoundary "'é' as" 7) := by
  have read : tokenize "'é' =\u3000b" =
      .ok [⟨.text "é", 0, 4⟩, ⟨.eq, 5, 6⟩, ⟨.word "b", 9, 10⟩] := rfl
  have invalid : tokenize "é" = .error (.invalidCharacter 'é' 0) := rfl
  have more : Expr.parse "'é' b" = .error (.unexpectedToken "b" .endOfExpression 5) := rfl
  have early : FeatureText.parse "'é' as" = .error (.unexpectedEnd .alias_ 7) := rfl
  refine ⟨⟨read, (tiling_and_isBoundary_position _).1 _ read⟩, ⟨invalid, ?_⟩, ⟨more, ?_⟩, early, ?_⟩
  · exact (((tiling_and_isBoundary_position _).2 _ (.inl invalid)).2 _ rfl).1
  · exact (((tiling_and_isBoundary_position _).2 _ (.inr (.inl more))).2 _ rfl).1
  · exact (((tiling_and_isBoundary_position _).2 _ (.inr (.inr early))).2 _ rfl).1

end Hindsight
