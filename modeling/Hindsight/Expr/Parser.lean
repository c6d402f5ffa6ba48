import Hindsight.Expr.Basic
import Hindsight.Expr.Token

/-!
# Reading expressions

The grammar has one level per binding strength, from loose to tight: `or`, `and`, `not`,
comparisons with `in`, sums, products, signs, and primary expressions. Chains of `or`, `and`, sums
and products lean to the left; comparisons do not chain. Where a parenthesis, a call or a clause
holds a whole expression again, the level receives the reader of expressions as its argument, so
that the recursion is on the depth of nesting alone: `expression n` reads texts nested less than
`n` deep, and no text nests deeper than it has tokens.

The number `stop` is the length of the text in bytes, where an early end is reported.
-/

namespace Hindsight
namespace Grammar

open Time (TimeUnit Window)

/-- A reader of something at the head of lexemes. -/
abbrev Reader (α : Type) := List Lexeme → Except ParseError (α × List Lexeme)

/-- The words that never stand for an attribute. -/
def reserved : List String :=
  ["and", "or", "not", "in", "over", "where", "group", "by", "having", "as"]

variable (stop : Nat)

/-- What comes instead of what is expected. -/
def unexpected (expected : Expectation) : List Lexeme → ParseError
  | l :: _ => .unexpectedToken l.token.shown expected l.start
  | [] => .unexpectedEnd expected stop

/-- Where the next lexeme starts. -/
def nextStart : List Lexeme → Nat
  | l :: _ => l.start
  | [] => stop

/-- Whether the next lexeme is that word. -/
def atWord (w : String) : List Lexeme → Bool
  | l :: _ => l.isWord w
  | [] => false

/-- A word of any kind. -/
def anyWord (expected : Expectation) : Reader String
  | ⟨.word w, _, _⟩ :: rest => .ok (w, rest)
  | ls => .error (unexpected stop expected ls)

/-- The closing parenthesis of a list. -/
def closing : Reader Unit
  | ⟨.closeParen, _, _⟩ :: rest => .ok ((), rest)
  | ls => .error (unexpected stop .closing ls)

/-- The rest of a chain that leans to the left; `fuel` bounds the number of its operators. -/
def chainTail (operand : Reader Expr) (operator? : Lexeme → Option Operator) :
    Nat → Expr → Reader Expr
  | fuel + 1, left, l :: rest =>
    match operator? l with
    | none => .ok (left, l :: rest)
    | some op => do
      let (right, rest) ← operand rest
      chainTail operand operator? fuel (.binary left op right) rest
  | _, left, ls => .ok (left, ls)

/-- Operands with operators of one strength between them. -/
def chain (operand : Reader Expr) (operator? : Lexeme → Option Operator) : Reader Expr :=
  fun ls => do
    let (left, rest) ← operand ls
    chainTail operand operator? rest.length left rest

/-- The rest of a list of expressions, each behind a comma; `fuel` bounds their number. -/
def moreItems (self : Reader Expr) : Nat → Reader (List Expr)
  | fuel + 1, ⟨.comma, _, _⟩ :: rest => do
    let (e, rest) ← self rest
    let (more, rest) ← moreItems self fuel rest
    return (e :: more, rest)
  | _, ls => .ok ([], ls)

/-- One or more expressions and the closing parenthesis. -/
def items (self : Reader Expr) : Reader (List Expr) := fun ls => do
  let (first, rest) ← self ls
  let (more, rest) ← moreItems self rest.length rest
  let ((), rest) ← closing stop rest
  return (first :: more, rest)

/-- What is left of a parenthesis after it is opened: an expression, or a list of several. -/
def parenthesized (self : Reader Expr) : Reader Expr := fun ls => do
  let (es, rest) ← items stop self ls
  match es with
  | [e] => return (e, rest)
  | es => return (.list es, rest)

/-- The list behind `in`; one value in parentheses is a list of one. -/
def membershipList (self : Reader Expr) : Reader Expr
  | ⟨.openParen, _, _⟩ :: rest => do
    let (e, rest) ← parenthesized stop self rest
    match e with
    | .list es => return (.list es, rest)
    | e => return (.list [e], rest)
  | ls => .error (unexpected stop .listStart ls)

/-- The rest of a dotted path. -/
def dottedTail : String → Reader String
  | path, ⟨.dot, _, _⟩ :: ⟨.word w, _, _⟩ :: rest => dottedTail (path ++ "." ++ w) rest
  | _, ⟨.dot, _, _⟩ :: rest => .error (unexpected stop .segment rest)
  | path, ls => .ok (path, ls)

/-- What an at sign refers to: an entity of the observation or an attribute of its event. -/
def observationReference : Reader Expr := fun ls => do
  let (name, rest) ← anyWord stop .reference ls
  match Text.sameWord name "entities", rest with
  | true, ⟨.dot, _, _⟩ :: rest => do
    let (t, rest) ← anyWord stop .entityType rest
    return (.entity .observation t, rest)
  | _, rest => do
    let (path, rest) ← dottedTail stop name rest
    return (.sourceAttr path, rest)

/-- The number and unit of a window of fixed length. -/
def windowLength : Reader (Int × TimeUnit)
  | ⟨.int n, p, _⟩ :: rest =>
    if 0 < n then do
      let position := nextStart stop rest
      let (w, rest) ← anyWord stop .timeUnit rest
      match TimeUnit.ofWord? w with
      | some unit => return ((n, unit), rest)
      | none => throw (.invalidWindow (.unit w) position)
    else .error (.invalidWindow (.length (Token.int n).shown) p)
  | l :: _ => .error (.invalidWindow (.length l.token.shown) l.start)
  | [] => .error (.invalidWindow .missingLength stop)

/-- The window behind `over`, which stands at `position`. -/
def window (position : Nat) : Reader Window
  | [] => .error (.invalidWindow .missing position)
  | ⟨.word w, p, _⟩ :: rest =>
    match Text.asciiLower w with
    | "last" | "previous" => do
      let ((n, unit), rest) ← windowLength stop rest
      return (.last n unit, rest)
    | "next" => do
      let ((n, unit), rest) ← windowLength stop rest
      return (.next n unit, rest)
    | "past" => .ok (.past, rest)
    | "future" => .ok (.future, rest)
    | "alltime" => .ok (.allTime, rest)
    | "all" =>
      match rest with
      | l :: more =>
        if l.isWord "time" then .ok (.allTime, more)
        else .error (.invalidWindow .afterAll l.start)
      | [] => .error (.invalidWindow .afterAll stop)
    | "ytd" => .ok (.yearToDate, rest)
    | "mtd" => .ok (.monthToDate, rest)
    | other => .error (.invalidWindow (.unknown other) p)
  | l :: _ => .error (.invalidWindow (.noWord l.token.shown) l.start)

/-- The extreme and the rank behind `having`. -/
def havingClause (sum : Reader Expr) : Reader Selection
  | l :: rest =>
    if l.isWord "min" then do
      let (e, rest) ← sum rest
      return (.having .min e, rest)
    else if l.isWord "max" then do
      let (e, rest) ← sum rest
      return (.having .max e, rest)
    else .error (unexpected stop .extreme (l :: rest))
  | [] => .error (unexpected stop .extreme [])

/-- The grouping or the selection of an aggregate, of which there is at most one. -/
def selection (sum : Reader Expr) : Reader Selection := fun ls =>
  match ls with
  | l :: rest =>
    if l.isWord "group" then do
      if !atWord "by" rest then throw (unexpected stop .by_ rest)
      let (key, rest) ← sum (rest.drop 1)
      match rest with
      | h :: _ =>
        if h.isWord "having" then throw (.unexpectedToken "having" .endOfAggregate h.start)
        else return (.groupBy key, rest)
      | [] => return (.groupBy key, rest)
    else if l.isWord "having" then havingClause stop sum rest
    else .ok (.all, ls)
  | [] => .ok (.all, [])

/-- The filter of an aggregate. -/
def filterClause (self : Reader Expr) : Reader (Option Expr) := fun ls =>
  match ls with
  | l :: rest =>
    if l.isWord "where" then do
      let (e, rest) ← self rest
      return (some e, rest)
    else .ok (none, ls)
  | [] => .ok (none, [])

/-- The aggregate of a call with these arguments, from behind the `over` at `position` on; the call
starts at `start`. -/
def aggregate (self sum : Reader Expr) (name : String) (start position : Nat) (args : List Expr) :
    Reader Expr := fun ls => do
  let (argument, parameter) ← match args with
    | [a] => pure (a, none)
    | [a, b] => pure (a, some b)
    | args => throw (.unexpectedToken (toString args.length ++ " argument(s)")
        (.aggregateArguments name) start)
  let (w, rest) ← window stop position ls
  let (filter, rest) ← filterClause self rest
  let (sel, rest) ← selection stop sum rest
  return (.aggregate name argument parameter w filter sel, rest)

/-- A call from behind its opening parenthesis on, which is an aggregate if `over` follows. -/
def call (self sum : Reader Expr) (name : String) (start : Nat) : Reader Expr := fun ls => do
  let (args, rest) ← match ls with
    | ⟨.closeParen, _, _⟩ :: rest => pure ([], rest)
    | ls => items stop self ls
  match rest with
  | l :: more =>
    if l.isWord "over" then aggregate stop self sum name start l.start args more
    else return (.call name args, rest)
  | [] => return (.call name args, [])

/-- The expression that starts with a word, which stands at `start`. -/
def identifier (self sum : Reader Expr) (name : String) (start : Nat) : Reader Expr := fun ls =>
  let lower := Text.asciiLower name
  let reference : Except ParseError (Expr × List Lexeme) :=
    match ls with
    | ⟨.openParen, _, _⟩ :: rest => call stop self sum name start rest
    | ls => do
      let (path, rest) ← dottedTail stop name ls
      return (.attr path, rest)
  if reserved.contains lower then .error (.unexpectedToken name .expression start)
  else
    match lower with
    | "true" => .ok (.literal (.bool true), ls)
    | "false" => .ok (.literal (.bool false), ls)
    | "null" => .ok (.literal .null, ls)
    | "obs_dt" => .ok (.observationTime, ls)
    | "event_type" => .ok (.field .type, ls)
    | "event_time" => .ok (.field .time, ls)
    | "event_id" => .ok (.field .id, ls)
    | "entities" =>
      match ls with
      | ⟨.dot, _, _⟩ :: rest => do
        let (t, rest) ← anyWord stop .entityType rest
        return (.entity .event t, rest)
      | _ => reference
    | _ => reference

/-- An expression without operators around it. -/
def primary (self sum : Reader Expr) : Reader Expr
  | ⟨.int n, _, _⟩ :: rest => .ok (.literal (.int n), rest)
  | ⟨.float x, _, _⟩ :: rest => .ok (.literal (.float x), rest)
  | ⟨.text s, _, _⟩ :: rest => .ok (.literal (.text s), rest)
  | ⟨.star, _, _⟩ :: rest => .ok (.wildcard, rest)
  | ⟨.openParen, _, _⟩ :: rest => parenthesized stop self rest
  | ⟨.atSign, _, _⟩ :: rest => observationReference stop rest
  | ⟨.word w, p, _⟩ :: rest => identifier stop self sum w p rest
  | ls => .error (unexpected stop .expression ls)

/-- The negative of an expression; a number is negated at once. -/
def negative : Expr → Expr
  | .literal (.int n) => .literal (.int (-n))
  | .literal (.float x) => .literal (.float (-x))
  | e => .unary .negate e

/-- A primary expression behind any number of signs. -/
def signed (primary : Reader Expr) : Reader Expr
  | ⟨.minus, _, _⟩ :: rest => do
    let (e, rest) ← signed primary rest
    return (negative e, rest)
  | ⟨.bang, _, _⟩ :: rest => do
    let (e, rest) ← signed primary rest
    return (.unary .not e, rest)
  | ls => primary ls

/-- The operator of a product. -/
def productOperator? (l : Lexeme) : Option Operator :=
  match l.token with
  | .star => some (.arith .mul)
  | .slash => some (.arith .div)
  | _ => none

/-- The operator of a sum. -/
def sumOperator? (l : Lexeme) : Option Operator :=
  match l.token with
  | .plus => some (.arith .add)
  | .minus => some (.arith .sub)
  | _ => none

/-- The operator of a comparison, a word or a sign. -/
def comparisonOperator? (l : Lexeme) : Option Operator :=
  match l.token with
  | .eq => some (.compare .eq)
  | .ne => some (.compare .ne)
  | .lt => some (.compare .lt)
  | .le => some (.compare .le)
  | .gt => some (.compare .gt)
  | .ge => some (.compare .ge)
  | .word w =>
    match Text.asciiLower w with
    | "contains" => some (.matchText .contains)
    | "starts_with" => some (.matchText .startsWith)
    | "ends_with" => some (.matchText .endsWith)
    | "regex" => some (.matchText .regex)
    | _ => none
  | _ => none

/-- The operator of a conjunction. -/
def andOperator? (l : Lexeme) : Option Operator :=
  match l.token with
  | .andAnd => some (.connect .and)
  | _ => if l.isWord "and" then some (.connect .and) else none

/-- The operator of a disjunction. -/
def orOperator? (l : Lexeme) : Option Operator :=
  match l.token with
  | .orOr => some (.connect .or)
  | _ => if l.isWord "or" then some (.connect .or) else none

/-- A comparison of two sums, a membership or a sum alone. -/
def comparison (self sum : Reader Expr) : Reader Expr := fun ls => do
  let (left, rest) ← sum ls
  match rest with
  | [] => return (left, [])
  | l :: more =>
    if l.isWord "in" then do
      let (list, rest) ← membershipList stop self more
      return (.binary left .isIn list, rest)
    else if l.isWord "not" && atWord "in" more then do
      let (list, rest) ← membershipList stop self (more.drop 1)
      return (.unary .not (.binary left .isIn list), rest)
    else
      match comparisonOperator? l with
      | some op => do
        let (right, rest) ← sum more
        return (.binary left op right, rest)
      | none => return (left, rest)

/-- A comparison behind any number of `not`. -/
def negation (comparison : Reader Expr) : Reader Expr
  | l :: rest =>
    if l.isWord "not" then do
      let (e, rest) ← negation comparison rest
      return (.unary .not e, rest)
    else comparison (l :: rest)
  | [] => comparison []

/-- The reader of sums over a reader of expressions; the loop between the two is cut at primary
expressions, where a clause of an aggregate is a sum again. -/
def sumWith (self sum : Reader Expr) : Reader Expr :=
  chain (chain (signed (primary stop self sum)) productOperator?) sumOperator?

/-- The reader of disjunctions over readers of the expressions and sums inside it. -/
def disjunctionWith (self sum : Reader Expr) : Reader Expr :=
  chain (chain (negation (comparison stop self (sumWith stop self sum))) andOperator?) orOperator?

/-- The readers of expressions and of sums nested less than `n` deep. -/
def readers : Nat → Reader Expr × Reader Expr
  | 0 => (fun ls => .error (unexpected stop .expression ls),
          fun ls => .error (unexpected stop .expression ls))
  | n + 1 =>
    let inner := readers n
    (disjunctionWith stop inner.1 inner.2, sumWith stop inner.1 inner.2)

/-- An expression. -/
def expression : Reader Expr := fun ls => (readers stop (ls.length + 1)).1 ls

/-- The end of the text. -/
def endOfText : List Lexeme → Except ParseError Unit
  | [] => .ok ()
  | ls => .error (unexpected stop .endOfExpression ls)

/-- The name behind `as`, if there is one. -/
def aliasClause : Reader (Option String) := fun ls =>
  match ls with
  | l :: rest =>
    if l.isWord "as" then do
      let (name, rest) ← anyWord stop .alias_ rest
      return (some name, rest)
    else .ok (none, ls)
  | [] => .ok (none, [])

end Grammar

/-- The lexemes of a text that is not blank. -/
def lexemes (s : String) : Except ParseError (List Lexeme) :=
  if (Text.trimChars s.toList).isEmpty then .error .emptyExpression else tokenize s

/-- The expression of a text. -/
def Expr.parse (s : String) : Except ParseError Expr := do
  let stop := s.utf8ByteSize
  let (e, rest) ← Grammar.expression stop (← lexemes s)
  Grammar.endOfText stop rest
  return e

/-- The feature of a text: an expression and perhaps a name for it. -/
def FeatureText.parse (s : String) : Except ParseError FeatureText := do
  let stop := s.utf8ByteSize
  let (e, rest) ← Grammar.expression stop (← lexemes s)
  let (name, rest) ← Grammar.aliasClause stop rest
  Grammar.endOfText stop rest
  return ⟨Text.trim s, e, name⟩

end Hindsight
