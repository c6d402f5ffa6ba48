import Hindsight.Expr.Description

/-!
# Writing expressions

A syntax tree as a text (`Expr.render`). Every form of expression belongs to a level of the grammar,
from an aggregate, which is loosest, to what signs may stand in front of. Each place of a text takes
expressions from some level on, and an expression of a looser level is put in parentheses there
(`Level.enclose`). Operators of one level lean to the left, so their left operand may be of the
level itself, but comparisons do not chain. An aggregate is enclosed wherever it is a part.
-/

namespace Hindsight
namespace Grammar

/-- The levels of the grammar, from loose to tight. -/
inductive Level where
  | whole
  | disjunction
  | conjunction
  | negation
  | comparison
  | sum
  | product
  | signed
deriving DecidableEq, Repr

namespace Level

/-- The place of a level among the levels; what is tighter has a greater one. -/
def rank : Level → Nat
  | whole => 0
  | disjunction => 1
  | conjunction => 2
  | negation => 3
  | comparison => 4
  | sum => 5
  | product => 6
  | signed => 7

/-- The next tighter level. -/
def tighter : Level → Level
  | whole => disjunction
  | disjunction => conjunction
  | conjunction => negation
  | negation => comparison
  | comparison => sum
  | sum => product
  | product => signed
  | signed => signed

/-- A text of one level where a text of another may stand. -/
def enclose (bound own : Level) (s : String) : String :=
  if own.rank < bound.rank then "(" ++ s ++ ")" else s

end Level
end Grammar

open Grammar (Level)

/-- The level of the expressions with an operator. -/
def Operator.level : Operator → Level
  | connect .or => .disjunction
  | connect .and => .conjunction
  | compare _ | matchText _ | isIn => .comparison
  | arith .add | arith .sub => .sum
  | arith .mul | arith .div => .product

/-- The level of left operands. -/
def Operator.leftLevel (op : Operator) : Level :=
  if op.level = .comparison then .sum else op.level

/-- The level of right operands. -/
def Operator.rightLevel (op : Operator) : Level := op.level.tighter

/-- The word for a field. -/
def EventField.word : EventField → String
  | type => "event_type"
  | time => "event_time"
  | id => "event_id"

namespace Expr

/-- A character of a quoted text, behind a backslash where it would not stand for itself or not
show. -/
def quotedChar (c : Char) : List Char :=
  if c = '\\' then ['\\', '\\']
  else if c = '\'' then ['\\', '\'']
  else if c = '\n' then ['\\', 'n']
  else if c = '\t' then ['\\', 't']
  else [c]

/-- A text between quotes. -/
def quotedText (s : String) : String := "'" ++ String.ofList (s.toList.flatMap quotedChar) ++ "'"

/-- A literal. No text reads as a value other than null, a truth value, a number or a text. -/
def literalText : Value → String
  | .null => "null"
  | .bool true => "true"
  | .bool false => "false"
  | .int n => toString n
  | .float x => Number.floatText x
  | .text s => quotedText s
  | v => describedValue v

/-- The level of an expression. -/
def level : Expr → Level
  | aggregate .. => .whole
  | binary _ op _ => op.level
  | unary .not _ => .negation
  | _ => .signed

mutual

/-- **The text of an expression.** -/
def render : Expr → String
  | literal v => literalText v
  | attr path => path
  | sourceAttr path => "@" ++ path
  | field f => f.word
  | entity .observation entityType => "@entities." ++ entityType
  | entity .event entityType => "entities." ++ entityType
  | observationTime => "obs_dt"
  | wildcard => "*"
  | list items => "(" ++ renderItems items ++ ")"
  | unary .not operand => "not " ++ Level.negation.enclose operand.level (render operand)
  | unary .negate operand => "-" ++ Level.signed.enclose operand.level (render operand)
  | binary left op right =>
    op.leftLevel.enclose left.level (render left) ++ " " ++ op.symbol ++ " " ++
      op.rightLevel.enclose right.level (render right)
  | call name args => name ++ "(" ++ renderItems args ++ ")"
  | aggregate function argument parameter window filter selection =>
    function ++ "(" ++ Level.disjunction.enclose argument.level (render argument) ++
      renderParameter parameter ++ ") over " ++ window.text ++ renderFilter filter ++
      renderSelection selection

/-- The texts of expressions with commas between them. -/
def renderItems : List Expr → String
  | [] => ""
  | e :: rest => Level.disjunction.enclose e.level (render e) ++ renderMore rest

/-- The texts of expressions, each behind a comma. -/
def renderMore : List Expr → String
  | [] => ""
  | e :: rest => ", " ++ (Level.disjunction.enclose e.level (render e) ++ renderMore rest)

/-- The second argument of an aggregate. -/
def renderParameter : Option Expr → String
  | none => ""
  | some e => ", " ++ Level.disjunction.enclose e.level (render e)

/-- The filter of an aggregate. -/
def renderFilter : Option Expr → String
  | none => ""
  | some e => " where " ++ Level.disjunction.enclose e.level (render e)

/-- The grouping or the selection of an aggregate. -/
def renderSelection : Selection → String
  | .all => ""
  | .groupBy key => " group by " ++ Level.sum.enclose key.level (render key)
  | .having extreme rank =>
    " having " ++ extreme.name ++ " " ++ Level.sum.enclose rank.level (render rank)

end

/-- An expression where those of a level may stand. -/
def renderAt (bound : Level) (e : Expr) : String := bound.enclose e.level e.render

end Expr
end Hindsight
