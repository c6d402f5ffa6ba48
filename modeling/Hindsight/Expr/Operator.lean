/-!
# Operators

The operators of expressions, in the families that are evaluated alike: comparisons, arithmetic,
connectives, matches of a text against a pattern, and membership in a list.
-/

namespace Hindsight

/-- A comparison of two values. -/
inductive Comparison where
  | eq
  | ne
  | gt
  | ge
  | lt
  | le
deriving DecidableEq, Repr

/-- An operation on two numbers. -/
inductive Arithmetic where
  | add
  | sub
  | mul
  | div
deriving DecidableEq, Repr

/-- A connective of two conditions. -/
inductive Connective where
  | and
  | or
deriving DecidableEq, Repr

/-- A test of a text against another. -/
inductive TextMatch where
  | contains
  | startsWith
  | endsWith
  | regex
deriving DecidableEq, Repr

/-- An operator with two operands. -/
inductive Operator where
  | compare (c : Comparison)
  | arith (a : Arithmetic)
  | connect (c : Connective)
  | matchText (m : TextMatch)
  | isIn
deriving DecidableEq, Repr

/-- An operator with one operand. -/
inductive UnaryOperator where
  | not
  | negate
deriving DecidableEq, Repr

namespace Comparison

/-- The sign of a comparison. -/
def symbol : Comparison → String
  | eq => "=="
  | ne => "!="
  | gt => ">"
  | ge => ">="
  | lt => "<"
  | le => "<="

end Comparison

namespace Arithmetic

/-- The sign of an operation. -/
def symbol : Arithmetic → String
  | add => "+"
  | sub => "-"
  | mul => "*"
  | div => "/"

end Arithmetic

namespace Operator

/-- The operators. -/
def all : List Operator :=
  [.compare .eq, .compare .ne, .compare .gt, .compare .ge, .compare .lt, .compare .le,
   .arith .add, .arith .sub, .arith .mul, .arith .div, .connect .and, .connect .or, .isIn,
   .matchText .contains, .matchText .startsWith, .matchText .endsWith, .matchText .regex]

/-- How an operator is written in an expression. -/
def symbol : Operator → String
  | compare c => c.symbol
  | arith a => a.symbol
  | connect .and => "and"
  | connect .or => "or"
  | isIn => "in"
  | matchText .contains => "contains"
  | matchText .startsWith => "starts_with"
  | matchText .endsWith => "ends_with"
  | matchText .regex => "regex"

/-- The name of an operator in a syntax tree. -/
def tag : Operator → String
  | compare .eq => "Eq"
  | compare .ne => "Ne"
  | compare .gt => "Gt"
  | compare .ge => "Ge"
  | compare .lt => "Lt"
  | compare .le => "Le"
  | arith .add => "Add"
  | arith .sub => "Sub"
  | arith .mul => "Mul"
  | arith .div => "Div"
  | connect .and => "And"
  | connect .or => "Or"
  | isIn => "In"
  | matchText .contains => "Contains"
  | matchText .startsWith => "StartsWith"
  | matchText .endsWith => "EndsWith"
  | matchText .regex => "Regex"

/-- The operator of that name in a syntax tree. -/
def ofTag? (s : String) : Option Operator := all.find? fun o => o.tag == s

/-- An operator is read back from its name in a syntax tree, so different operators have different
names. -/
theorem ofTag?_tag (o : Operator) : ofTag? o.tag = some o := by
  rcases o with c | a | c | m | _
  · cases c <;> rfl
  · cases a <;> rfl
  · cases c <;> rfl
  · cases m <;> rfl
  · rfl

/-- Whether an operator compares. -/
def isComparison : Operator → Bool
  | compare _ => true
  | _ => false

/-- Whether an operator calculates. -/
def isArithmetic : Operator → Bool
  | arith _ => true
  | _ => false

/-- Whether an operator connects conditions. -/
def isConnective : Operator → Bool
  | connect _ => true
  | _ => false

/-- Whether an operator tests a text against another. -/
def isTextMatch : Operator → Bool
  | matchText _ => true
  | _ => false

/-- Whether an operator yields a truth value, as all but the arithmetic ones do. -/
def isPredicate (o : Operator) : Bool := !o.isArithmetic

end Operator

namespace UnaryOperator

/-- The name of an operator in a syntax tree. -/
def tag : UnaryOperator → String
  | not => "Not"
  | negate => "Negate"

/-- The operator of that name in a syntax tree. -/
def ofTag? : String → Option UnaryOperator
  | "Not" => some not
  | "Negate" => some negate
  | _ => none

/-- An operator with one operand is read back from its name in a syntax tree. -/
theorem ofTag?_tag (o : UnaryOperator) : ofTag? o.tag = some o := by cases o <;> rfl

end UnaryOperator

end Hindsight
