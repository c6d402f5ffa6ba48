/-!
# Faults of expression texts

Why a text is no expression, and at which byte of the text.
-/

namespace Hindsight

/-- What should have come at a place. -/
inductive Expectation where
  | expression
  | closing
  | listStart
  | reference
  | entityType
  | segment
  | by_
  | extreme
  | timeUnit
  | alias_
  | endOfExpression
  | aggregateArguments (function : String)
  | endOfAggregate
deriving DecidableEq, Repr

/-- An expectation in words. -/
def Expectation.text : Expectation → String
  | expression => "expression"
  | closing => "')' or ','"
  | listStart => "'(' to start a list"
  | reference => "'entities' or attribute name after '@'"
  | entityType => "entity type"
  | segment => "attribute name after '.'"
  | by_ => "'by'"
  | extreme => "'min' or 'max' after 'having'"
  | timeUnit => "time unit"
  | alias_ => "alias"
  | endOfExpression => "end of expression"
  | aggregateArguments f => "one or two arguments to aggregate '" ++ f ++ "'"
  | endOfAggregate => "end of aggregate; group by and having cannot be combined"

/-- What is wrong with a window. -/
inductive WindowFault where
  | missing
  | noWord (found : String)
  | unknown (word : String)
  | afterAll
  | length (found : String)
  | missingLength
  | unit (word : String)
deriving DecidableEq, Repr

/-- What is wrong with a window, in words. -/
def WindowFault.text : WindowFault → String
  | missing => "missing window after 'over'"
  | noWord t => "unexpected '" ++ t ++ "'"
  | unknown w => "unknown window '" ++ w ++ "'"
  | afterAll => "expected 'time' after 'all'"
  | length t => "window length must be a positive integer, got '" ++ t ++ "'"
  | missingLength => "missing window length"
  | unit w => "unknown time unit '" ++ w ++ "'"

/-- Why a text is no expression. -/
inductive ParseError where
  | emptyExpression
  | invalidCharacter (c : Char) (position : Nat)
  | unterminatedString (position : Nat)
  | invalidNumber (text : String) (position : Nat)
  | unexpectedToken (found : String) (expected : Expectation) (position : Nat)
  | unexpectedEnd (expected : Expectation) (position : Nat)
  | invalidWindow (fault : WindowFault) (position : Nat)
deriving DecidableEq, Repr

namespace ParseError

/-- The byte of the text that an error is about. -/
def position? : ParseError → Option Nat
  | emptyExpression => none
  | invalidCharacter _ p | unterminatedString p | invalidNumber _ p | unexpectedToken _ _ p
  | unexpectedEnd _ p | invalidWindow _ p => some p

/-- The message of an error. -/
def message : ParseError → String
  | emptyExpression => "Empty expression"
  | invalidCharacter c p =>
    "Invalid character '" ++ String.ofList [c] ++ "' at position " ++ toString p
  | unterminatedString p =>
    "Unterminated string literal starting at position " ++ toString p
  | invalidNumber t p => "Invalid number '" ++ t ++ "' at position " ++ toString p
  | unexpectedToken found expected p =>
    "Unexpected '" ++ found ++ "' at position " ++ toString p ++ ", expected " ++ expected.text
  | unexpectedEnd expected p =>
    "Unexpected end of input at position " ++ toString p ++ ", expected " ++ expected.text
  | invalidWindow fault p =>
    "Invalid window at position " ++ toString p ++ ": " ++ fault.text

end ParseError

end Hindsight
