import Hindsight.Expr.Error
import Hindsight.Number.Reading
import Hindsight.Number.Word
import Hindsight.Text.Basic

/-!
# Tokens

An expression text is split into words, numbers, quoted strings and signs. Keywords are words like
any other. Every token knows the bytes it was read from; between tokens there are only blanks.
-/

namespace Hindsight

/-- A token. -/
inductive Token where
  | word (s : String)
  | int (n : Int)
  | float (x : Float)
  | text (s : String)
  | openParen
  | closeParen
  | comma
  | dot
  | atSign
  | star
  | plus
  | minus
  | slash
  | eq
  | ne
  | lt
  | le
  | gt
  | ge
  | bang
  | andAnd
  | orOr

/-- How a token is shown in messages; signs with two spellings are shown in one. -/
def Token.shown : Token → String
  | word s => s
  | int n => toString n
  | float x => Number.floatText x
  | text s => "'" ++ s ++ "'"
  | openParen => "("
  | closeParen => ")"
  | comma => ","
  | dot => "."
  | atSign => "@"
  | star => "*"
  | plus => "+"
  | minus => "-"
  | slash => "/"
  | eq => "=="
  | ne => "!="
  | lt => "<"
  | le => "<="
  | gt => ">"
  | ge => ">="
  | bang => "!"
  | andAnd => "&&"
  | orOr => "||"

/-- A token with the bytes from `start` up to `stop` that it was read from. -/
structure Lexeme where
  token : Token
  start : Nat
  stop : Nat

/-- Whether a lexeme is that word, in any case. -/
def Lexeme.isWord (l : Lexeme) (w : String) : Bool :=
  match l.token with
  | .word s => Text.sameWord s w
  | _ => false

namespace Lexer

/-- Whether a character can start a word. -/
def startsWord (c : Char) : Bool := c.isAlpha || c == '_'

/-- Whether a character can go on in a word. -/
def continuesWord (c : Char) : Bool := c.isAlphanum || c == '_'

/-- A token, its characters and the characters that follow it. -/
structure Scanned where
  token : Token
  lexeme : List Char
  rest : List Char

/-- The word at the head of the characters. -/
def scanWord (cs : List Char) : Scanned :=
  let w := cs.takeWhile continuesWord
  ⟨.word (String.ofList w), w, cs.dropWhile continuesWord⟩

/-- The number at the head of the characters. A point belongs to it if a digit follows. An integer
has to fit 64 bits. -/
def scanNumber (position : Nat) (cs : List Char) : Except ParseError Scanned :=
  let whole := cs.takeWhile Char.isDigit
  let rest := cs.dropWhile Char.isDigit
  let integer : Except ParseError Scanned :=
    match Number.word? (Number.digitsValue whole) with
    | some n => .ok ⟨.int n, whole, rest⟩
    | none => .error (.invalidNumber (String.ofList whole) position)
  match rest with
  | '.' :: d :: more =>
    if d.isDigit then
      let fraction := (d :: more).takeWhile Char.isDigit
      let x := Number.nearest (Number.digitsValue (whole ++ fraction)) (-(fraction.length : Int))
      .ok ⟨.float x, whole ++ '.' :: fraction, (d :: more).dropWhile Char.isDigit⟩
    else integer
  | _ => integer

/-- The characters that a quoted string stands for, those it is written with and what follows its
closing quote. A backslash makes the character after it plain, but `n` and `t` stand for a line
feed and a tab. -/
def scanQuoted (quote : Char) : List Char → Option (List Char × List Char × List Char)
  | [] => none
  | '\\' :: 'n' :: rest =>
    (scanQuoted quote rest).map fun r => ('\n' :: r.1, '\\' :: 'n' :: r.2.1, r.2.2)
  | '\\' :: 't' :: rest =>
    (scanQuoted quote rest).map fun r => ('\t' :: r.1, '\\' :: 't' :: r.2.1, r.2.2)
  | '\\' :: c :: rest =>
    (scanQuoted quote rest).map fun r => (c :: r.1, '\\' :: c :: r.2.1, r.2.2)
  | c :: rest =>
    if c = quote then some ([], [c], rest)
    else if c = '\\' then none
    else (scanQuoted quote rest).map fun r => (c :: r.1, c :: r.2.1, r.2.2)

/-- The sign at the head of the characters, two characters before one. -/
def scanSign : List Char → Option Scanned
  | '=' :: '=' :: rest => some ⟨.eq, ['=', '='], rest⟩
  | '!' :: '=' :: rest => some ⟨.ne, ['!', '='], rest⟩
  | '<' :: '>' :: rest => some ⟨.ne, ['<', '>'], rest⟩
  | '<' :: '=' :: rest => some ⟨.le, ['<', '='], rest⟩
  | '>' :: '=' :: rest => some ⟨.ge, ['>', '='], rest⟩
  | '&' :: '&' :: rest => some ⟨.andAnd, ['&', '&'], rest⟩
  | '|' :: '|' :: rest => some ⟨.orOr, ['|', '|'], rest⟩
  | '=' :: rest => some ⟨.eq, ['='], rest⟩
  | '!' :: rest => some ⟨.bang, ['!'], rest⟩
  | '<' :: rest => some ⟨.lt, ['<'], rest⟩
  | '>' :: rest => some ⟨.gt, ['>'], rest⟩
  | '(' :: rest => some ⟨.openParen, ['('], rest⟩
  | ')' :: rest => some ⟨.closeParen, [')'], rest⟩
  | ',' :: rest => some ⟨.comma, [','], rest⟩
  | '.' :: rest => some ⟨.dot, ['.'], rest⟩
  | '@' :: rest => some ⟨.atSign, ['@'], rest⟩
  | '*' :: rest => some ⟨.star, ['*'], rest⟩
  | '+' :: rest => some ⟨.plus, ['+'], rest⟩
  | '-' :: rest => some ⟨.minus, ['-'], rest⟩
  | '/' :: rest => some ⟨.slash, ['/'], rest⟩
  | _ => none

/-- The token at the head of characters that start with no blank. -/
def scanToken (position : Nat) (c : Char) (cs : List Char) : Except ParseError Scanned :=
  if startsWord c then .ok (scanWord (c :: cs))
  else if c.isDigit then scanNumber position (c :: cs)
  else if c = '\'' ∨ c = '"' then
    match scanQuoted c cs with
    | some (s, written, rest) => .ok ⟨.text (String.ofList s), c :: written, rest⟩
    | none => .error (.unterminatedString position)
  else
    match scanSign (c :: cs) with
    | some s => .ok s
    | none => .error (.invalidCharacter c position)

/-- The lexemes of characters that start at a byte; `fuel` bounds the number of characters. -/
def scan : Nat → Nat → List Char → Except ParseError (List Lexeme)
  | _, _, [] => .ok []
  | 0, _, _ :: _ => .ok []
  | fuel + 1, position, c :: cs =>
    if Text.isBlank c then scan fuel (position + c.utf8Size) cs
    else
      match scanToken position c cs with
      | .error e => .error e
      | .ok s =>
        let stop := position + Text.byteLength s.lexeme
        match scan fuel stop s.rest with
        | .error e => .error e
        | .ok more => .ok (⟨s.token, position, stop⟩ :: more)

end Lexer

/-- The lexemes of a text. -/
def tokenize (s : String) : Except ParseError (List Lexeme) :=
  let cs := s.toList
  Lexer.scan cs.length 0 cs

end Hindsight
