import Hindsight.Json.Basic
import Hindsight.Number.Reading
import Hindsight.Number.Word

/-!
# Numbers in JSON text

A number without fraction and exponent that fits 64 bits, signed or unsigned, is an integer; minus
zero is not. Any other number is a float: as many of its leading digits as fit an unsigned word of
64 bits make a significand, which is converted to a float and then multiplied or divided by one
power of ten. The digits that do not fit are dropped. A result beyond the largest float is a fault.
-/

namespace Hindsight
namespace Json

/-- Take digits into a significand while it fits 64 bits; gives the significand, the number of
digits taken and what follows. -/
def takeDigits (significand taken : Nat) : List Char → Nat × Nat × List Char
  | [] => (significand, taken, [])
  | c :: rest =>
    let next := significand * 10 + (c.toNat - '0'.toNat)
    if c.isDigit && decide (next < 18446744073709551616) then takeDigits next (taken + 1) rest
    else (significand, taken, c :: rest)

/-- Whether a digit comes next. -/
def startsWithDigit : List Char → Bool
  | c :: _ => c.isDigit
  | [] => false

/-- A float scaled by a power of ten. Powers beyond the table of 308 are taken in steps; `fuel`
bounds the steps, after three of which every significand has become zero. -/
def scaled : Nat → Float → Int → Option Float
  | 0, f, _ => some f
  | fuel + 1, f, e =>
    if -308 ≤ e ∧ e ≤ 308 then
      if 0 ≤ e then
        let r := f * Number.nearest 1 e
        if Number.isFinite r then some r else none
      else some (f / Number.nearest 1 (-e))
    else if f == 0 then some f
    else if 0 ≤ e then none
    else scaled fuel (f / Number.nearest 1 308) (e + 308)

/-- The float of a sign, a significand and an exponent. -/
def ofParts (negative : Bool) (significand : Nat) (e : Int) : Json :=
  match scaled 4 (Number.toFloat significand) e with
  | some x => float (if negative then -x else x)
  | none => fault .unreadable

/-- The end of a number from its exponent on. -/
def readExponent (negative : Bool) (significand : Nat) (e : Int) (cs : List Char) :
    Option (Json × List Char) :=
  match cs with
  | c :: rest =>
    if c = 'e' ∨ c = 'E' then
      let ds := match rest with
        | '+' :: ds => ds
        | '-' :: ds => ds
        | ds => ds
      let digits := ds.takeWhile Char.isDigit
      if digits.isEmpty then none
      else
        let n : Int := Number.digitsValue digits
        let e := if rest.head? = some '-' then e - n else e + n
        some (ofParts negative significand e, ds.drop digits.length)
    else some (ofParts negative significand e, cs)
  | [] => some (ofParts negative significand e, [])

/-- The end of a number from the digits behind its point on. -/
def readFraction (negative : Bool) (significand : Nat) (e : Int) (cs : List Char) :
    Option (Json × List Char) :=
  let (significand, taken, rest) := takeDigits significand 0 cs
  if startsWithDigit rest then
    readExponent negative significand (e - taken) (rest.dropWhile Char.isDigit)
  else if taken = 0 then none
  else readExponent negative significand (e - taken) rest

/-- A number without its sign, and what follows it. -/
def readUnsigned (negative : Bool) (cs : List Char) : Option (Json × List Char) :=
  if !startsWithDigit cs then none
  else
    let (significand, taken, rest) := takeDigits 0 0 cs
    if decide (1 < taken) && cs.head? == some '0' then none
    else
      let dropped := rest.takeWhile Char.isDigit
      match rest.drop dropped.length with
      | '.' :: more => readFraction negative significand dropped.length more
      | more =>
        if !dropped.isEmpty || more.head? == some 'e' || more.head? == some 'E' then
          readExponent negative significand dropped.length more
        else if !negative then some (int significand, more)
        else if significand = 0 ∨ !Number.fitsWord (-(significand : Int)) then
          some (float (-(Number.toFloat significand)), more)
        else some (int (-(significand : Int)), more)

/-- A number and what follows it. -/
def readNumber : List Char → Option (Json × List Char)
  | '-' :: rest => readUnsigned true rest
  | cs => readUnsigned false cs

end Json
end Hindsight
