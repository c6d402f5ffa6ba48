import Hindsight.Number.Shortest

/-!
# Reading decimal texts

A decimal text is read as the double nearest to it, halfway cases going to the even significand.
Signs, an exponent and the names of infinity and of a NaN are understood.
-/

namespace Hindsight
namespace Number

/-- The double nearest to `m · 10 ^ e`. Magnitudes far outside the range of doubles are decided
without computing the power. -/
def nearest (m : Nat) (e : Int) : Float :=
  if m == 0 then Float.ofScientific 0 false 0
  else
    let top := (digitCount m : Int) + e
    if 400 < top then Float.ofScientific 1 false 400
    else if top < -400 then Float.ofScientific 0 false 0
    else if e < 0 then Float.ofScientific m true (-e).toNat
    else Float.ofScientific m false e.toNat

/-- The natural number that a list of digits denotes. -/
def digitsValue (ds : List Char) : Nat := ds.foldl (fun n c => 10 * n + (c.toNat - '0'.toNat)) 0

/-- The exponent part of a decimal text, zero if there is none. -/
def exponentPart : List Char → Option Int
  | [] => some 0
  | c :: rest =>
    if c == 'e' || c == 'E' then
      let digits := match rest with
        | '+' :: ds => ds
        | '-' :: ds => ds
        | ds => ds
      if digits.isEmpty || !digits.all Char.isDigit then none
      else
        let n : Int := digitsValue digits
        some (if rest.head? == some '-' then -n else n)
    else none

/-- The float of an unsigned decimal text. -/
def unsignedFloat? (cs : List Char) : Option Float :=
  let whole := cs.takeWhile Char.isDigit
  let rest := cs.dropWhile Char.isDigit
  let (fraction, rest) := match rest with
    | '.' :: r => (r.takeWhile Char.isDigit, r.dropWhile Char.isDigit)
    | r => ([], r)
  if whole.isEmpty && fraction.isEmpty then none
  else (exponentPart rest).map fun e =>
    nearest (digitsValue (whole ++ fraction)) (e - (fraction.length : Int))

/-- The float that a text denotes. -/
def float? (s : String) : Option Float :=
  let (negative, cs) := match s.toList with
    | '-' :: cs => (true, cs)
    | '+' :: cs => (false, cs)
    | cs => (false, cs)
  let name := String.ofList (cs.map Char.toLower)
  let unsigned :=
    if name == "inf" || name == "infinity" then some (nearest 1 400)
    else if name == "nan" then some (nearest 0 0 / nearest 0 0)
    else unsignedFloat? cs
  unsigned.map fun x => if negative then -x else x

end Number
end Hindsight
