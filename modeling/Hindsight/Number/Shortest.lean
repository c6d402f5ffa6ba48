/-!
# The shortest decimal of a binary float

A finite double is `m · 2 ^ q` with integers `m` and `q`. The reals that round to it form an
interval whose ends lie halfway to its neighbours and belong to it when `m` is even. Among the
decimals of that interval the shortest has the fewest digits, and among those of equally many
digits it is the nearest. For 1, 2, up to 17 digits the two neighbours of the value on the decimal
grid of that many digits are tested in exact arithmetic; the first grid with a hit wins, since a
grid that has a point in the interval has one of the two neighbours there.

Where a positional text ends and a text with an exponent starts, and whether a whole number keeps
a fraction of one zero, is up to a `Layout`.
-/

namespace Hindsight
namespace Number

/-- `digits · 10 ^ exponent`. -/
structure Decimal where
  digits : Nat
  exponent : Int
deriving DecidableEq, Repr

/-- Which of two equally near decimals is taken. -/
inductive Tie where
  | up
  | even
deriving DecidableEq, Repr

/-- The magnitude of a finite double as `m · 2 ^ q`, and whether `m` is the least of its binade, so
that the neighbour below is only half as far as the one above. -/
structure Magnitude where
  m : Nat
  q : Int
  narrowBelow : Bool
deriving DecidableEq, Repr

/-- The biased exponent field of a double. -/
def exponentField (x : Float) : Nat := (x.toBits.toNat >>> 52) % 2048

/-- The fraction field of a double. -/
def fractionField (x : Float) : Nat := x.toBits.toNat % 4503599627370496

/-- Whether the sign bit of a double is set. -/
def signBit (x : Float) : Bool := x.toBits.toNat >>> 63 == 1

/-- Whether a double is neither infinite nor a NaN. -/
def isFinite (x : Float) : Bool := exponentField x != 2047

/-- Whether a double is a NaN. -/
def isNaN (x : Float) : Bool := exponentField x == 2047 && fractionField x != 0

/-- A double that is no number. -/
def nan : Float := 0.0 / 0.0

/-- The magnitude of a finite double. -/
def magnitude (x : Float) : Magnitude :=
  let e := exponentField x
  let f := fractionField x
  if e == 0 then ⟨f, -1074, false⟩
  else ⟨4503599627370496 + f, (e : Int) - 1075, f == 0 && 1 < e⟩

/-- The number of decimal digits of a natural number, one for zero. -/
def digitCount (n : Nat) : Nat := (Nat.toDigits 10 n).length

/-- The exponent `e` with `10 ^ e ≤ n / d < 10 ^ (e + 1)`, for positive `n` and `d`. -/
def decimalExponent (n d : Nat) : Int :=
  if d ≤ n then (digitCount (n / d) : Int) - 1
  else -(digitCount ((d + n - 1) / n - 1) : Int)

/-- The decimal with its trailing zeros moved to the exponent; `fuel` bounds their number. -/
def stripZeros : Nat → Nat → Int → Decimal
  | 0, d, e => ⟨d, e⟩
  | fuel + 1, d, e => if d != 0 && d % 10 == 0 then stripZeros fuel (d / 10) (e + 1) else ⟨d, e⟩

/-- The hit on the grid of multiples of `10 ^ k`, for a value of four times `mid` quarters whose
interval reaches from `lo` to `hi` quarters, all in units of `2 ^ s`. -/
def gridHit (tie : Tie) (lo mid hi : Nat) (closed : Bool) (s k : Int) : Option Nat :=
  let unit := Nat.pow 10 k.toNat * Nat.pow 2 (-s).toNat
  let scale := Nat.pow 2 s.toNat * Nat.pow 10 (-k).toNat
  let inside (d : Nat) : Bool :=
    if closed then lo * scale ≤ d * unit && d * unit ≤ hi * scale
    else lo * scale < d * unit && d * unit < hi * scale
  let below := mid * scale / unit
  let above := below + 1
  match inside below, inside above with
  | true, false => some below
  | false, true => some above
  | false, false => none
  | true, true =>
    let toBelow := mid * scale - below * unit
    let toAbove := above * unit - mid * scale
    if toBelow < toAbove then some below
    else if toAbove < toBelow then some above
    else match tie with
      | .up => some above
      | .even => some (if below % 2 == 0 then below else above)

/-- The shortest decimal of a positive magnitude. -/
def shortest (tie : Tie) (v : Magnitude) : Decimal :=
  let s := v.q - 2
  let mid := 4 * v.m
  let hi := mid + 2
  let lo := if v.narrowBelow then mid - 1 else mid - 2
  let top := decimalExponent (mid * Nat.pow 2 s.toNat) (Nat.pow 2 (-s).toNat)
  let hit := (List.range 17).findSome? fun (n : Nat) =>
    let k : Int := top - Int.ofNat n
    (gridHit tie lo mid hi (v.m % 2 == 0) s k).map fun d => stripZeros 20 d k
  hit.getD ⟨v.m, v.q⟩

/-- How the decimal of a float is written. -/
structure Layout where
  tie : Tie
  /-- The least and the greatest power of ten of a leading digit that is written positionally;
  without them every number is. -/
  positional : Option (Int × Int)
  /-- Whether a whole number keeps a fraction of one zero. -/
  wholeFraction : Bool
  /-- Whether a positive power of ten has a sign. -/
  signedExponent : Bool

/-- Floats among the values of an expression are always written positionally, a whole number
without a point. -/
def Layout.plain : Layout := ⟨.up, none, false, false⟩

/-- Floats in the description of a syntax tree show a fraction or an exponent. -/
def Layout.described : Layout := ⟨.up, some (-4, 15), true, false⟩

/-- Floats in JSON text show a fraction or an exponent. -/
def Layout.json : Layout := ⟨.even, some (-5, 15), true, true⟩

/-- A text of `n` zeros. -/
def zeros (n : Nat) : String := String.ofList (List.replicate n '0')

/-- The positional text of the digits `ds` with the point after the first `p` of them. -/
def positionalText (wholeFraction : Bool) (ds : List Char) (p : Int) : String :=
  if p ≤ 0 then "0." ++ zeros (-p).toNat ++ String.ofList ds
  else if (ds.length : Int) ≤ p then
    String.ofList ds ++ zeros (p.toNat - ds.length) ++ (if wholeFraction then ".0" else "")
  else String.ofList (ds.take p.toNat) ++ "." ++ String.ofList (ds.drop p.toNat)

/-- The text with one digit before the point and a power of ten. -/
def exponentText (signed : Bool) (ds : List Char) (e : Int) : String :=
  let fraction := ds.drop 1
  String.ofList (ds.take 1) ++ (if fraction.isEmpty then "" else "." ++ String.ofList fraction) ++
    (if signed && decide (0 ≤ e) then "e+" else "e") ++ toString e

/-- The text of a float. -/
def Layout.text (l : Layout) (x : Float) : String :=
  if isNaN x then "NaN"
  else
    let sign := if signBit x then "-" else ""
    if !isFinite x then sign ++ "inf"
    else if fractionField x == 0 && exponentField x == 0 then
      sign ++ (if l.wholeFraction then "0.0" else "0")
    else
      let d := shortest l.tie (magnitude x)
      let ds := Nat.toDigits 10 d.digits
      let p := (ds.length : Int) + d.exponent
      let positional := match l.positional with
        | none => true
        | some (least, greatest) => decide (least ≤ p - 1) && decide (p - 1 ≤ greatest)
      sign ++ (if positional then positionalText l.wholeFraction ds p
        else exponentText l.signedExponent ds (p - 1))

/-- The text of a float among values. -/
def floatText (x : Float) : String := Layout.plain.text x

end Number
end Hindsight
