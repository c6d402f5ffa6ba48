import Hindsight.Text.Basic
import Hindsight.Time.Instant

/-!
# Instants as text

An instant is written as a date and a time with the letter `T` between them. The fraction of a
second has 0, 3, 6 or 9 digits, the fewest that are exact; a leap second is written as second 60;
a year outside 0 to 9999 has a sign.

Reading is more generous. One of a few layouts has to fit the whole text, blanks around it apart,
and a date alone means its midnight. A number may follow blanks; months, days, hours, minutes and
seconds take one or two digits, a year takes up to four, or any number of them behind a sign. A
blank in a layout stands for any run of blanks, the empty one included.
-/

namespace Hindsight
namespace Time

/-- A number with zeros in front up to a width. -/
def padded (width n : Nat) : String :=
  let ds := Nat.toDigits 10 n
  String.ofList (List.replicate (width - ds.length) '0' ++ ds)

/-- A year with four digits at least, and with a sign if it has to be told from a shorter one. -/
def yearText (y : Int) : String :=
  if 0 ≤ y ∧ y < 10000 then padded 4 y.toNat
  else (if y < 0 then "-" else "+") ++ padded 4 y.natAbs

/-- The fraction of a second with its point, empty if it is zero. -/
def fractionText (nano : Nat) : String :=
  if nano = 0 then ""
  else if nano % 1000000 = 0 then "." ++ padded 3 (nano / 1000000)
  else if nano % 1000 = 0 then "." ++ padded 6 (nano / 1000)
  else "." ++ padded 9 nano

/-- The text of an instant. -/
def Instant.text (t : Instant) : String :=
  let c := t.civil
  yearText c.year ++ "-" ++ padded 2 c.month ++ "-" ++ padded 2 c.day ++ "T" ++
    padded 2 t.hour ++ ":" ++ padded 2 t.minute ++ ":" ++ padded 2 t.writtenSecond ++
    fractionText t.writtenNano

/-- A part of a layout. -/
inductive Piece where
  | year
  | month
  | day
  | hour
  | minute
  | second
  | fraction
  | blanks
  | literal (c : Char)
deriving DecidableEq, Repr

/-- The numbers read so far; a time that is not read is midnight. -/
structure Fields where
  year : Int
  month : Nat
  day : Nat
  hour : Nat
  minute : Nat
  second : Nat
  nano : Nat
deriving DecidableEq, Repr

/-- Nothing read yet. -/
def Fields.start : Fields := ⟨0, 0, 0, 0, 0, 0, 0⟩

/-- The number that up to `most` leading digits denote, of which there has to be one. -/
def readDigits (most : Nat) (cs : List Char) : Option (Nat × List Char) :=
  let ds := (cs.take most).takeWhile Char.isDigit
  if ds.isEmpty then none
  else some (ds.foldl (fun n c => 10 * n + (c.toNat - '0'.toNat)) 0, cs.drop ds.length)

/-- A number of up to two digits behind blanks, no greater than `greatest`. -/
def readField (greatest : Nat) (cs : List Char) : Option (Nat × List Char) :=
  (readDigits 2 (Text.dropBlanks cs)).filter fun r => decide (r.1 ≤ greatest)

/-- A year behind blanks. -/
def readYear (cs : List Char) : Option (Int × List Char) :=
  match Text.dropBlanks cs with
  | '-' :: ds => (readDigits ds.length ds).map fun r => (-(r.1 : Int), r.2)
  | '+' :: ds => (readDigits ds.length ds).map fun r => ((r.1 : Int), r.2)
  | ds => (readDigits 4 ds).map fun r => ((r.1 : Int), r.2)

/-- The nanoseconds that a fraction denotes; digits after the ninth are dropped. Without a point
there is no fraction. -/
def readFraction (cs : List Char) : Option (Nat × List Char) :=
  match cs with
  | '.' :: ds =>
    (readDigits 9 ds).map fun r =>
      (r.1 * Nat.pow 10 (9 - (ds.length - r.2.length)), r.2.dropWhile Char.isDigit)
  | _ => some (0, cs)

/-- Read one part of a layout. -/
def Piece.read (p : Piece) (f : Fields) (cs : List Char) : Option (Fields × List Char) :=
  match p with
  | .year => (readYear cs).map fun r => ({ f with year := r.1 }, r.2)
  | .month => (readField 12 cs).map fun r => ({ f with month := r.1 }, r.2)
  | .day => (readField 31 cs).map fun r => ({ f with day := r.1 }, r.2)
  | .hour => (readField 23 cs).map fun r => ({ f with hour := r.1 }, r.2)
  | .minute => (readField 59 cs).map fun r => ({ f with minute := r.1 }, r.2)
  | .second => (readField 60 cs).map fun r => ({ f with second := r.1 }, r.2)
  | .fraction => (readFraction cs).map fun r => ({ f with nano := r.1 }, r.2)
  | .blanks => some (f, Text.dropBlanks cs)
  | .literal c =>
    match cs with
    | [] => none
    | c' :: rest => if c = c' then some (f, rest) else none

/-- Read the parts of a layout in order, up to the end of the text. -/
def readPieces : List Piece → Fields → List Char → Option Fields
  | [], f, cs => if cs.isEmpty then some f else none
  | p :: ps, f, cs =>
    match p.read f cs with
    | none => none
    | some (f', rest) => readPieces ps f' rest

/-- The instant that the numbers denote, if there is such a day. Second 60 is the leap second. -/
def Fields.instant? (f : Fields) : Option Instant :=
  let c : Civil := ⟨f.year, f.month, f.day⟩
  if c.isValid then
    let leap := f.second = 60
    Instant.ofParts? c.dayNumber
      (f.hour * 3600 + f.minute * 60 + (if leap then 59 else f.second))
      (f.nano + (if leap then 1000000000 else 0))
  else none

/-- Year, month and day with hyphens between them. -/
def dateLayout : List Piece := [.year, .literal '-', .month, .literal '-', .day]

/-- Hour, minute, second and perhaps a fraction. -/
def timeLayout : List Piece :=
  [.hour, .literal ':', .minute, .literal ':', .second, .fraction]

/-- Hour and minute. -/
def shortTimeLayout : List Piece := [.hour, .literal ':', .minute]

/-- The layouts in the order in which they are tried. -/
def layouts : List (List Piece) :=
  [dateLayout ++ .literal 'T' :: timeLayout,
   dateLayout ++ .blanks :: timeLayout,
   dateLayout ++ .literal 'T' :: shortTimeLayout,
   dateLayout ++ .blanks :: shortTimeLayout,
   dateLayout]

/-- The instant that a text denotes. -/
def Instant.ofText? (s : String) : Option Instant :=
  let cs := Text.trimChars s.toList
  layouts.findSome? fun l => (readPieces l Fields.start cs).bind Fields.instant?

end Time
end Hindsight
