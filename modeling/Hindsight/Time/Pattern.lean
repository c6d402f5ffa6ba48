import Hindsight.Time.Text

/-!
# Date patterns

A pattern writes an instant: a directive behind a percent sign stands for one field or for a short
pattern, and all other characters stand for themselves. A numeric directive may name its padding:
`-` for none, `_` for blanks and `0` for zeros. A pattern with an unknown or unfinished directive,
or with one that needs a time zone, writes nothing at all.
-/

namespace Hindsight
namespace Time

/-- What fills a number up to its width. -/
inductive Padding where
  | none
  | zero
  | blank
deriving DecidableEq, Repr

/-- A field that is written as a number. -/
inductive NumericField where
  | year
  | century
  | yearOfCentury
  | weekYear
  | weekYearOfCentury
  | quarter
  | month
  | day
  | weekFromSunday
  | weekFromMonday
  | week
  | daysFromSunday
  | weekday
  | dayOfYear
  | hour
  | hourOfHalfDay
  | minute
  | second
  | nano
  | timestamp
deriving DecidableEq, Repr

/-- A field that is written as a text. -/
inductive TextField where
  | shortMonth
  | longMonth
  | shortWeekday
  | longWeekday
  | lowerHalfDay
  | upperHalfDay
  | fraction
  | fixedFraction (digits : Nat)
  | bareFraction (digits : Nat)
deriving DecidableEq, Repr

/-- What a pattern is made of. -/
inductive PatternItem where
  | literal (c : Char)
  | numeric (field : NumericField) (padding : Padding)
  | textual (field : TextField)
deriving DecidableEq, Repr

namespace PatternItem

/-- A number padded with zeros. -/
def zeroed (f : NumericField) : PatternItem := .numeric f .zero

/-- A number padded with blanks. -/
def blanked (f : NumericField) : PatternItem := .numeric f .blank

/-- A number as it is. -/
def plain (f : NumericField) : PatternItem := .numeric f .none

/-- Items with one character between any two of them. -/
def separated (c : Char) (items : List PatternItem) : List PatternItem :=
  items.intersperse (.literal c)

/-- Month, day and year of the century. -/
def slashDate : List PatternItem :=
  separated '/' [zeroed .month, zeroed .day, zeroed .yearOfCentury]

/-- Hour, minute and second. -/
def clock : List PatternItem := separated ':' [zeroed .hour, zeroed .minute, zeroed .second]

/-- What a directive of one letter stands for. -/
def ofLetter? : Char → Option (List PatternItem)
  | 'A' => some [.textual .longWeekday]
  | 'B' => some [.textual .longMonth]
  | 'C' => some [zeroed .century]
  | 'D' => some slashDate
  | 'F' => some (separated '-' [zeroed .year, zeroed .month, zeroed .day])
  | 'G' => some [zeroed .weekYear]
  | 'H' => some [zeroed .hour]
  | 'I' => some [zeroed .hourOfHalfDay]
  | 'M' => some [zeroed .minute]
  | 'P' => some [.textual .lowerHalfDay]
  | 'R' => some (separated ':' [zeroed .hour, zeroed .minute])
  | 'S' => some [zeroed .second]
  | 'T' => some clock
  | 'U' => some [zeroed .weekFromSunday]
  | 'V' => some [zeroed .week]
  | 'W' => some [zeroed .weekFromMonday]
  | 'X' => some clock
  | 'Y' => some [zeroed .year]
  | 'a' => some [.textual .shortWeekday]
  | 'b' => some [.textual .shortMonth]
  | 'c' => some (separated ' ' [.textual .shortWeekday, .textual .shortMonth, blanked .day] ++
      .literal ' ' :: clock ++ [.literal ' ', zeroed .year])
  | 'd' => some [zeroed .day]
  | 'e' => some [blanked .day]
  | 'f' => some [zeroed .nano]
  | 'g' => some [zeroed .weekYearOfCentury]
  | 'h' => some [.textual .shortMonth]
  | 'j' => some [zeroed .dayOfYear]
  | 'k' => some [blanked .hour]
  | 'l' => some [blanked .hourOfHalfDay]
  | 'm' => some [zeroed .month]
  | 'n' => some [.literal '\n']
  | 'p' => some [.textual .upperHalfDay]
  | 'q' => some [plain .quarter]
  | 'r' => some (separated ':' [zeroed .hourOfHalfDay, zeroed .minute, zeroed .second] ++
      [.literal ' ', .textual .upperHalfDay])
  | 's' => some [plain .timestamp]
  | 't' => some [.literal '\t']
  | 'u' => some [plain .weekday]
  | 'v' => some (separated '-' [blanked .day, .textual .shortMonth, zeroed .year])
  | 'w' => some [plain .daysFromSunday]
  | 'x' => some slashDate
  | 'y' => some [zeroed .yearOfCentury]
  | '%' => some [.literal '%']
  | _ => none

/-- The number of digits that a digit stands for in a directive for a fraction. -/
def fractionDigits? : Char → Option Nat
  | '3' => some 3
  | '6' => some 6
  | '9' => some 9
  | _ => none

/-- The padding that a character names. -/
def padding? : Char → Option Padding
  | '-' => some .none
  | '0' => some .zero
  | '_' => some .blank
  | _ => none

/-- The directive at the head of the characters behind a percent sign, and what follows it. -/
def directive? : List Char → Option (List PatternItem × List Char)
  | '.' :: 'f' :: rest => some ([.textual .fraction], rest)
  | '.' :: d :: 'f' :: rest =>
    (fractionDigits? d).map fun n => ([.textual (.fixedFraction n)], rest)
  | c :: rest =>
    match padding? c with
    | some p =>
      match rest with
      | [] => none
      | l :: rest =>
        match ofLetter? l with
        | some [.numeric f _] => some ([.numeric f p], rest)
        | _ => none
    | none =>
      match fractionDigits? c with
      | some n =>
        match rest with
        | 'f' :: rest => some ([.textual (.bareFraction n)], rest)
        | _ => none
      | none => (ofLetter? c).map fun items => (items, rest)
  | [] => none

end PatternItem

/-- The items of a pattern; `fuel` bounds the number of directives and characters. -/
def patternItems : Nat → List Char → Option (List PatternItem)
  | _, [] => some []
  | 0, _ :: _ => none
  | fuel + 1, '%' :: rest =>
    match PatternItem.directive? rest with
    | none => none
    | some (items, rest) => (patternItems fuel rest).map (items ++ ·)
  | fuel + 1, c :: rest => (patternItems fuel rest).map (.literal c :: ·)

/-- The names of the months. -/
def monthNames : List String :=
  ["January", "February", "March", "April", "May", "June", "July", "August", "September",
   "October", "November", "December"]

/-- The names of the days of the week from Monday on. -/
def weekdayNames : List String :=
  ["Monday", "Tuesday", "Wednesday", "Thursday", "Friday", "Saturday", "Sunday"]

/-- The first three letters of a name. -/
def shortened (s : String) : String := String.ofList (s.toList.take 3)

/-- An integer with its sign, always shown if `signed`, filled up to a width. -/
def paddedInteger (width : Nat) (p : Padding) (signed : Bool) (n : Int) : String :=
  let sign := if n < 0 then "-" else if signed then "+" else ""
  let ds := toString n.natAbs
  let missing := width - (sign.length + ds.length)
  match p with
  | .none => sign ++ ds
  | .zero => sign ++ String.ofList (List.replicate missing '0') ++ ds
  | .blank => String.ofList (List.replicate missing ' ') ++ sign ++ ds

/-- A number below 256 in two places, the tens as one character even beyond nine. -/
def twoPlaces (p : Padding) (n : Nat) : String :=
  let ones := String.ofList [Char.ofNat ('0'.toNat + n % 10)]
  if n / 10 = 0 then
    match p with
    | .none => ones
    | .zero => "0" ++ ones
    | .blank => " " ++ ones
  else String.ofList [Char.ofNat ('0'.toNat + n / 10)] ++ ones

/-- A year in four places, with a sign outside 0 to 9999. -/
def paddedYear (p : Padding) (y : Int) : String :=
  if 0 ≤ y ∧ y < 10000 then paddedInteger 4 p false y else paddedInteger 5 p true y

/-- The hour on a clock face. -/
def hourOfHalfDay (hour : Nat) : Nat := if hour % 12 = 0 then 12 else hour % 12

/-- The seconds since the first day of 1970; a leap second counts as the second before it. -/
def Instant.timestamp (t : Instant) : Int :=
  (t.day - Civil.dayNumber ⟨1970, 1, 1⟩) * 86400 + t.second

/-- A numeric field of an instant. -/
def NumericField.text (f : NumericField) (p : Padding) (t : Instant) : String :=
  let c := t.civil
  match f with
  | .year => paddedYear p c.year
  | .century => twoPlaces p (c.year / 100 % 256).toNat
  | .yearOfCentury => twoPlaces p (c.year % 100).toNat
  | .weekYear => paddedYear p (weekOf t.day).1
  | .weekYearOfCentury => twoPlaces p ((weekOf t.day).1 % 100).toNat
  | .quarter => toString ((c.month - 1) / 3 + 1)
  | .month => twoPlaces p c.month
  | .day => twoPlaces p c.day
  | .weekFromSunday => twoPlaces p (weekFrom (Time.daysFromSunday t.day) t.day)
  | .weekFromMonday => twoPlaces p (weekFrom (Time.daysFromMonday t.day) t.day)
  | .week => twoPlaces p (weekOf t.day).2
  | .daysFromSunday => toString (Time.daysFromSunday t.day)
  | .weekday => toString (Time.daysFromMonday t.day + 1)
  | .dayOfYear => paddedInteger 3 p false (Time.dayOfYear t.day + 1)
  | .hour => twoPlaces p t.hour
  | .hourOfHalfDay => twoPlaces p (Time.hourOfHalfDay t.hour)
  | .minute => twoPlaces p t.minute
  | .second => twoPlaces p t.writtenSecond
  | .nano => paddedInteger 9 p false t.writtenNano
  | .timestamp => paddedInteger 9 p false t.timestamp

/-- The leading digits of the nanoseconds. -/
def leadingNanos (digits nano : Nat) : String := padded digits (nano / Nat.pow 10 (9 - digits))

/-- A textual field of an instant. -/
def TextField.text (f : TextField) (t : Instant) : String :=
  let month := (monthNames[t.civil.month - 1]?).getD ""
  let weekday := (weekdayNames[daysFromMonday t.day]?).getD ""
  match f with
  | .shortMonth => shortened month
  | .longMonth => month
  | .shortWeekday => shortened weekday
  | .longWeekday => weekday
  | .lowerHalfDay => if t.hour < 12 then "am" else "pm"
  | .upperHalfDay => if t.hour < 12 then "AM" else "PM"
  | .fraction => fractionText t.writtenNano
  | .fixedFraction n => "." ++ leadingNanos n t.writtenNano
  | .bareFraction n => leadingNanos n t.writtenNano

/-- The text of one item. -/
def PatternItem.text (t : Instant) : PatternItem → String
  | .literal c => String.ofList [c]
  | .numeric f p => f.text p t
  | .textual f => f.text t

/-- An instant written by a pattern. -/
def Instant.format? (pattern : String) (t : Instant) : Option String :=
  let cs := pattern.toList
  (patternItems cs.length cs).map fun items => String.join (items.map (PatternItem.text t))

end Time
end Hindsight
