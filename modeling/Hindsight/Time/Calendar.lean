/-!
# The proleptic Gregorian calendar

Days are numbered from the first of January of year 1, which is day 0 and a Monday. Years reach
back past year 1 without a gap: year 0 comes before year 1. The calendar is read off the count of
days before a year, so that a day number and its year, month and day of the month determine each
other.
-/

namespace Hindsight
namespace Time

/-- A year, a month from 1 and a day of the month from 1. -/
structure Civil where
  year : Int
  month : Nat
  day : Nat
deriving DecidableEq, Repr

/-- Every fourth year is a leap year, of the full centuries only every fourth. -/
def isLeap (y : Int) : Bool := y % 4 == 0 && (y % 100 != 0 || y % 400 == 0)

/-- The number of days from day 0 to the first day of a year. -/
def daysBeforeYear (y : Int) : Int :=
  let p := y - 1
  365 * p + p / 4 - p / 100 + p / 400

/-- The lengths of the months of a year. -/
def monthLengths (leap : Bool) : List Nat :=
  [31, if leap then 29 else 28, 31, 30, 31, 30, 31, 31, 30, 31, 30, 31]

/-- The number of days of a year before a month. -/
def daysBeforeMonth (leap : Bool) (month : Nat) : Nat :=
  ((monthLengths leap).take (month - 1)).foldl (· + ·) 0

/-- The length of a month, zero for a month that does not exist. -/
def monthLength (leap : Bool) (month : Nat) : Nat :=
  if month = 0 then 0 else ((monthLengths leap)[month - 1]?).getD 0

/-- Whether a year has that month and the month that day. -/
def Civil.isValid (c : Civil) : Bool :=
  decide (1 ≤ c.day) && decide (c.day ≤ monthLength (isLeap c.year) c.month)

/-- The number of a valid day. -/
def Civil.dayNumber (c : Civil) : Int :=
  daysBeforeYear c.year + (daysBeforeMonth (isLeap c.year) c.month + (c.day - 1) : Nat)

/-- The year of a day. A year is 146097 / 400 days long on average; the year that this gives is off
by at most one. -/
def yearOf (n : Int) : Int :=
  let guess := 400 * n / 146097 + 1
  if n < daysBeforeYear guess then guess - 1
  else if daysBeforeYear (guess + 1) ≤ n then guess + 1
  else guess

/-- The number of days of its year before a day. -/
def dayOfYear (n : Int) : Nat := (n - daysBeforeYear (yearOf n)).toNat

/-- The month, counted on from `month`, and the day of the month of the day that `n` days precede,
where `lengths` are the lengths of the months from `month` on. -/
def splitMonths (month n : Nat) : List Nat → Nat × Nat
  | [] => (month, n + 1)
  | len :: rest => if n < len then (month, n + 1) else splitMonths (month + 1) (n - len) rest

/-- The year, month and day of the month of a day. -/
def civilOf (n : Int) : Civil :=
  let y := yearOf n
  let (m, d) := splitMonths 1 (dayOfYear n) (monthLengths (isLeap y))
  ⟨y, m, d⟩

/-- The days since the last Monday. -/
def daysFromMonday (n : Int) : Nat := (n % 7).toNat

/-- The days since the last Sunday. -/
def daysFromSunday (n : Int) : Nat := ((n + 1) % 7).toNat

/-- A week belongs to the year of its Thursday, and the weeks of that year are counted from 1. -/
def weekOf (n : Int) : Int × Nat :=
  let thursday := n - n % 7 + 3
  (yearOf thursday, dayOfYear thursday / 7 + 1)

/-- The number of the week of the year, where the first week starts on the first day of the kind
that `sinceStart` counts from. -/
def weekFrom (sinceStart : Nat) (n : Int) : Nat := (dayOfYear n + 7 - sinceStart) / 7

end Time
end Hindsight
