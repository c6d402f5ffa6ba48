import Hindsight.Time.Calendar

/-!
# Instants

An instant is a day, a second of the day and nanoseconds, without a time zone. Nanoseconds of
10⁹ and more stand for the leap second after the last second of a minute. Instants are ordered by
day, second and nanoseconds, which `key` packs into one integer.

Lengths of time are counted in milliseconds. A leap second is passed over without being counted:
adding to an instant inside it either stays inside or continues from the second around it.
-/

namespace Hindsight
namespace Time

/-- The first day of the supported range. -/
def minDay : Int := Civil.dayNumber ⟨-262143, 1, 1⟩

/-- The last day of the supported range. -/
def maxDay : Int := Civil.dayNumber ⟨262142, 12, 31⟩

/-- Days, seconds and nanoseconds that make an instant. -/
def InRange (day : Int) (second nano : Nat) : Prop :=
  (minDay ≤ day ∧ day ≤ maxDay) ∧ second < 86400 ∧ nano < 2000000000 ∧
    (1000000000 ≤ nano → second % 60 = 59)

instance (day : Int) (second nano : Nat) : Decidable (InRange day second nano) := by
  unfold InRange; infer_instance

/-- A point on the time line. -/
structure Instant where
  day : Int
  second : Nat
  nano : Nat
  inRange : InRange day second nano
deriving DecidableEq

namespace Instant

/-- The instant of these parts, if they make one. -/
def ofParts? (day : Int) (second nano : Nat) : Option Instant :=
  if h : InRange day second nano then some ⟨day, second, nano, h⟩ else none

/-- Parts are read back from the instant they make. -/
theorem ofParts?_eq_some {day : Int} {second nano : Nat} {t : Instant}
    (h : ofParts? day second nano = some t) :
    t.day = day ∧ t.second = second ∧ t.nano = nano := by
  unfold ofParts? at h
  split at h
  · obtain rfl := Option.some.inj h; exact ⟨rfl, rfl, rfl⟩
  · simp at h

/-- Midnight of the first day of year 1. -/
def zero : Instant := ⟨0, 0, 0, by decide⟩

instance : Inhabited Instant := ⟨zero⟩

/-- Day, second and nanoseconds in one integer; instants compare as their keys do. -/
def key (t : Instant) : Int := (t.day * 86400 + t.second) * 2000000000 + t.nano

/-- An instant is told by its key: day, second and nanosecond can be read off it. -/
theorem key_injective {s t : Instant} (h : s.key = t.key) : s = t := by
  obtain ⟨d, x, n, hr⟩ := s
  obtain ⟨d', x', n', hr'⟩ := t
  simp only [key] at h
  have := hr.2
  have := hr'.2
  obtain rfl : n = n' := by omega
  obtain rfl : d = d' := by omega
  obtain rfl : x = x' := by omega
  rfl

instance : LT Instant := ⟨fun s t => s.key < t.key⟩

instance : LE Instant := ⟨fun s t => s.key ≤ t.key⟩

instance (s t : Instant) : Decidable (s < t) := inferInstanceAs (Decidable (s.key < t.key))

instance (s t : Instant) : Decidable (s ≤ t) := inferInstanceAs (Decidable (s.key ≤ t.key))

instance : Ord Instant := ⟨fun s t => compare s.key t.key⟩

/-- What is before an earlier instant is before the later one. -/
theorem lt_trans {r s t : Instant} (h : r < s) (h' : s < t) : r < t := Int.lt_trans h h'

/-- An instant is before another one that is not at most it. -/
theorem lt_of_not_le {s t : Instant} (h : ¬t ≤ s) : s < t := Int.not_le.1 h

/-- An instant that is at most another is before it or the same. -/
theorem lt_or_eq_of_le {s t : Instant} (h : s ≤ t) : s < t ∨ s = t :=
  (Int.lt_or_eq_of_le h).imp_right key_injective

/-- The instant `ms` milliseconds later, earlier if negative, unless it is out of range. -/
def addMillis (t : Instant) (ms : Int) : Option Instant :=
  let seconds := ms.tdiv 1000
  let nanos := ms.tmod 1000 * 1000000
  if 1000000000 ≤ t.nano ∧ seconds = 0 ∧ (nanos ≤ 0 ∨ (t.nano : Int) + nanos < 2000000000) then
    ofParts? t.day t.second ((t.nano : Int) + nanos).toNat
  else
    let leap := 1000000000 ≤ t.nano
    let second := (t.second : Int) + seconds + (if leap ∧ seconds < 0 then 1 else 0)
    let nano := (t.nano : Int) - (if leap then 1000000000 else 0) + nanos
    let second := second + nano / 1000000000
    ofParts? (t.day + second / 86400) (second % 86400).toNat (nano % 1000000000).toNat

/-- **A positive number of milliseconds leads to a later instant.** -/
theorem lt_of_addMillis {t u : Instant} {ms : Int} (positive : 0 < ms)
    (h : t.addMillis ms = some u) : t < u := by
  have inRange := t.inRange.2
  have seconds := Int.tdiv_eq_ediv_of_nonneg (b := 1000) (Int.le_of_lt positive)
  have rest := Int.tmod_eq_emod_of_nonneg (b := 1000) (Int.le_of_lt positive)
  have forward : ¬ms / 1000 < 0 := by omega
  show t.key < u.key
  by_cases leap : 1000000000 ≤ t.nano
  · simp only [addMillis, seconds, rest, forward, leap, true_and, and_false, if_true, if_false] at h
    split at h <;>
    · obtain ⟨day, second, nano⟩ := ofParts?_eq_some h
      simp only [key, day, second, nano]
      omega
  · simp only [addMillis, seconds, rest, leap, false_and, if_false] at h
    obtain ⟨day, second, nano⟩ := ofParts?_eq_some h
    simp only [key, day, second, nano]
    omega

/-- The milliseconds from `s` to `t`, parts of a millisecond dropped. -/
def millisSince (t s : Instant) : Int :=
  let seconds := (t.second : Int) - s.second +
    (if s.second < t.second ∧ 1000000000 ≤ s.nano then 1
     else if t.second < s.second ∧ 1000000000 ≤ t.nano then -1 else 0)
  let nanos := ((t.day - s.day) * 86400 + seconds) * 1000000000 + ((t.nano : Int) - s.nano)
  nanos.tdiv 1000000

/-- The year, month and day of the month. -/
def civil (t : Instant) : Civil := civilOf t.day

/-- The hour of the day. -/
def hour (t : Instant) : Nat := t.second / 3600

/-- The minute of the hour. -/
def minute (t : Instant) : Nat := t.second / 60 % 60

/-- The second of the minute; a leap second counts as the second before it. -/
def secondOfMinute (t : Instant) : Nat := t.second % 60

/-- The second of the minute as it is written: 60 for a leap second. -/
def writtenSecond (t : Instant) : Nat := t.second % 60 + t.nano / 1000000000

/-- The nanoseconds as they are written, without those of a leap second. -/
def writtenNano (t : Instant) : Nat := t.nano % 1000000000

/-- Midnight of a day given by year, month and day, if it exists and is in range. -/
def midnight? (c : Civil) : Option Instant :=
  if c.isValid then ofParts? c.dayNumber 0 0 else none

end Instant

end Time
end Hindsight
