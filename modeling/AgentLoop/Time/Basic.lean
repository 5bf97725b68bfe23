/-!
# Instants

- `Instant`: a moment in UTC to the nanosecond; a leap second runs on after the second before it;
- `Instant.since`: the span between two moments, in nanoseconds;
- `Date.ofDays` and `Date.toDays`: days as years, months and days of the Gregorian calendar, and back.
-/

namespace AgentLoop

/-- A moment: whole seconds from the beginning of 1970 and nanoseconds; during a leap second the nanoseconds go on
beyond `10^9`. -/
structure Instant where
  seconds : Int
  nanos : Nat
  deriving DecidableEq, Repr, Inhabited

namespace Instant

/-- Is the first moment not after the second? -/
def le (a b : Instant) : Bool := a.seconds < b.seconds || (a.seconds == b.seconds && a.nanos ≤ b.nanos)

instance : LE Instant := ⟨fun a b => le a b = true⟩

instance (a b : Instant) : Decidable (a ≤ b) := inferInstanceAs (Decidable (le a b = true))

/-- The nanoseconds of a second. -/
def second : Nat := 1000000000

/-- The second of its day. -/
def secondOfDay (a : Instant) : Int := a.seconds % 86400

/-- The nanoseconds from `b` to `a`; a leap second counts between moments of one day. -/
def since (a b : Instant) : Int :=
  let leap : Int :=
    if b.secondOfDay < a.secondOfDay ∧ second ≤ b.nanos then 1
    else if a.secondOfDay < b.secondOfDay ∧ second ≤ a.nanos then -1
    else 0
  (a.seconds - b.seconds + leap) * second + ((a.nanos : Int) - b.nanos)

/-- The moment so many nanoseconds after the beginning of a second. -/
def ofNanos (seconds : Int) (nanos : Nat) : Instant := ⟨seconds + nanos / second, nanos % second⟩

end Instant

/-- A date of the Gregorian calendar. -/
structure Date where
  year : Int
  month : Nat
  day : Nat
  deriving DecidableEq, Repr

namespace Date

/-- Is it a leap year? -/
def isLeap (year : Int) : Bool := year % 4 == 0 && (year % 100 != 0 || year % 400 == 0)

/-- The days of a month. -/
def monthLength (year : Int) (month : Nat) : Nat :=
  if month = 2 then (if isLeap year then 29 else 28)
  else if month = 4 ∨ month = 6 ∨ month = 9 ∨ month = 11 then 30
  else 31

/-- Is there such a date? -/
def isValid (d : Date) : Bool := 1 ≤ d.month && d.month ≤ 12 && 1 ≤ d.day && d.day ≤ monthLength d.year d.month

/-- Is the year one of those that a date can have? -/
def isInRange (d : Date) : Bool := -262143 ≤ d.year && d.year ≤ 262142

/-- The days from the beginning of 1970. Years are counted from March, so that a leap day ends its year. -/
def toDays (d : Date) : Int :=
  let y := if d.month ≤ 2 then d.year - 1 else d.year
  let m := if d.month ≤ 2 then d.month + 9 else d.month - 3
  let era := y / 400
  let yearOfEra := y % 400
  let dayOfYear : Int := (153 * m + 2) / 5 + d.day - 1
  era * 146097 + yearOfEra * 365 + yearOfEra / 4 - yearOfEra / 100 + dayOfYear - 719468

/-- The date so many days from the beginning of 1970. -/
def ofDays (days : Int) : Date :=
  let z := days + 719468
  let era := z / 146097
  let dayOfEra := z % 146097
  let yearOfEra := (dayOfEra - dayOfEra / 1460 + dayOfEra / 36524 - dayOfEra / 146096) / 365
  let dayOfYear := dayOfEra - (365 * yearOfEra + yearOfEra / 4 - yearOfEra / 100)
  let m := (5 * dayOfYear + 2) / 153
  let day := dayOfYear - (153 * m + 2) / 5 + 1
  let month := if m < 10 then m + 3 else m - 9
  let year := yearOfEra + era * 400 + (if month ≤ 2 then 1 else 0)
  ⟨year, month.toNat, day.toNat⟩

end Date

end AgentLoop
