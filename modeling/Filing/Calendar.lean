/-!
# Dates and instants

A date of the proleptic Gregorian calendar is known by its day number, which counts from 1 January 1970.
An instant is a day, a second of the day and a fraction in nanoseconds, all in universal time; the
fraction of a leap second is a second or more, so that instants compare as triples.
-/

namespace Filing

namespace Calendar

def isLeapYear (year : Int) : Bool :=
  year % 4 = 0 && (year % 100 ≠ 0 || year % 400 = 0)

def daysInMonth (year : Int) (month : Nat) : Nat :=
  if month = 2 then if isLeapYear year then 29 else 28
  else if month = 4 || month = 6 || month = 9 || month = 11 then 30 else 31

def firstYear : Int := -262143
def lastYear : Int := 262142

/-- The day number of a date. Years are counted from March, so that the leap day is the last of its
year. -/
def dayNumber (year : Int) (month day : Nat) : Int :=
  let y := if month ≤ 2 then year - 1 else year
  let m : Nat := if month ≤ 2 then month + 9 else month - 3
  365 * y + y / 4 - y / 100 + y / 400 + ((153 * m + 2) / 5 : Nat) + day - 719469

def civil (n : Int) : Int × Nat × Nat :=
  let z := n + 719468
  let era := z / 146097
  let dayOfEra := (z % 146097).toNat
  let yearOfEra :=
    (dayOfEra - dayOfEra / 1460 + dayOfEra / 36524 - dayOfEra / 146096) / 365
  let dayOfYear := dayOfEra - (365 * yearOfEra + yearOfEra / 4 - yearOfEra / 100)
  let m := (5 * dayOfYear + 2) / 153
  let day := dayOfYear - (153 * m + 2) / 5 + 1
  let month := if m < 10 then m + 3 else m - 9
  let year : Int := yearOfEra + era * 400
  (if month ≤ 2 then year + 1 else year, month, day)

def date? (year : Int) (month day : Nat) : Option Int :=
  if firstYear ≤ year && year ≤ lastYear && 1 ≤ month && month ≤ 12 && 1 ≤ day
      && day ≤ daysInMonth year month then
    some (dayNumber year month day)
  else none

end Calendar

structure Instant where
  day : Int
  second : Nat
  nano : Nat
deriving DecidableEq, Repr

namespace Instant

def midnight (day : Int) : Instant := ⟨day, 0, 0⟩

/-- The instant of a local time of day that is the given number of seconds ahead of universal time. The
second may be 60. -/
def ofLocal? (day : Int) (hour minute second nano : Nat) (ahead : Int) : Option Instant :=
  let leap := second = 60
  let total : Int := hour * 3600 + minute * 60 + (if leap then 59 else second : Nat) - ahead
  let utcDay := day + total / 86400
  if hour ≤ 23 && minute ≤ 59 && second ≤ 60
      && Calendar.dayNumber Calendar.firstYear 1 1 ≤ utcDay
      && utcDay ≤ Calendar.dayNumber Calendar.lastYear 12 31 then
    some ⟨utcDay, (total % 86400).toNat, nano + if leap then 1000000000 else 0⟩
  else none

def before (a b : Instant) : Bool :=
  a.day < b.day || (a.day == b.day && (a.second < b.second
    || (a.second == b.second && a.nano < b.nano)))

end Instant

end Filing
