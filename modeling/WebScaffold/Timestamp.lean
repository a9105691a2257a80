/-!
# Timestamps

An instant is a number of seconds since the start of the year 1970 in universal time, negative for
the time before. It is written with its date in the Gregorian calendar, which goes on unchanged in
both directions, and with its time of the day.
-/

namespace WebScaffold

namespace Calendar

def isLeapYear (year : Nat) : Bool :=
  year % 4 == 0 && (year % 100 != 0 || year % 400 == 0)

def yearLength (year : Nat) : Nat :=
  if isLeapYear year then 366 else 365

def monthLength (year month : Nat) : Nat :=
  match month with
  | 2 => if isLeapYear year then 29 else 28
  | 4 | 6 | 9 | 11 => 30
  | _ => 31

/-- The year of a day and how many days of that year are over, for the day so many days behind the
start of the given year. Each year takes a unit of `fuel`. -/
def findYear : (fuel year passed : Nat) → Nat × Nat
  | 0, year, passed => (year, passed)
  | fuel + 1, year, passed =>
    if passed < yearLength year then (year, passed)
    else findYear fuel (year + 1) (passed - yearLength year)

/-- The month of a day and the number of the day in it, for the day so many days behind the start of
the first month given. -/
def findMonth (year : Nat) : (months : List Nat) → (passed : Nat) → Nat × Nat
  | [], passed => (12, passed + 1)
  | month :: months, passed =>
    if passed < monthLength year month then (month, passed + 1)
    else findMonth year months (passed - monthLength year month)

/-- The years after which the calendar begins anew. -/
def cycleYears : Nat := 400

/-- The days of these years. -/
def cycleDays : Nat := 146097

/-- The days from the start of the year 0 to that of the year 1970. -/
def daysBeforeCount : Nat := 719528

structure Date where
  year : Int
  month : Nat
  day : Nat
deriving DecidableEq, Repr

/-- The date of the day so many days after the first of January 1970. -/
def dateOf (days : Int) : Date :=
  let passed := days + daysBeforeCount
  let (year, passedInYear) :=
    findYear cycleYears 0 (passed % cycleDays).toNat
  let (month, day) := findMonth year (List.range' 1 12) passedInYear
  ⟨cycleYears * (passed / cycleDays) + year, month, day⟩

end Calendar

namespace Instant

open Calendar

/-- A number with zeros in front of it up to a width. -/
def padded (width number : Nat) : List Char :=
  (Nat.toDigits 10 number).leftpad width '0'

/-- A year; one without exactly four digits has a sign. -/
def yearChars (year : Int) : List Char :=
  if 0 ≤ year ∧ year ≤ 9999 then padded 4 year.toNat
  else (if year < 0 then '-' else '+') :: padded 4 year.natAbs

def dateChars (date : Date) : List Char :=
  yearChars date.year ++ '-' :: padded 2 date.month ++ '-' :: padded 2 date.day

/-- The time after so many seconds of a day. -/
def timeChars (second : Nat) : List Char :=
  padded 2 (second / 3600) ++ ':' :: padded 2 (second / 60 % 60) ++ ':' :: padded 2 (second % 60)

def secondsPerDay : Nat := 86400

/-- An instant with milliseconds, in universal time. -/
def text (instant : Int) : String :=
  String.ofList <|
    dateChars (dateOf (instant / secondsPerDay)) ++
      'T' :: timeChars (instant % secondsPerDay).toNat ++ ['.', '0', '0', '0', 'Z']

end Instant

end WebScaffold
