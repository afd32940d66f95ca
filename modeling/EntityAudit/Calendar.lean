/-!
Days of the proleptic Gregorian calendar and times of day. Years are counted astronomically:
year 0 comes before year 1.
-/

namespace EntityAudit

namespace Calendar

def isLeap (year : Int) : Bool := year % 4 == 0 && (year % 100 != 0 || year % 400 == 0)

def monthLengths (year : Int) : List Nat :=
  [31, if isLeap year then 29 else 28, 31, 30, 31, 30, 31, 31, 30, 31, 30, 31]

def daysBeforeYear (year : Int) : Int :=
  let y := year - 1
  365 * y + y / 4 - y / 100 + y / 400

def daysBeforeMonth (year : Int) (month : Nat) : Nat :=
  ((monthLengths year).take (month - 1)).foldl (· + ·) 0

def epochDay : Int := 719162

def minYear : Int := -262143
def maxYear : Int := 262142

end Calendar

open Calendar

structure Date where
  year : Int
  month : Nat
  day : Nat
  deriving DecidableEq, Repr

namespace Date

def isValid (d : Date) : Bool :=
  minYear ≤ d.year && d.year ≤ maxYear && 1 ≤ d.month && d.month ≤ 12 && 1 ≤ d.day &&
    d.day ≤ (monthLengths d.year).getD (d.month - 1) 0

def dayNumber (d : Date) : Int :=
  daysBeforeYear d.year + daysBeforeMonth d.year d.month + ((d.day : Int) - 1) - epochDay

/-- The year of a day counted from the first day of year 1: an estimate, corrected by at most
one year. -/
def yearOfDay (n : Int) : Int :=
  let y := n * 400 / 146097 + 1
  if n < daysBeforeYear y then y - 1
  else if daysBeforeYear (y + 1) ≤ n then y + 1
  else y

def monthOfDay (month : Nat) : List Nat → Nat → Nat × Nat
  | [], n => (month, n + 1)
  | length :: rest, n => if n < length then (month, n + 1) else monthOfDay (month + 1) rest (n - length)

def ofDayNumber (n : Int) : Date :=
  let day := n + epochDay
  let year := yearOfDay day
  let (month, dayOfMonth) := monthOfDay 1 (monthLengths year) (day - daysBeforeYear year).toNat
  ⟨year, month, dayOfMonth⟩

end Date

structure Clock where
  hour : Nat
  minute : Nat
  second : Nat
  deriving DecidableEq, Repr

def Clock.seconds (c : Clock) : Nat := 3600 * c.hour + 60 * c.minute + c.second

def Clock.ofSeconds (n : Nat) : Clock := ⟨n / 3600, n / 60 % 60, n % 60⟩

end EntityAudit
