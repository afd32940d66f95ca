import EntityAudit.Id
import EntityAudit.Moment
import EntityAudit.ReadError
import EntityAudit.Significand
import EntityAudit.Text.Split

/-!
Points in time as written in statements: a signed date and time of day with a precision. Month
and day may be `00` where only the year or the month is known. `TimeValue.timestamp` puts them
on one line of seconds; it is exact for every day that the calendar has.
-/

namespace EntityAudit

structure TimeValue where
  time : String
  precision : UInt8 := 11
  calendarModel : String := "Q1985727"
  deriving DecidableEq

structure TimeParts where
  year : Int
  month : Nat
  day : Nat
  clock : Clock
  deriving DecidableEq

namespace TimeParts

def sign : List Char → Bool × List Char
  | '-' :: cs => (true, cs)
  | '+' :: cs => (false, cs)
  | cs => (false, cs)

def dropFinalZ (cs : List Char) : List Char :=
  match cs.reverse with
  | 'Z' :: r => r.reverse
  | _ => cs

def clockTexts (cs : List Char) : List Char × List Char × List Char :=
  match Text.splitOnce? ':' cs with
  | none => (cs, ['0'], ['0'])
  | some (hour, r) =>
    match Text.splitOnce? ':' r with
    | none => (hour, r, ['0'])
    | some (minute, second) => (hour, minute, second)

def opposite (i : Int) : Int := if i = -9223372036854775808 then i else -i

/-- A month or day of zero counts as the first one, and a leap second as the second before. -/
def ofString? (s : String) : Option TimeParts := do
  let (negative, cs) := sign s.toList
  let (date, clock) :=
    (Text.splitOnce? 'T' (dropFinalZ cs)).getD (dropFinalZ cs, "00:00:00".toList)
  let (rest, day) ← Text.splitLast? '-' date
  let (year, month) ← Text.splitLast? '-' rest
  let (hour, minute, second) := clockTexts clock
  let hour ← Text.natural? UInt32.size hour
  let minute ← Text.natural? UInt32.size minute
  let second ← Text.natural? UInt32.size second
  let year ← Text.integer? (-9223372036854775808) 9223372036854775808 year
  let month ← Text.natural? UInt32.size month
  let day ← Text.natural? UInt32.size day
  if 12 < month ∨ 31 < day ∨ 23 < hour ∨ 59 < minute ∨ 60 < second then none
  else return {
    year := if negative then opposite year else year
    month := max month 1
    day := max day 1
    clock := ⟨hour, minute, min second 59⟩ }

def date (p : TimeParts) : Date := ⟨p.year, p.month, p.day⟩

def moment? (p : TimeParts) : Option Moment :=
  if p.date.isValid then some (Moment.ofDateClock p.date p.clock) else none

end TimeParts

namespace TimeValue

def secondsPerYear : Int := 31556952

/-- The beginning of a year of mean length, with 53 significant binary digits kept after each
step. -/
def approximate (year : Int) : Int :=
  Significand.round 53
    (Significand.round 53 (Significand.round 53 year - 1970) * secondsPerYear)

def timestamp (t : TimeValue) : Except ReadError Int :=
  match TimeParts.ofString? t.time with
  | none => .error (.time t.time)
  | some p => .ok (match p.moment? with
    | some m => m.seconds
    | none => approximate p.year)

def moment? (t : TimeValue) : Option Moment := (TimeParts.ofString? t.time).bind (·.moment?)

def ofMoment (m : Moment) : TimeValue where
  time :=
    let d := m.date
    let c := m.clock
    Text.signedPadded 5 d.year ++ "-" ++ Text.zeroPadded 2 d.month ++ "-" ++
      Text.zeroPadded 2 d.day ++ "T" ++ Text.zeroPadded 2 c.hour ++ ":" ++
      Text.zeroPadded 2 c.minute ++ ":" ++ Text.zeroPadded 2 c.second ++ "Z"
  precision := 14

end TimeValue

end EntityAudit
