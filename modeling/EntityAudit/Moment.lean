import EntityAudit.Calendar
import EntityAudit.Text.Integer
import EntityAudit.Text.Blank

namespace EntityAudit

/-- Seconds since 1970 and a fraction in nanoseconds. A leap second has a fraction of one second
or more. -/
structure Moment where
  seconds : Int
  nanos : Nat := 0
  deriving DecidableEq, Repr

namespace Moment

def isBefore (a b : Moment) : Bool :=
  a.seconds < b.seconds || a.seconds == b.seconds && a.nanos < b.nanos

def earlier (a b : Moment) : Moment := if b.isBefore a then b else a

/-- The leap second that one of two moments is in, if it comes between the two times of day: it is
not among the seconds since 1970. -/
def leapBetween (later earlier : Moment) : Int :=
  if earlier.seconds % 86400 < later.seconds % 86400 ∧ 1000000000 ≤ earlier.nanos then 1
  else if later.seconds % 86400 < earlier.seconds % 86400 ∧ 1000000000 ≤ later.nanos then -1
  else 0

def secondsSince (later earlier : Moment) : Nat :=
  (((later.seconds - earlier.seconds + later.leapBetween earlier) * 1000000000 +
    later.nanos - earlier.nanos) / 1000000000).toNat

def ofDateClock (d : Date) (c : Clock) : Moment := ⟨86400 * d.dayNumber + c.seconds, 0⟩

def date (m : Moment) : Date := Date.ofDayNumber (m.seconds / 86400)

def clock (m : Moment) : Clock := Clock.ofSeconds (m.seconds % 86400).toNat

def fractionText (nanos : Nat) : String :=
  if nanos = 0 then ""
  else if nanos % 1000000 = 0 then "." ++ Text.zeroPadded 3 (nanos / 1000000)
  else if nanos % 1000 = 0 then "." ++ Text.zeroPadded 6 (nanos / 1000)
  else "." ++ Text.zeroPadded 9 nanos

def toString (m : Moment) : String :=
  let d := m.date
  let c := m.clock
  let year := if 0 ≤ d.year ∧ d.year ≤ 9999 then Text.zeroPadded 4 d.year.toNat
    else Text.signedPadded 5 d.year
  let leap := m.nanos / 1000000000
  year ++ "-" ++ Text.zeroPadded 2 d.month ++ "-" ++ Text.zeroPadded 2 d.day ++ "T" ++
    Text.zeroPadded 2 c.hour ++ ":" ++ Text.zeroPadded 2 c.minute ++ ":" ++
    Text.zeroPadded 2 (c.second + leap) ++ fractionText (m.nanos % 1000000000) ++ "Z"

def digits? (width : Nat) (cs : List Char) : Option (Nat × List Char) :=
  let ds := (cs.take width).takeWhile Text.isDigit
  (Text.digits? ds).map fun n => (n, cs.drop ds.length)

def year? : List Char → Option (Int × List Char)
  | '-' :: cs => (digits? cs.length cs).map fun (n, r) => (-(n : Int), r)
  | '+' :: cs => (digits? cs.length cs).map fun (n, r) => ((n : Int), r)
  | cs => (digits? 4 cs).map fun (n, r) => ((n : Int), r)

def expect? (c : Char) (cs : List Char) : Option (List Char) :=
  match Text.trimStart cs with
  | a :: r => if a = c then some r else none
  | [] => none

def twoDigits? (cs : List Char) : Option (Nat × List Char) := digits? 2 (Text.trimStart cs)

def fraction? : List Char → Option (Nat × List Char)
  | '.' :: cs =>
    let ds := (cs.takeWhile Text.isDigit).take 9
    (Text.digits? ds).map fun n => (n * Nat.pow 10 (9 - ds.length), cs.dropWhile Text.isDigit)
  | cs => some (0, cs)

def offset? (cs : List Char) : Option (Int × List Char) :=
  match cs with
  | 'Z' :: r => some (0, r)
  | 'z' :: r => some (0, r)
  | u :: t :: c :: r =>
    if Char.toLower u = 'u' ∧ Char.toLower t = 't' ∧ Char.toLower c = 'c' then some (0, r)
    else signed? (u :: t :: c :: r)
  | r => signed? r
where
  signed? : List Char → Option (Int × List Char)
    | s :: a :: b :: r => do
      let sign : Int ← if s = '+' then some 1 else if s = '-' ∨ s.toNat = 0x2212 then some (-1) else none
      let hours ← Text.digits? [a, b]
      match r.dropWhile fun c => c = ':' || Text.isBlank c with
      | c :: d :: r' =>
        let minutes ← (Text.digits? [c, d]).filter (· < 60)
        if hours < 24 then return (sign * ((3600 * hours + 60 * minutes : Nat) : Int), r') else none
      | _ => none
    | _ => none

def ofString? (s : String) : Option Moment := do
  let (year, cs) ← year? (Text.trimStart s.toList)
  let (month, cs) ← twoDigits? (← expect? '-' cs)
  let (day, cs) ← twoDigits? (← expect? '-' cs)
  let cs ← match cs with
    | c :: r => if c = 'T' ∨ c = 't' ∨ c = ' ' then some r else none
    | [] => none
  let (hour, cs) ← twoDigits? cs
  let (minute, cs) ← twoDigits? (← expect? ':' cs)
  let (second, cs) ← twoDigits? (← expect? ':' cs)
  let (nanos, cs) ← fraction? cs
  let (offset, cs) ← offset? (Text.trimStart cs)
  let date : Date := ⟨year, month, day⟩
  if ¬ (Text.trimStart cs).isEmpty ∨ 23 < hour ∨ 59 < minute ∨ 60 < second ∨ ¬ date.isValid then none
  else
    let here := ofDateClock date ⟨hour, minute, min second 59⟩
    let leap := if second = 60 then 1000000000 else 0
    let m : Moment := ⟨here.seconds - offset, nanos + leap⟩
    if Calendar.minYear ≤ m.date.year ∧ m.date.year ≤ Calendar.maxYear then some m else none

end Moment

end EntityAudit
