import EntityAudit.Calendar
import EntityAudit.Decimal.Reading
import EntityAudit.Json.Basic
import EntityAudit.Text.Hexadecimal

namespace EntityAudit.Toml

def moreDigits (isDigit : Char → Bool) : List Char → List Char × List Char
  | '_' :: c :: r =>
    if isDigit c then
      let (digits, rest) := moreDigits isDigit r
      (c :: digits, rest)
    else ([], '_' :: c :: r)
  | c :: r =>
    if isDigit c then
      let (digits, rest) := moreDigits isDigit r
      (c :: digits, rest)
    else ([], c :: r)
  | [] => ([], [])

def digits? (isDigit : Char → Bool) : List Char → Option (List Char × List Char)
  | c :: r =>
    if isDigit c then
      let (digits, rest) := moreDigits isDigit r
      some (c :: digits, rest)
    else none
  | [] => none

def digitBelow (base : Nat) (c : Char) : Bool := (Text.hexDigit? c).any (· < base)

def ofDigits (base : Nat) (digits : List Char) : Nat :=
  digits.foldl (fun n c => base * n + (Text.hexDigit? c).getD 0) 0

def integerIn? (n : Int) : Option Json :=
  if -9223372036854775808 ≤ n ∧ n < 9223372036854775808 then some (.integer n) else none

def sign : List Char → List Char × List Char
  | '+' :: r => (['+'], r)
  | '-' :: r => (['-'], r)
  | cs => ([], cs)

def whole? : List Char → Option (List Char × List Char)
  | '0' :: r => some (['0'], r)
  | cs => digits? Text.isDigit cs

def based? (base : Nat) (cs : List Char) : Option (Json × List Char) := do
  let (digits, rest) ← digits? (digitBelow base) cs
  return (← integerIn? (ofDigits base digits), rest)

def integer? : List Char → Option (Json × List Char)
  | '0' :: 'x' :: r => based? 16 r
  | '0' :: 'o' :: r => based? 8 r
  | '0' :: 'b' :: r => based? 2 r
  | cs => do
    let (s, r) := sign cs
    let (digits, rest) ← whole? r
    let n : Int := ofDigits 10 digits
    return (← integerIn? (if s = ['-'] then -n else n), rest)

def power? : List Char → Option (List Char × List Char)
  | c :: r =>
    if c = 'e' ∨ c = 'E' then do
      let (s, r) := sign r
      let (digits, rest) ← digits? Text.isDigit r
      return ('e' :: s ++ digits, rest)
    else none
  | [] => none

def fractionOrPower? : List Char → Option (List Char × List Char)
  | '.' :: r => do
    let (digits, rest) ← digits? Text.isDigit r
    let (power, rest) := (power? rest).getD ([], rest)
    return ('.' :: digits ++ power, rest)
  | cs => power? cs

def decimal? (cs : List Char) : Option (Json × List Char) := do
  let (s, r) := sign cs
  let (digits, r) ← whole? r
  let (tail, rest) ← fractionOrPower? r
  let x ← Decimal.float? (String.ofList (s ++ digits ++ tail))
  if x == 1.0 / 0.0 then none else return (.float x, rest)

def special? (cs : List Char) : Option (Json × List Char) := do
  let (s, r) := sign cs
  let word := r.take 3
  if word = ['i', 'n', 'f'] ∨ word = ['n', 'a', 'n'] then
    return (.float (← Decimal.float? (String.ofList (s ++ word))), r.drop 3)
  else none

def float? (cs : List Char) : Option (Json × List Char) := decimal? cs <|> special? cs

def field? (width low high : Nat) (cs : List Char) : Option (Nat × List Char) := do
  let digits := cs.take width
  let n ← if digits.length = width then Text.digits? digits else none
  if low ≤ n ∧ n ≤ high then return (n, cs.drop width) else none

def after? (c : Char) : List Char → Option (List Char)
  | d :: r => if d = c then some r else none
  | [] => none

def date? (cs : List Char) : Option (List Char) := do
  let (year, r) ← field? 4 0 9999 cs
  let (month, r) ← field? 2 1 12 (← after? '-' r)
  let (day, r) ← field? 2 1 31 (← after? '-' r)
  if Date.isValid ⟨year, month, day⟩ then return r else none

def clock? (cs : List Char) : Option (List Char) := do
  let (_, r) ← field? 2 0 23 cs
  let (_, r) ← field? 2 0 59 (← after? ':' r)
  let (_, r) ← field? 2 0 60 (← after? ':' r)
  match r with
  | '.' :: d :: s => return if Text.isDigit d then s.dropWhile Text.isDigit else r
  | _ => return r

def offset? : List Char → Option (List Char)
  | [] => none
  | c :: r =>
    if c = 'Z' ∨ c = 'z' then some r
    else if c = '+' ∨ c = '-' then do
      let (_, r) ← field? 2 0 23 r
      let (_, r) ← field? 2 0 59 (← after? ':' r)
      return r
    else none

def clockBehind? : List Char → Option (List Char)
  | [] => none
  | c :: r =>
    if c = 'T' ∨ c = 't' ∨ c = ' ' then (clock? r).map fun r => (offset? r).getD r else none

def moment? (cs : List Char) : Option (Json × List Char) :=
  match date? cs with
  | some r => some (.object [], (clockBehind? r).getD r)
  | none => (clock? cs).map fun r => (.object [], r)

end EntityAudit.Toml
