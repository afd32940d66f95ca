import EntityAudit.Text.Integer

namespace EntityAudit.Decimal

def clampExponent (digits : Nat) (exponent : Int) : Int :=
  let size : Int := digits.log2
  max (-(2000 + size)) (min 2000 exponent)

def nearest (digits : Nat) (exponent : Int) : Float :=
  if digits = 0 then 0.0
  else
    let e := clampExponent digits exponent
    if 0 ≤ e then Float.ofScientific (digits * Nat.pow 10 e.toNat) false 0
    else Float.ofScientific digits true e.natAbs

def lower (c : Char) : Char := if 'A' ≤ c ∧ c ≤ 'Z' then Char.ofNat (c.toNat + 32) else c

def exponent? : List Char → Option Int
  | [] => some 0
  | 'e' :: '-' :: cs => (Text.digits? cs).map fun n => -(min n 1000000 : Nat)
  | 'e' :: '+' :: cs => (Text.digits? cs).map fun n => (min n 1000000 : Nat)
  | 'e' :: cs => (Text.digits? cs).map fun n => (min n 1000000 : Nat)
  | _ => none

def magnitude? (cs : List Char) : Option Float :=
  let whole := cs.takeWhile Text.isDigit
  let (fraction, rest) := match cs.dropWhile Text.isDigit with
    | '.' :: r => (r.takeWhile Text.isDigit, r.dropWhile Text.isDigit)
    | r => ([], r)
  match Text.digits? (whole ++ fraction), exponent? rest with
  | some n, some e => some (nearest n (e - fraction.length))
  | _, _ => none

def float? (s : String) : Option Float :=
  let cs := s.toList.map lower
  let (negative, cs) := match cs with
    | '-' :: r => (true, r)
    | '+' :: r => (false, r)
    | r => (false, r)
  let value := match String.ofList cs with
    | "inf" | "infinity" => some (1.0 / 0.0)
    | "nan" => some (0.0 / 0.0)
    | _ => magnitude? cs
  value.map fun x => if negative then -x else x

end EntityAudit.Decimal
