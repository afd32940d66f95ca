/-!
The fewest decimal digits that identify a binary floating-point number. All arithmetic is exact:
a number is an integer times a power of two, and a decimal is accepted if it lies among the
reals that round to the number.
-/

namespace EntityAudit.Decimal

structure Binary where
  significand : Nat
  exponent : Int
  nearBelow : Bool

def Binary.ofFloat (x : Float) : Binary :=
  let bits := x.toBits.toNat
  let biased : Nat := bits / 0x10000000000000 % 0x800
  let fraction : Nat := bits % 0x10000000000000
  if biased = 0 then ⟨fraction, -1074, false⟩
  else ⟨0x10000000000000 + fraction, (biased : Int) - 1075, fraction = 0 ∧ 1 < biased⟩

structure Digits where
  digits : Nat
  exponent : Int
  deriving DecidableEq, Repr

def compareScaled (a : Nat) (i : Int) (b : Nat) (j : Int) : Ordering :=
  compare (a * Nat.pow 10 i.toNat * Nat.pow 2 (-j).toNat) (b * Nat.pow 2 j.toNat * Nat.pow 10 (-i).toNat)

/-- The decimal lies among the reals that round to the number; the two ends of that interval
belong to it exactly if the significand is even. -/
def Binary.identifiedBy (x : Binary) (d : Digits) : Bool :=
  let low := if x.nearBelow then 4 * x.significand - 1 else 4 * x.significand - 2
  let high := 4 * x.significand + 2
  let closed := x.significand % 2 == 0
  let fromLow := compareScaled d.digits d.exponent low (x.exponent - 2)
  let fromHigh := compareScaled d.digits d.exponent high (x.exponent - 2)
  (fromLow == .gt || closed && fromLow == .eq) && (fromHigh == .lt || closed && fromHigh == .eq)

def Binary.floorOn (x : Binary) (e : Int) : Nat :=
  (x.significand * Nat.pow 2 x.exponent.toNat * Nat.pow 10 (-e).toNat) /
    (Nat.pow 2 (-x.exponent).toNat * Nat.pow 10 e.toNat)

def Binary.onGrid? (x : Binary) (e : Int) : Option Digits :=
  let n := x.floorOn e
  let below : Digits := ⟨n, e⟩
  let above : Digits := ⟨n + 1, e⟩
  match x.identifiedBy below, x.identifiedBy above with
  | true, false => some below
  | false, true => some above
  | false, false => none
  | true, true =>
    match compareScaled (2 * n + 1) e (2 * x.significand) x.exponent with
    | .gt => some below
    | .lt => some above
    | .eq => some (if n % 2 = 0 then below else above)

def Digits.strip (d : Digits) : Digits :=
  if h : 0 < d.digits ∧ d.digits % 10 = 0 then Digits.strip ⟨d.digits / 10, d.exponent + 1⟩ else d
termination_by d.digits
decreasing_by exact Nat.div_lt_self h.1 (by decide)

def Binary.magnitude (x : Binary) : Int :=
  let estimate := (x.exponent + x.significand.log2) * 30103 / 100000 - 1
  ((List.range 5).map fun (i : Nat) => estimate + (i : Int)).find? (fun k =>
    compareScaled 1 k x.significand x.exponent == .gt) |>.getD (estimate + 5)

def Binary.shortest (x : Binary) : Digits :=
  if x.significand = 0 then ⟨0, 0⟩
  else
    let k := x.magnitude
    let found := (List.range 17).findSome? fun (n : Nat) => x.onGrid? (k - (n + 1 : Nat))
    (found.getD ⟨x.significand * Nat.pow 2 x.exponent.toNat * Nat.pow 5 (-x.exponent).toNat,
      min x.exponent 0⟩).strip

end EntityAudit.Decimal
