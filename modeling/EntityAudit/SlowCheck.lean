import EntityAudit.Config
import EntityAudit.Decimal.Shortest

/-!
How conspicuous the duration of a check is: two thresholds from the configuration divide
durations into silent ones, those to mention and those to warn about.
-/

namespace EntityAudit

inductive Slowness where
  | info
  | warning
  deriving DecidableEq

def Slowness.name : Slowness → String
  | info => "info"
  | warning => "warning"

structure SlowCheck where
  info : Nat
  warning : Nat

namespace SlowCheck

/-- A number of seconds in nanoseconds, rounded to the nearest with ties to even. Negative and
undefined numbers count as zero; from 2^64 seconds on there is no duration. -/
def nanoseconds? (seconds : Float) : Option Nat :=
  if !(0 < seconds) then some 0
  else if 18446744073709551616.0 ≤ seconds then none
  else
    let b := Decimal.Binary.ofFloat seconds
    let n := b.significand * Nat.pow 2 b.exponent.toNat * 1000000000
    let unit := Nat.pow 2 (-b.exponent).toNat
    let q := n / unit
    let r := n % unit
    some (if unit < 2 * r ∨ (unit = 2 * r ∧ q % 2 = 1) then q + 1 else q)

def ofConfig? (c : Config) : Option SlowCheck := do
  return ⟨← nanoseconds? c.checkDurationInfoSeconds, ← nanoseconds? c.checkDurationWarningSeconds⟩

def level? (s : SlowCheck) (nanoseconds : Nat) : Option Slowness :=
  if s.warning ≤ nanoseconds then some .warning
  else if s.info ≤ nanoseconds then some .info
  else none

end SlowCheck

end EntityAudit
