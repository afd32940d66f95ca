import EntityAudit.Text.Hexadecimal
import EntityAudit.Text.Split

/-!
Sets of code points as lists of spans. A table is written as text: hexadecimal code points
`41`, spans `41-5A`, and spans of every second code point `100-12E/2`.
-/

namespace EntityAudit.Unicode

structure Span where
  low : Nat
  high : Nat
  step : Nat
  deriving DecidableEq, Inhabited

namespace Span

def contains (s : Span) (n : Nat) : Bool :=
  s.low ≤ n && n ≤ s.high && (n - s.low) % s.step == 0

def read? (cs : List Char) : Option Span := do
  let (ends, step) := (Text.splitOnce? '/' cs).getD (cs, ['1'])
  let (low, high) := (Text.splitOnce? '-' ends).getD (ends, ends)
  return ⟨← Text.hex? low, ← Text.hex? high, ← Text.hex? step⟩

def unwrap (s : String) : List Char :=
  s.toList.map fun c => if c = '\n' then ' ' else c

def table (s : String) : List Span :=
  (Text.splitAll ' ' (unwrap s)).filterMap read?

end Span

def within (table : List Span) (c : Char) : Bool :=
  table.any (·.contains c.toNat)

end EntityAudit.Unicode
