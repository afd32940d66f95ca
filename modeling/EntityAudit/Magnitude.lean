import EntityAudit.Value

namespace EntityAudit

inductive Magnitude where
  | amount (x : Float)
  | instant (seconds : Int)

namespace Magnitude

def toFloat : Magnitude → Float
  | amount x => x
  | instant seconds => Float.ofInt seconds

def order? : Magnitude → Magnitude → Option Ordering
  | amount x, amount y =>
    if x < y then some .lt else if y < x then some .gt else if x == y then some .eq else none
  | instant a, instant b => some (compare a b)
  | _, _ => none

def difference? : Magnitude → Magnitude → Option Float
  | amount x, amount y => some (x - y)
  | instant a, instant b =>
    some ((Float.ofInt a - Float.ofInt b) / Float.ofInt TimeValue.secondsPerYear)
  | _, _ => none

end Magnitude

namespace Value

def magnitude? : Value → Option Magnitude
  | quantity q => some (.amount q.amount)
  | time t => match t.timestamp with
    | .ok seconds => some (.instant seconds)
    | .error _ => none
  | _ => none

def order? (a b : Value) : Option Ordering := do
  Magnitude.order? (← a.magnitude?) (← b.magnitude?)

def difference? (a b : Value) : Option Float := do
  Magnitude.difference? (← a.magnitude?) (← b.magnitude?)

end Value

end EntityAudit
