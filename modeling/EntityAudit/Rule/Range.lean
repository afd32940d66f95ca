import EntityAudit.Magnitude
import EntityAudit.Rule.Basic

/-!
Rules about ranges: the value lies in a range, or its difference to the value of another property
does. Ends belong to the range. A verdict that compares with the present time records the moment
at which it may change.
-/

namespace EntityAudit

namespace Bound

def at_ (now : Moment) : Bound → Value
  | value v => v
  | .now => .time (TimeValue.ofMoment now)

def text : Bound → String
  | value v => v.text
  | now => "now"

end Bound

def endText {α : Type} (text : α → String) (bound : Option α) : String :=
  (bound.map text).getD "unbounded"

namespace Message

def notComparable (v : Value) : Message :=
  ⟨"range-not-comparable", "The value " ++ v.text ++ " cannot be compared to the range."⟩

def outOfRange (v : Value) (r : Range) : Message :=
  ⟨"range", "The value " ++ v.text ++ " should be between " ++ endText Bound.text r.minimum ++
    " and " ++ endText Bound.text r.maximum ++ "."⟩

def nothingToCompare (p other : PropertyId) : Message :=
  ⟨"diff-within-range-must-exist", "An entity with " ++ p.toString ++
    " should also have a statement for " ++ other.toString ++ "."⟩

def differenceOutOfRange (v : Value) (other : PropertyId) (minimum maximum : String) : Message :=
  ⟨"diff-within-range", "The difference between " ++ v.text ++ " and the value of " ++
    other.toString ++ " should be between " ++ minimum ++ " and " ++ maximum ++ "."⟩

end Message

namespace Range

def isBeyond? (now : Moment) (v : Value) (outside : Ordering) : Option Bound → Option Bool
  | none => some false
  | some bound => (v.order? (bound.at_ now)).map (· == outside)

/-- The time after which a verdict on the value may change: that of the value itself, if it is
still to come and is compared with the present. -/
def turningPoint? (r : Range) (v : Value) (below above : Bool) : Option Moment :=
  let changes := r.minimum.any Bound.isNow && !(below || above) || r.maximum.any Bound.isNow && above
  match v with
  | .time t => if changes then t.moment? else none
  | _ => none

def verdict (r : Range) (now : Moment) (v : Value) : Verdict :=
  match isBeyond? now v .lt r.minimum, isBeyond? now v .gt r.maximum with
  | some below, some above =>
    let verdict := ((Verdict.of (!(below || above)) (.outOfRange v r)).withParameter "minimum"
      [endText Bound.text r.minimum]).withParameter "maximum" [endText Bound.text r.maximum]
    match r.turningPoint? v below above with
    | some m => verdict.withMetadata (.ofFuture m)
    | none => verdict
  | _, _ => .violation (.notComparable v)

end Range

namespace Parameters

def isGiven (c : Constraint) (p : PropertyId) : Bool := c.parameters.contains p

def plainAmount (config : Config) (p : PropertyId) : Option Bound → Read (Option Float)
  | some (.value (.quantity q)) =>
    if q.unit.all (· = config.items.yearUnit) then .ok (some q.amount)
    else .error (.wrongKind p "unitless quantity or quantity in years")
  | _ => .ok none

def difference (config : Config) (c : Constraint) :
    Read (PropertyId × Option Float × Option Float) := do
  let p ← property config c
  let r ← quantityRange config c
  return (p, ← plainAmount config config.parameters.minimumQuantity r.minimum,
    ← plainAmount config config.parameters.maximumQuantity r.maximum)

end Parameters

namespace Rule

def range : Rule where
  support := everywhere
  roles := Role.all
  problems config c :=
    let p := config.parameters
    let quantities := Parameters.isGiven c p.minimumQuantity || Parameters.isGiven c p.maximumQuantity
    let dates := Parameters.isGiven c p.minimumDate || Parameters.isGiven c p.maximumDate
    if quantities && dates then [.rangesOfTwoKinds]
    else if dates then problem (Parameters.dateRange config c)
    else problem (Parameters.quantityRange config c)
  verdict services context c :=
    match context.requireValue with
    | .error v => .ok v
    | .ok v =>
      match v with
      | .quantity _ => do return (← Parameters.quantityRange services.config c).verdict services.now v
      | .time _ => do return (← Parameters.dateRange services.config c).verdict services.now v
      | _ => .ok (context.mismatch "quantity or time" v)

def firstValue? (e : Entity) (p : PropertyId) : Option Value :=
  (e.statements.nonDeprecated.filter (·.property = p)).findSome? (·.mainSnak.value?)

def diffWithinRange : Rule where
  support
    | .statement => .supported
    | _ => .todo
  roles := [.statement]
  problems config c :=
    let first := problem (Parameters.property config c)
    let rest := problem (do
      let _ ← Parameters.quantityRange config c
      Parameters.difference config c)
    first ++ rest.filter (· ∉ first)
  verdict services context c := do
    let (p, minimum, maximum) ← Parameters.difference services.config c
    return .settle do
      let v ← context.requireValue
      if v.kind ≠ "quantity" ∧ v.kind ≠ "time" then
        throw (context.mismatch "quantity or time" v)
      let some other := firstValue? context.entity p
        | throw (.violation (.nothingToCompare c.property p))
      if other.kind ≠ v.kind then
        throw (.violation (.valueTypeMismatch p v.kind other.kind))
      let some difference := v.difference? other | throw (.violation (.notComparable v))
      let inside := minimum.all (· ≤ difference) && maximum.all (difference ≤ ·)
      let low := endText Value.numberText minimum
      let high := endText Value.numberText maximum
      return (((Verdict.of inside (.differenceOutOfRange v p low high)).withParameter "property"
        [p.toString]).withParameter "minimum" [low]).withParameter "maximum" [high]

end Rule

end EntityAudit
