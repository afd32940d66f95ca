import EntityAudit.Rule.Basic

namespace EntityAudit

namespace Message

def oneOf (p : PropertyId) (choices : List String) : Message :=
  ⟨"one-of", "The value of " ++ p.toString ++ " should be one of: " ++ list choices ++ "."⟩

def noneOf (p : PropertyId) (choice : String) : Message :=
  ⟨"none-of", "The value of " ++ p.toString ++ " should not be " ++ choice ++ "."⟩

def notInteger (q : Quantity) (p : PropertyId) : Message :=
  ⟨"integer", "The value " ++ (Value.quantity q).text ++ " of " ++ p.toString ++
    " should be an integer."⟩

def hasBounds (p : PropertyId) : Message :=
  ⟨"no-bounds", "Values of " ++ p.toString ++ " should not have bounds."⟩

def unit (p : PropertyId) (allowed : List String) (actual : String) : Message :=
  ⟨"allowed-units", "The unit of " ++ p.toString ++ " should be one of " ++ list allowed ++
    ", not " ++ actual ++ "."⟩

end Message

namespace Context

def requireNoOtherValue (c : Context) : Except Verdict Unit :=
  match c.snak.value? with
  | none => .ok ()
  | some (.entity _) => .ok ()
  | some v => .error (c.mismatch "wikibase-entityid" v)

def requireQuantity (c : Context) : Except Verdict Quantity :=
  match c.snak.value? with
  | some (.quantity q) => .ok q
  | some v => .error (c.mismatch "quantity" v)
  | none => .error .compliance

end Context

namespace Rule

def oneOf : Rule where
  support := everywhere
  roles := Role.all
  problems config c := problem (Parameters.someItems config c)
  verdict services context c := do
    let choices ← Parameters.someItems services.config c
    let names := choices.map (·.toString)
    return .settle do
      context.requireNoOtherValue
      let v := Verdict.of (choices.any (·.describes context.snak)) (.oneOf context.property names)
      return v.withParameter "item" names

def noneOf : Rule where
  support := everywhere
  roles := Role.all
  problems config c := problem (Parameters.someItems config c)
  verdict services context c := do
    let choices ← Parameters.someItems services.config c
    return .settle do
      context.requireNoOtherValue
      let v := match choices.find? (·.describes context.snak) with
        | none => Verdict.compliance
        | some choice => .violation (.noneOf context.property choice.toString)
      return v.withParameter "item" (choices.map (·.toString))

def integer : Rule where
  support := everywhere
  roles := Role.all
  problems _ _ := []
  verdict _ context c := .ok <| .settle do
    let q ← context.requireQuantity
    return .of q.isInteger (.notInteger q c.property)

def noBounds : Rule where
  support := everywhere
  roles := Role.all
  problems _ _ := []
  verdict _ context c := .ok <| .settle do
    let q ← context.requireQuantity
    return .of (!q.hasBounds) (.hasBounds c.property)

def allowedUnits : Rule where
  support := everywhere
  roles := Role.all
  problems config c := problem (Parameters.units config c)
  verdict services context c := do
    let allowed ← Parameters.units services.config c
    let names := allowed.units.map (·.toString) ++ if allowed.unitless then ["no unit"] else []
    return .settle do
      let q ← context.requireQuantity
      let permitted := match q.unit with
        | none => allowed.unitless
        | some unit => allowed.units.contains unit
      let actual := match q.unit with
        | none => "no unit"
        | some unit => unit.toString
      return (Verdict.of permitted (.unit c.property names actual)).withParameter "item" names

end Rule

end EntityAudit
