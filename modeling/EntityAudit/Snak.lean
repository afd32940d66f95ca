import EntityAudit.Digest.Sha256
import EntityAudit.Value

namespace EntityAudit

inductive Snak where
  | value (property : PropertyId) (value : Value)
  | someValue (property : PropertyId)
  | noValue (property : PropertyId)
  deriving BEq

namespace Snak

def property : Snak → PropertyId
  | value p _ => p
  | someValue p => p
  | noValue p => p

def state : Snak → String
  | value _ _ => "value"
  | someValue _ => "somevalue"
  | noValue _ => "novalue"

def value? : Snak → Option Value
  | value _ v => some v
  | _ => none

def entity? (s : Snak) : Option EntityId := s.value?.bind (·.entity?)

def text (s : Snak) : String :=
  match s.value? with
  | some v => v.text
  | none => s.state

def toJson (s : Snak) : Json :=
  .record [
    ("snaktype", some (.text s.state)),
    ("property", some (.text s.property.toString)),
    ("datavalue", s.value?.map (·.toJson))]

def ofJson? (j : Json) : Option Snak := do
  let property? := Json.parsed? PropertyId.ofString?
  let (state, j) ← j.tagged? "snaktype"
  match state with
  | "value" =>
    let r ← j.record? ["property", "datavalue"]
    return value (← r.required? "property" property?) (← r.required? "datavalue" Value.ofJson?)
  | "somevalue" => return someValue (← (← j.record? ["property"]).required? "property" property?)
  | "novalue" => return noValue (← (← j.record? ["property"]).required? "property" property?)
  | _ => none

def hash (s : Snak) : String := Sha256.ofString s.toJson.compact

end Snak

inductive ItemChoice where
  | item (id : ItemId)
  | someValue
  | noValue
  deriving DecidableEq

namespace ItemChoice

def ofSnak? : Snak → Option ItemChoice
  | .value _ v => match v.entity? with
    | some (.item id) => some (item id)
    | _ => none
  | .someValue _ => some someValue
  | .noValue _ => some noValue

def item? : ItemChoice → Option ItemId
  | item id => some id
  | _ => none

def describes : ItemChoice → Snak → Bool
  | item id, s => s.entity? == some (.item id)
  | someValue, .someValue _ => true
  | noValue, .noValue _ => true
  | _, _ => false

def toString : ItemChoice → String
  | item id => id.toString
  | someValue => "unknown value"
  | noValue => "no value"

instance : ToString ItemChoice := ⟨toString⟩

def ofJson? (j : Json) : Option ItemChoice := do
  let r ← j.record? ["type", "item"]
  let empty? := match r.get? "item" with
    | none => true
    | some .null => true
    | _ => false
  match ← r.required? "type" Json.string? with
  | "value" => return item (← r.required? "item" (Json.parsed? ItemId.ofString?))
  | "somevalue" => if empty? then some someValue else none
  | "novalue" => if empty? then some noValue else none
  | _ => none

end ItemChoice

end EntityAudit
