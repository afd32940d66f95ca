import EntityAudit.Json.Record
import EntityAudit.Json.Writer
import EntityAudit.Time

/-!
Values of statements: texts, references to entities, quantities, times, texts in a language, and
positions on a globe; their text in messages and their canonical JSON.
-/

namespace EntityAudit

structure Quantity where
  amount : Float
  lowerBound : Option Float := none
  upperBound : Option Float := none
  unit : Option ItemId := none
  deriving BEq

structure MonolingualText where
  language : String
  text : String
  deriving DecidableEq

structure GlobeCoordinate where
  latitude : Float
  longitude : Float
  precision : Option Float := none
  deriving BEq

/-- Equality of values compares numbers as numbers: the two zeros are equal. -/
inductive Value where
  | string (text : String)
  | entity (id : EntityId)
  | quantity (q : Quantity)
  | time (t : TimeValue)
  | monolingual (t : MonolingualText)
  | globe (c : GlobeCoordinate)
  deriving BEq

def isWhole (x : Float) : Bool := x.isFinite && x.floor == x

namespace Quantity

def hasBounds (q : Quantity) : Bool := q.lowerBound.isSome || q.upperBound.isSome

def isInteger (q : Quantity) : Bool :=
  isWhole q.amount && q.lowerBound.all isWhole && q.upperBound.all isWhole

def toJson (q : Quantity) : Json :=
  .record [
    ("amount", some (.float q.amount)),
    ("lower_bound", q.lowerBound.map .float),
    ("upper_bound", q.upperBound.map .float),
    ("unit", q.unit.map fun id => .text id.toString)]

def ofJson? (j : Json) : Option Quantity := do
  let r ← j.record? ["amount", "lower_bound", "upper_bound", "unit"]
  return {
    amount := ← r.required? "amount" Json.float?
    lowerBound := ← r.optional? "lower_bound" Json.float?
    upperBound := ← r.optional? "upper_bound" Json.float?
    unit := ← r.optional? "unit" (Json.parsed? ItemId.ofString?) }

end Quantity

namespace TimeValue

def toJson (t : TimeValue) : Json :=
  .object [
    ("time", .text t.time),
    ("precision", .integer t.precision.toNat),
    ("calendar_model", .text t.calendarModel)]

def precision? (j : Json) : Option UInt8 := (j.natural? 256).map UInt8.ofNat

def ofJson? (j : Json) : Option TimeValue := do
  let r ← j.record? ["time", "precision", "calendar_model"]
  let fallback : TimeValue := { time := "" }
  return {
    time := ← r.required? "time" Json.string?
    precision := ← r.defaulting? "precision" fallback.precision precision?
    calendarModel := ← r.defaulting? "calendar_model" fallback.calendarModel Json.string? }

end TimeValue

namespace MonolingualText

def toJson (t : MonolingualText) : Json :=
  .object [("language", .text t.language), ("text", .text t.text)]

def ofJson? (j : Json) : Option MonolingualText := do
  let r ← j.record? ["language", "text"]
  return ⟨← r.required? "language" Json.string?, ← r.required? "text" Json.string?⟩

end MonolingualText

namespace GlobeCoordinate

def toJson (c : GlobeCoordinate) : Json :=
  .record [
    ("latitude", some (.float c.latitude)),
    ("longitude", some (.float c.longitude)),
    ("precision", c.precision.map .float)]

def ofJson? (j : Json) : Option GlobeCoordinate := do
  let r ← j.record? ["latitude", "longitude", "precision"]
  return {
    latitude := ← r.required? "latitude" Json.float?
    longitude := ← r.required? "longitude" Json.float?
    precision := ← r.optional? "precision" Json.float? }

end GlobeCoordinate

namespace Value

def kind : Value → String
  | string _ => "string"
  | entity _ => "wikibase-entityid"
  | quantity _ => "quantity"
  | time _ => "time"
  | monolingual _ => "monolingualtext"
  | globe _ => "globecoordinate"

def entity? : Value → Option EntityId
  | entity id => some id
  | _ => none

def string? : Value → Option String
  | string s => some s
  | _ => none

def numberText (x : Float) : String := Decimal.plain.text x

def text : Value → String
  | string s => "\"" ++ s ++ "\""
  | entity id => id.toString
  | quantity q => match q.unit with
    | none => numberText q.amount
    | some unit => numberText q.amount ++ " " ++ unit.toString
  | time t => t.time
  | monolingual t => "\"" ++ t.text ++ "\" (" ++ t.language ++ ")"
  | globe c => numberText c.latitude ++ ", " ++ numberText c.longitude

def content : Value → Json
  | string s => .text s
  | entity id => .text id.toString
  | quantity q => q.toJson
  | time t => t.toJson
  | monolingual t => t.toJson
  | globe c => c.toJson

def toJson (v : Value) : Json := .object [("type", .text v.kind), ("value", v.content)]

def ofContent? (kind : String) (j : Json) : Option Value :=
  match kind with
  | "string" => j.string?.map string
  | "wikibase-entityid" => (j.parsed? EntityId.ofString?).map entity
  | "quantity" => (Quantity.ofJson? j).map quantity
  | "time" => (TimeValue.ofJson? j).map time
  | "monolingualtext" => (MonolingualText.ofJson? j).map monolingual
  | "globecoordinate" => (GlobeCoordinate.ofJson? j).map globe
  | _ => none

def ofJson? (j : Json) : Option Value := do
  let r ← j.record? ["type", "value"]
  ofContent? (← r.required? "type" Json.string?) (← r.get? "value")

end Value

end EntityAudit
