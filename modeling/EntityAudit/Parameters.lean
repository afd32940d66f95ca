import EntityAudit.Config
import EntityAudit.ParameterError

/-!
The parameters of a constraint, read from its snaks. Each parameter is read on its own; the first
snak that does not fit is the error.
-/

namespace EntityAudit

inductive Relation where
  | instance_
  | subclass
  | instanceOrSubclass
  deriving DecidableEq

namespace Relation

def properties (config : Config) : Relation → List PropertyId
  | instance_ => [config.instanceOf]
  | subclass => [config.subclassOf]
  | instanceOrSubclass => [config.instanceOf, config.subclassOf]

def name : Relation → String
  | instance_ => "instance"
  | subclass => "subclass"
  | instanceOrSubclass => "instance or subclass"

end Relation

inductive Bound where
  | value (v : Value)
  | now

def Bound.isNow : Bound → Bool
  | now => true
  | value _ => false

structure Range where
  minimum : Option Bound
  maximum : Option Bound

inductive Weight where
  | mandatory
  | suggestion
  deriving DecidableEq

def Weight.name : Weight → String
  | mandatory => "mandatory"
  | suggestion => "suggestion"

structure Units where
  units : List ItemId
  unitless : Bool
  deriving DecidableEq

namespace Parameters

abbrev Read (α : Type) := Except ParameterError α

def single (c : Constraint) (p : PropertyId) : Read Snak :=
  match c.parameters.of p with
  | [] => .error (.missing p)
  | [s] => .ok s
  | _ => .error (.notSingle p)

def valueOf (p : PropertyId) (s : Snak) : Read Value :=
  match s.value? with
  | some v => .ok v
  | none => .error (.valueless p)

def ofKind {α : Type} (p : PropertyId) (kind : String) : Option α → Read α
  | some a => .ok a
  | none => .error (.wrongKind p kind)

def entityOf (p : PropertyId) (s : Snak) : Read EntityId := do
  ofKind p "entity" (← valueOf p s).entity?

def itemOf (p : PropertyId) (s : Snak) : Read ItemId := do
  ofKind p "item" ((← valueOf p s).entity?.bind (·.item?))

def propertyOf (p : PropertyId) (s : Snak) : Read PropertyId := do
  ofKind p "property" ((← valueOf p s).entity?.bind (·.property?))

def stringOf (p : PropertyId) (s : Snak) : Read String := do
  ofKind p "string" (← valueOf p s).string?

def choose {α : Type} (p : PropertyId) (table : List (ItemId × α)) (id : ItemId) : Read α :=
  match table.find? (·.1 = id) with
  | some (_, a) => .ok a
  | none => .error (.notOneOf p (table.map (·.1)))

variable (config : Config) (c : Constraint)

def classes : Read (List ItemId) :=
  let p := config.parameters.classes
  match c.parameters.of p with
  | [] => .error (.missing p)
  | l => l.mapM (itemOf p)

def relation : Read Relation := do
  let p := config.parameters.relation
  choose p [
    (config.items.instanceOfRelation, .instance_),
    (config.items.subclassOfRelation, .subclass),
    (config.items.instanceOrSubclassOfRelation, .instanceOrSubclass)] (← itemOf p (← single c p))

def property : Read PropertyId := do
  let p := config.parameters.property
  propertyOf p (← single c p)

def properties : Read (List PropertyId) :=
  let p := config.parameters.property
  ((c.parameters.of p).filter (·.state ≠ "novalue")).mapM (propertyOf p)

def someProperties : Read (List PropertyId) := do
  match ← properties config c with
  | [] => .error (.missing config.parameters.property)
  | l => .ok l

def items : Read (List ItemChoice) :=
  let p := config.parameters.item
  (c.parameters.of p).mapM fun s => ofKind p "item" (ItemChoice.ofSnak? s)

def someItems : Read (List ItemChoice) :=
  if (c.parameters.of config.parameters.item).isEmpty then .error (.missing config.parameters.item)
  else items config c

def range (minimum maximum : PropertyId) (bound : PropertyId → Snak → Read (Option Bound)) :
    Read Range := do
  let low ← single c minimum
  let high ← single c maximum
  return { minimum := ← bound minimum low, maximum := ← bound maximum high }

def quantityBound (p : PropertyId) : Snak → Read (Option Bound)
  | .noValue _ => .ok none
  | .someValue _ => .error (.valueless p)
  | .value _ (.quantity q) => .ok (some (.value (.quantity q)))
  | .value _ _ => .error (.wrongKind p "quantity")

def dateBound (p : PropertyId) : Snak → Read (Option Bound)
  | .noValue _ => .ok none
  | .someValue _ => .ok (some .now)
  | .value _ (.time t) => .ok (some (.value (.time t)))
  | .value _ _ => .error (.wrongKind p "time")

def quantityRange : Read Range :=
  range c config.parameters.minimumQuantity config.parameters.maximumQuantity quantityBound

def dateRange : Read Range :=
  range c config.parameters.minimumDate config.parameters.maximumDate dateBound

def pageNamespace : Read String := do
  let p := config.parameters.pageNamespace
  if c.parameters.contains p then stringOf p (← single c p) else return ""

def format : Read String := do
  let p := config.parameters.format
  stringOf p (← single c p)

def exceptions : Read (List EntityId) :=
  let p := config.parameters.exception
  (c.parameters.of p).mapM (entityOf p)

def weight : Read (Option Weight) := do
  let p := config.parameters.constraintStatus
  if c.parameters.contains p then
    let table := [
      (config.items.statusMandatory, Weight.mandatory),
      (config.items.statusSuggestion, Weight.suggestion)]
    return some (← choose p table (← itemOf p (← single c p)))
  else return none

def separators : Read (List PropertyId) :=
  let p := config.parameters.separator
  (c.parameters.of p).mapM (propertyOf p)

def roles (p : PropertyId) (table : List (ItemId × Role)) : Read (List Role) :=
  (c.parameters.of p).mapM fun s => do choose p table (← itemOf p s)

def scope : Read (Option (List Role)) := do
  let p := config.parameters.constraintScope
  if c.parameters.contains p then
    return some (← roles c p [
      (config.items.scopeMainValue, .statement),
      (config.items.scopeQualifiers, .qualifier),
      (config.items.scopeReferences, .reference)])
  else return none

def propertyScope : Read (List Role) :=
  let p := config.parameters.propertyScope
  if c.parameters.contains p then
    roles c p [
      (config.items.propertyScopeMainValue, .statement),
      (config.items.propertyScopeQualifiers, .qualifier),
      (config.items.propertyScopeReferences, .reference)]
  else .error (.missing p)

def unitsOf (p : PropertyId) : List ItemChoice → Read Units
  | [] => .ok ⟨[], false⟩
  | .item id :: l => (unitsOf p l).map fun u => { u with units := id :: u.units }
  | .noValue :: l => (unitsOf p l).map fun u => { u with unitless := true }
  | .someValue :: _ => .error (.valueless p)

def units : Read Units := do unitsOf config.parameters.item (← someItems config c)

def entityKinds : Read (List EntityKind) := do
  let p := config.parameters.item
  let table := [
    (config.items.entityTypeItem, EntityKind.item),
    (config.items.entityTypeProperty, EntityKind.property)]
  (← someItems config c).mapM fun choice =>
    match choice.item? with
    | some id => choose p table id
    | none => .error (.notOneOf p (table.map (·.1)))

end Parameters

end EntityAudit
