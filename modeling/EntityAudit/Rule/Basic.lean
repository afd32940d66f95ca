import EntityAudit.GraphQuery
import EntityAudit.Pages
import EntityAudit.Parameters

/-!
Rules: what a type of constraint demands of a snak. A rule looks at a context, the parameters of
the constraint and the services it is given, and comes to a verdict, or finds that the parameters
are wrong.
-/

namespace EntityAudit

structure Services where
  config : Config
  find? : EntityId → Option Entity
  graph : Option GraphQuery := none
  pages : Option PageLookup := none
  now : Moment

inductive Support where
  | supported
  | todo
  | notSupported
  deriving DecidableEq

def Support.name : Support → String
  | supported => "supported"
  | todo => "todo"
  | notSupported => "not-supported"

structure Verdict where
  status : Status
  message : Option Message := none
  parameters : SortedMap String (List String) := SortedMap.empty
  metadata : Metadata := .blank

namespace Verdict

def compliance : Verdict := { status := .compliance }

def violation (m : Message) : Verdict := { status := .violation, message := some m }

def todo : Verdict := { status := .todo }

def of (condition : Bool) (m : Message) : Verdict :=
  if condition then compliance else violation m

def withParameter (v : Verdict) (name : String) (values : List String) : Verdict :=
  { v with parameters := v.parameters.insert name values }

def withMetadata (v : Verdict) (m : Metadata) : Verdict :=
  { v with metadata := v.metadata.combine m }

end Verdict

structure Rule where
  support : Role → Support
  roles : List Role
  problems : Config → Constraint → List ParameterError
  verdict : Services → Context → Constraint → Except ParameterError Verdict

namespace Rule

def everywhere : Role → Support := fun _ => .supported

def mainSnaksOnly : Role → Support
  | .statement => .supported
  | _ => .notSupported

def problem {α : Type} : Except ParameterError α → List ParameterError
  | .ok _ => []
  | .error e => [e]

end Rule

namespace Message

def needsValue (p : PropertyId) : Message :=
  ⟨"needs-value", "The constraint on " ++ p.toString ++
    " needs a value; \"some value\" and \"no value\" cannot be checked."⟩

def valueTypeMismatch (p : PropertyId) (expected actual : String) : Message :=
  ⟨"value-type-mismatch", "The value of " ++ p.toString ++ " should be of type " ++ expected ++
    ", but is of type " ++ actual ++ "."⟩

def entityMustExist (p : PropertyId) (target : EntityId) : Message :=
  ⟨"entity-must-exist", "The value of " ++ p.toString ++ " refers to " ++ target.toString ++
    ", which does not exist."⟩

def queryFailed (e : QueryError) : Message :=
  ⟨"query-error",
    "The check could not be completed because a graph query failed: " ++ e.message⟩

def list (texts : List String) : String := ", ".intercalate texts

end Message

namespace Context

def requireValue (c : Context) : Except Verdict Value :=
  match c.snak.value? with
  | some v => .ok v
  | none => .error (.violation (.needsValue c.property))

def mismatch (c : Context) (expected : String) (v : Value) : Verdict :=
  .violation (.valueTypeMismatch c.property expected v.kind)

def requireEntity (c : Context) : Except Verdict EntityId := do
  match ← c.requireValue with
  | .entity id => return id
  | v => .error (c.mismatch "wikibase-entityid" v)

end Context

def Verdict.settle : Except Verdict Verdict → Verdict
  | .ok v => v
  | .error v => v

end EntityAudit
