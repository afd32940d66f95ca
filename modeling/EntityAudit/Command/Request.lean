import EntityAudit.Command.Arguments
import EntityAudit.Report

namespace EntityAudit

structure CheckRequest where
  entities : List String
  claims : List String
  dump : String
  statuses : List String
  constraints : List String
  pages : Option String
  usesCache : Bool
  failsOnViolation : Bool

inductive ConfigRequest where
  | get (key : String)
  | set (key value : String)
  | unset (key : String)
  | list
  | path
  | init (force : Bool)

inductive Action where
  | check (r : CheckRequest)
  | constraints (property dump : String)
  | config (r : ConfigRequest)
  | completions (shell : String) (outDir : Option String)

structure Request where
  action : Action
  dataDir : Option String := none
  format : Option String := none

namespace Action

def check? (a : Arguments) : Option CheckRequest := do
  if a.operands.isEmpty ∧ !a.has "claim" then none
  return {
    entities := a.operands
    claims := a.values "claim"
    dump := ← a.value? "dump"
    statuses := a.values "status"
    constraints := a.values "constraint"
    pages := a.value? "pages"
    usesCache := a.has "cache"
    failsOnViolation := a.has "fail-on-violation" }

def ofArguments? (a : Arguments) : Option Action :=
  match a.topic, a.operands with
  | .check, _ => (check? a).map check
  | .constraints, [property] => (a.value? "dump").map (constraints property)
  | .configGet, [key] => some (config (.get key))
  | .configSet, [key, value] => some (config (.set key value))
  | .configUnset, [key] => some (config (.unset key))
  | .configList, [] => some (config .list)
  | .configPath, [] => some (config .path)
  | .configInit, [] => some (config (.init (a.has "force")))
  | .completions, [shell] => some (completions shell (a.value? "out-dir"))
  | _, _ => none

end Action

namespace Request

def read (args : List String) : Except Stop Request := do
  let a ← Arguments.read args
  match Action.ofArguments? a with
  | some action => .ok { action, dataDir := a.value? "data-dir", format := a.value? "format" }
  | none => .error (.usage a.topic)

def reportFormat (r : Request) (s : Settings) : ReportFormat :=
  .ofString (r.format.getD s.format)

end Request

end EntityAudit
