import EntityAudit.Auditor
import EntityAudit.Json.Writer
import EntityAudit.ResultTree
import EntityAudit.Settings
import EntityAudit.Text.Columns

namespace EntityAudit

inductive ReportFormat where
  | table
  | json
  deriving DecidableEq

def ReportFormat.ofString (s : String) : ReportFormat :=
  if s.toLower = "json" then json else table

namespace ResultSet

def row (r : Result) : List String := [
  r.cursor.entity.toString, r.cursor.guid, r.cursor.role.name, r.cursor.snakProperty.toString,
  r.constraint.type.toString, r.status.name, (r.message.map (·.text)).getD ""]

def columns (s : ResultSet) : Text.Columns where
  headings := ["entity", "statement", "context", "property", "constraint", "status", "message"]
  rows := s.results.map row

def summary (s : ResultSet) : String :=
  let count := toString s.results.length ++ " results"
  if s.metadata.isCached then count ++ " (cached, up to " ++ toString s.metadata.age ++ "s old)"
  else count

def tableText (s : ResultSet) : String :=
  if s.results.isEmpty then s.summary else s.columns.text ++ "\n\n" ++ s.summary

def toJson (s : ResultSet) : Json :=
  .object [
    ("results", (ResultTree.ofResults s.results).toJson),
    ("cached", .bool s.metadata.isCached),
    ("max_age", .integer s.metadata.age)]

def report (s : ResultSet) : ReportFormat → String
  | .json => s.toJson.sortMembers.pretty
  | .table => s.tableText

end ResultSet

structure ConstraintReport where
  property : PropertyId
  constraints : List (Constraint × List ParameterError)

namespace ConstraintReport

def ofAuditor (a : Auditor) (p : PropertyId) : ConstraintReport :=
  let problems := a.propertyProblems p
  ⟨p, (a.constraints p).map fun c => (c, (problems.get? c.id).getD [])⟩

def problemsText : List ParameterError → String
  | [] => "ok"
  | l => "; ".intercalate (l.map (·.message))

def columns (r : ConstraintReport) : Text.Columns where
  headings := ["constraint", "type", "deprecated", "problems"]
  rows := r.constraints.map fun (c, problems) =>
    [c.id, c.type.toString, toString c.deprecated, problemsText problems]

def tableText (r : ConstraintReport) : String :=
  if r.constraints.isEmpty then "No constraints on " ++ r.property.toString
  else "Constraints on " ++ r.property.toString ++ " (" ++ toString r.constraints.length ++
    " found):\n" ++ r.columns.text

def problemJson (e : ParameterError) : Json :=
  .record [
    ("key", some (.text e.key)),
    ("parameter", e.parameter?.map fun p => .text p.toString),
    ("message", some (.text e.message))]

def toJson (r : ConstraintReport) : Json :=
  .array (r.constraints.map fun (c, problems) => .object [
    ("constraint_id", .text c.id),
    ("constraint_type", .text c.type.toString),
    ("deprecated", .bool c.deprecated),
    ("problems", .array (problems.map problemJson))])

def report (r : ConstraintReport) : ReportFormat → String
  | .json => r.toJson.pretty
  | .table => r.tableText

end ConstraintReport

namespace Settings

def columns (s initial : Settings) : Text.Columns where
  headings := ["key", "value", ""]
  rows := SettingKey.all.map fun key =>
    [key.name, s.get key, if s.get key = initial.get key then "" else "(changed)"]

end Settings

end EntityAudit
