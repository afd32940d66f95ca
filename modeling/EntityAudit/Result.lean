import EntityAudit.Constraint
import EntityAudit.Context
import EntityAudit.Metadata

/-!
Results of checking one snak against one constraint. A result holds a cursor and no entity, so it
can be stored and read back (`Result.toJson`, `Result.ofJson?`).
-/

namespace EntityAudit

inductive Status where
  | compliance
  | violation
  | warning
  | suggestion
  | badParameters
  | todo
  | deprecated
  | exception
  | notInScope
  deriving DecidableEq

namespace Status

def all : List Status :=
  [compliance, violation, warning, suggestion, badParameters, todo, deprecated, exception, notInScope]

def name : Status → String
  | compliance => "compliance"
  | violation => "violation"
  | warning => "warning"
  | suggestion => "suggestion"
  | badParameters => "bad-parameters"
  | todo => "todo"
  | deprecated => "deprecated"
  | exception => "exception"
  | notInScope => "not-in-scope"

def ofString? (s : String) : Option Status := all.find? (·.name = s)

def read (s : String) : Except ReadError Status := ReadError.orElse (.status s) (ofString? s)

def ofJson? : Json → Option Status := Json.choice? ofString?

end Status

structure Message where
  key : String
  text : String
  deriving DecidableEq

structure Result where
  cursor : Cursor
  constraint : Constraint
  parameters : SortedMap String (List String) := SortedMap.empty
  status : Status
  message : Option Message := none
  metadata : Metadata := .blank
  deriving BEq

structure ResultSet where
  results : List Result
  metadata : Metadata

namespace Message

def toJson (m : Message) : Json := .object [("key", .text m.key), ("text", .text m.text)]

def ofJson? (j : Json) : Option Message := do
  let r ← j.record? ["key", "text"]
  return ⟨← r.required? "key" Json.string?, ← r.required? "text" Json.string?⟩

end Message

namespace Result

def withMetadata (r : Result) (m : Metadata) : Result :=
  { r with metadata := r.metadata.combine m }

def toJson (r : Result) : Json :=
  .record [
    ("cursor", some r.cursor.toJson),
    ("constraint", some r.constraint.toJson),
    ("parameters", if r.parameters.isEmpty then none else
      some (.object (r.parameters.entries.map fun (name, values) =>
        (name, .array (values.map .text))))),
    ("status", some (.text r.status.name)),
    ("message", r.message.map (·.toJson)),
    ("metadata", some r.metadata.toJson)]

def ofJson? (j : Json) : Option Result := do
  let r ← j.record? ["cursor", "constraint", "parameters", "status", "message", "metadata"]
  return {
    cursor := ← r.required? "cursor" Cursor.ofJson?
    constraint := ← r.required? "constraint" Constraint.ofJson?
    parameters := ← r.defaulting? "parameters" SortedMap.empty
      (Json.map? some (Json.list? Json.string?))
    status := ← r.required? "status" Status.ofJson?
    message := ← r.optional? "message" Message.ofJson?
    metadata := ← r.defaulting? "metadata" .blank Metadata.ofJson? }

end Result

namespace ResultSet

def ofResults (results : List Result) : ResultSet :=
  ⟨results, Metadata.merge (results.map (·.metadata))⟩

end ResultSet

end EntityAudit
