import EntityAudit.ConstraintSource
import EntityAudit.Json.Reader

/-!
Dumps: entities and redirects as JSON, either a list of entities or an object with both. No
identifier may be an entity twice, or an entity and a redirect.
-/

namespace EntityAudit

structure Dump where
  entities : List Entity
  redirects : SortedMap EntityId EntityId := SortedMap.empty

namespace Dump

def empty : Dump := ⟨[], SortedMap.empty⟩

def toJson (d : Dump) : Json :=
  .record [
    ("entities", some (.array (d.entities.map (·.toJson)))),
    ("redirects", if d.redirects.isEmpty then none else
      some (.object (d.redirects.entries.map fun (source, target) =>
        (source.toString, .text target.toString))))]

def ofJson? (j : Json) : Option Dump :=
  match j.list? Entity.ofJson? with
  | some entities => some { entities }
  | none => do
    let r ← j.record? ["entities", "redirects"]
    return {
      entities := ← r.required? "entities" (Json.list? Entity.ofJson?)
      redirects := ← r.defaulting? "redirects" SortedMap.empty
        (Json.map? EntityId.ofString? (Json.parsed? EntityId.ofString?)) }

def repeated? (seen : SortedSet EntityId) : List EntityId → Option EntityId
  | [] => none
  | id :: ids => if seen.contains id then some id else repeated? (seen.insert id ()) ids

def validate (d : Dump) : Except StorageError Unit :=
  let ids := d.entities.map (·.id)
  match repeated? SortedMap.empty ids with
  | some id => .error (.duplicateEntity id)
  | none =>
    match d.redirects.keys.find? (· ∈ ids) with
    | some id => .error (.entityAndRedirect id)
    | none => .ok ()

/-- The dump that a text describes. A value that describes none is reported before anything that
follows it. -/
def read (s : String) : Except StorageError Dump :=
  match Json.read? s.toList with
  | none => .error .malformedJson
  | some (j, rest) =>
    match ofJson? j with
    | none => .error .unexpectedJson
    | some d =>
      if rest.all Json.Token.isBlank then d.validate.map fun _ => d else .error .malformedJson

def loadInto (d : Dump) (s : Store) : Store :=
  let s := d.entities.foldl (fun s e => (s.save e).1) s
  d.redirects.entries.foldl (fun s (source, target) => s.addRedirect source target) s

def constraints (config : Config) (d : Dump) : ConstraintTable :=
  d.entities.foldl (ConstraintTable.importEntity config) SortedMap.empty

end Dump

end EntityAudit
