import EntityAudit.Result

/-!
Results filed under their cursors: by entity, property and identifier of the statement, and by
the role of the checked snak.
-/

namespace EntityAudit

structure StatementResults where
  mainSnak : List Result := []
  qualifiers : SortedMap PropertyId (List Result) := SortedMap.empty
  references : SortedMap String (SortedMap PropertyId (List Result)) := SortedMap.empty

abbrev EntityResults := SortedMap PropertyId (SortedMap String StatementResults)

structure ResultTree where
  entities : SortedMap EntityId EntityResults

def append (l : Option (List Result)) (r : Result) : List Result := l.getD [] ++ [r]

namespace StatementResults

def file (t : StatementResults) (r : Result) : StatementResults :=
  let p := r.cursor.snakProperty
  match r.cursor.role with
  | .statement => { t with mainSnak := t.mainSnak ++ [r] }
  | .qualifier => { t with qualifiers := t.qualifiers.alter p (append · r) }
  | .reference => { t with
      references := t.references.alter (r.cursor.referenceHash.getD "") fun m =>
        (m.getD .empty).alter p (append · r) }

def results (t : StatementResults) : List Result :=
  t.mainSnak ++ t.qualifiers.values.flatten ++ t.references.values.flatMap (·.values.flatten)

def ofProperties (m : SortedMap PropertyId (List Result)) : Json :=
  .object (m.entries.map fun (p, l) => (p.toString, .array (l.map (·.toJson))))

def toJson (t : StatementResults) : Json :=
  .record [
    ("main_snak", if t.mainSnak.isEmpty then none else some (.array (t.mainSnak.map (·.toJson)))),
    ("qualifiers", if t.qualifiers.isEmpty then none else some (ofProperties t.qualifiers)),
    ("references", if t.references.isEmpty then none else
      some (.object (t.references.entries.map fun (hash, m) => (hash, ofProperties m))))]

end StatementResults

namespace ResultTree

def empty : ResultTree := ⟨SortedMap.empty⟩

def file (t : ResultTree) (r : Result) : ResultTree :=
  ⟨t.entities.alter r.cursor.entity fun e =>
    (e.getD SortedMap.empty).alter r.cursor.statementProperty fun p =>
      (p.getD .empty).alter r.cursor.guid fun s => (s.getD {}).file r⟩

def ofResults (l : List Result) : ResultTree := l.foldl file empty

def results (t : ResultTree) : List Result :=
  t.entities.values.flatMap fun e => e.values.flatMap fun p => p.values.flatMap (·.results)

def resultCount (t : ResultTree) : Nat := t.results.length

def isEmpty (t : ResultTree) : Bool := t.entities.isEmpty

def entity? (t : ResultTree) (id : EntityId) : Option EntityResults := t.entities.get? id

def statement? (t : ResultTree) (id : EntityId) (guid : String) : Option StatementResults :=
  (t.entity? id).bind fun e => e.values.findSome? (·.get? guid)

def toJson (t : ResultTree) : Json :=
  .object (t.entities.entries.map fun (id, e) =>
    (id.toString, .object [("claims", .object (e.entries.map fun (p, statements) =>
      (p.toString, .object (statements.entries.map fun (guid, s) => (guid, s.toJson)))))]))

end ResultTree

end EntityAudit
