import EntityAudit.Json.Basic

/-!
The tables of a TOML document while it is read. A table is defined once: by a header, or by dotted
keys where it is used. A header also makes the tables around its table, and these may be defined
later.
-/

namespace EntityAudit.Toml

inductive Origin where
  | header
  | around
  | dottedKey
  deriving DecidableEq

inductive Node where
  | value (j : Json)
  | table (origin : Origin) (members : List (String × Node))
  | tables (l : List (List (String × Node)))

abbrev Members := List (String × Node)

namespace Members

def find? (ms : Members) (key : String) : Option Node := (List.find? (·.1 = key) ms).map (·.2)

def replace (ms : Members) (key : String) (n : Node) : Members :=
  ms.map fun m => if m.1 = key then (key, n) else m

def changeLast? (change : Members → Option Members) (l : List Members) : Option (List Members) := do
  let last ← l.getLast?
  return l.dropLast ++ [← change last]

def define? (ms : Members) (key : String) (j : Json) : List String → Option Members
  | [] => if (ms.find? key).isSome then none else some (ms ++ [(key, .value j)])
  | k :: path =>
    match ms.find? k with
    | none => do return ms ++ [(k, .table .dottedKey (← define? [] key j path))]
    | some (.table origin sub) =>
      if origin = .header ∨ (path.isEmpty ∧ origin ≠ .dottedKey) then none
      else do return ms.replace k (.table origin (← define? sub key j path))
    | some (.tables l) =>
      if path.isEmpty then none
      else do return ms.replace k (.tables (← changeLast? (define? · key j path) l))
    | some (.value _) => none

def open? (change : Option Node → Option Node) (ms : Members) : List String → Option Members
  | [] => none
  | [k] =>
    match ms.find? k with
    | none => do return ms ++ [(k, ← change none)]
    | some n => do return ms.replace k (← change (some n))
  | k :: path =>
    match ms.find? k with
    | none => do return ms ++ [(k, .table .around (← open? change [] path))]
    | some (.table origin sub) => do return ms.replace k (.table origin (← open? change sub path))
    | some (.tables l) => do
      return ms.replace k (.tables (← changeLast? (open? change · path) l))
    | some (.value _) => none

def openTable? : Option Node → Option Node
  | none => some (.table .header [])
  | some (.table .around sub) => some (.table .header sub)
  | _ => none

def addTable? : Option Node → Option Node
  | none => some (.tables [[]])
  | some (.tables l) => some (.tables (l ++ [[]]))
  | _ => none

def within? (change : Members → Option Members) (ms : Members) : List String → Option Members
  | [] => change ms
  | k :: path =>
    match ms.find? k with
    | some (.table origin sub) => do return ms.replace k (.table origin (← within? change sub path))
    | some (.tables l) => do
      return ms.replace k (.tables (← changeLast? (within? change · path) l))
    | _ => none

end Members

mutual

def Node.toJson : Node → Json
  | .value j => j
  | .table _ ms => .object (membersJson ms)
  | .tables l => .array (tablesJson l)

def membersJson : List (String × Node) → List (String × Json)
  | [] => []
  | (key, n) :: ms => (key, n.toJson) :: membersJson ms

def tablesJson : List (List (String × Node)) → List Json
  | [] => []
  | ms :: l => .object (membersJson ms) :: tablesJson l

end

end EntityAudit.Toml
