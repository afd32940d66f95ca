import EntityAudit.Host
import EntityAudit.Json.Reader
import EntityAudit.Store

/-!
Databases of texts by key. Which one is used is left open; one of them is kept as a text in a file.
-/

namespace EntityAudit

/-- A database keeps texts by key and a version beside them. Each operation may fail. -/
class Database (δ : Type) where
  version? : δ → Except StorageError (Option UInt32)
  setVersion : δ → (version : UInt32) → Except StorageError δ
  get? : δ → (key : String) → Except StorageError (Option String)
  insert : δ → (key text : String) → Except StorageError δ
  remove : δ → (key : String) → Except StorageError δ
  clear : δ → Except StorageError δ
  reopen : δ → Except StorageError δ

class DatabaseHost (m : Type → Type) (δ : outParam Type) where
  openDatabase : (path : String) → m (Except StorageError δ)
  closeDatabase : (path : String) → δ → m (Except StorageError Unit)

structure TextDatabase where
  version : Option UInt32 := none
  texts : SortedMap String String := SortedMap.empty

namespace TextDatabase

def text (d : TextDatabase) : String :=
  (Json.object [
    ("version", .ofOption (fun v => .integer v.toNat) d.version),
    ("texts", .object (d.texts.entries.map fun (key, t) => (key, .text t)))]).compact

def read? (s : String) : Option TextDatabase := do
  let r ← (← Json.ofString? s).record? ["version", "texts"]
  return {
    version := (← r.optional? "version" (Json.natural? UInt32.size)).map UInt32.ofNat
    texts := ← r.required? "texts" (Json.map? some Json.string?) }

def ofText (s : String) : Except StorageError TextDatabase :=
  match read? s with
  | some d => .ok d
  | none => .error (.database "not a database")

instance : Database TextDatabase where
  version? d := .ok d.version
  setVersion d version := .ok { d with version := some version }
  get? d key := .ok (d.texts.get? key)
  insert d key text := .ok { d with texts := d.texts.insert key text }
  remove d key := .ok { d with texts := d.texts.erase key }
  clear d := .ok { d with texts := SortedMap.empty }
  reopen d := ofText d.text

instance {m : Type → Type} [Monad m] [Host m] : DatabaseHost m TextDatabase where
  openDatabase path := do
    match ← Host.readFile (m := m) path with
    | .ok text => return ofText text
    | .error .missing => return .ok {}
    | .error e => return .error (.database e.message)
  closeDatabase path d := do
    return (← Host.writeFile (m := m) path d.text).mapError fun e => .database e.message

end TextDatabase

end EntityAudit
