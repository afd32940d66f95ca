import EntityAudit.Command.Completion
import EntityAudit.Command.Help
import EntityAudit.Command.Request
import EntityAudit.Host
import EntityAudit.Session

/-!
Running the program on a host. Settings are read first, then the files that a request names, then
its other arguments; the first thing that cannot be read or used is reported, and nothing is
printed then.
-/

namespace EntityAudit

structure Outcome where
  code : Nat := 0
  output : String := ""
  problem : String := ""
  deriving DecidableEq

structure Environment where
  configFile : String
  dataDir : String

inductive Failure where
  | error (message : String)
  | unknownKey (key : String)
  | threshold

namespace Failure

def outcome : Failure → Outcome
  | error message => { code := 1, problem := "Error: " ++ message }
  | unknownKey key => {
      code := 1
      problem := "Unknown config key: " ++ key ++ "\nAvailable keys: " ++
        ", ".intercalate SettingKey.names }
  | threshold => { code := 101, problem := "a threshold of slow checks is too long" }

end Failure

namespace Program

def version : String := "0.1.0"

variable {m : Type → Type} [Monad m] [Host m]

abbrev Run (m : Type → Type) := ExceptT Failure m

def fail {α : Type} (message : String) : Run m α := throw (.error message)

def orFail {ε α : Type} (message : ε → String) : Except ε α → Run m α
  | .ok a => pure a
  | .error e => fail (message e)

def line (s : String) : Outcome := { output := s ++ "\n" }

def initialSettings (env : Environment) : Settings := { dataDir := env.dataDir }

def settings (env : Environment) : Run m Settings := do
  match ← Host.readFile (m := m) env.configFile with
  | .ok text => return Settings.read (initialSettings env) text
  | .error _ => return initialSettings env

def save (env : Environment) (s : Settings) : Run m Unit := do
  let folder := Paths.folder env.configFile
  if folder ≠ "" then orFail FileError.message (← Host.makeFolders (m := m) folder)
  let some text := s.text? | fail "out-of-range value for u64 type"
  orFail (fun _ => "Failed to write config file " ++ env.configFile)
    (← Host.writeFile (m := m) env.configFile text)

def set (env : Environment) (key text : String) : Run m Unit := do
  let (result, s) := (← settings env).setNamed key text
  orFail SettingError.message result
  save env s

def config (env : Environment) : ConfigRequest → Run m Outcome
  | .get key => do
    match (← settings env).getNamed? key with
    | some text => return line text
    | none => throw (.unknownKey key)
  | .set key text => do
    set env key text
    return line ("Set " ++ key ++ " = " ++ text)
  | .unset key => do
    let some text := (initialSettings env).getNamed? key | fail ("Unknown config key: " ++ key)
    set env key text
    return line ("Reset " ++ key ++ " = " ++ text)
  | .list => do
    let columns := (← settings env).columns (initialSettings env)
    return line ("Config file: " ++ env.configFile ++ "\n\n" ++ columns.text)
  | .path => return line env.configFile
  | .init force => do
    if !force then
      if ← Host.exists_ (m := m) env.configFile then
        fail ("Config file already exists at " ++ env.configFile ++ ". Use --force to overwrite.")
    save env (initialSettings env)
    return line ("Created config file at " ++ env.configFile)

def readDump (path : String) : Run m Dump := do
  let message := "Failed to read dump " ++ path
  let text ← orFail (fun _ => message) (← Host.readFile (m := m) path)
  orFail (fun _ => message) (Dump.read text)

def titles (text : String) : List String :=
  let lines := (Text.splitAll '\n' text.toList).map fun cs => String.ofList (Text.trim cs)
  lines.filter (· ≠ "")

def pages (s : Settings) : Option String → Run m PageAccess
  | some path => do
    let text ← orFail (fun _ => "Failed to read page list " ++ path)
      (← Host.readFile (m := m) path)
    return .listed (.ofTitles (titles text))
  | none => do return .site (← orFail QueryError.message (Site.ofBase s.checker.commonsBaseUrl))

def open_ (s : Settings) (dump : String) (pageFile : Option String) : Run m Session := do
  let d ← readDump dump
  let pages ← pages s pageFile
  if (SlowCheck.ofConfig? s.checker).isNone then throw .threshold
  let session : Session := { config := s.checker, pages, now := ← Host.now (m := m) }
  return session.withDump d

def usualStatuses : List Status := [.violation, .warning, .suggestion, .badParameters]

def query (r : CheckRequest) : Run m Query := do
  let entities ← r.entities.mapM fun id =>
    match EntityId.ofString? id with
    | some e => pure e
    | none => fail ("Invalid entity id: " ++ id)
  let statuses ← if r.statuses.isEmpty then pure usualStatuses
    else orFail SettingError.message (Status.listOf (",".intercalate r.statuses))
  return {
    entities, statuses
    claims := r.claims
    constraints := if r.constraints.isEmpty then none else some r.constraints }

/-- The database of a dump. Revisions begin anew with every dump, so each has its own. -/
def cacheFile (dataDir dump : String) : Run m String := do
  let folder := Paths.join dataDir "cache"
  orFail FileError.message (← Host.makeFolders (m := m) folder)
  let text ← orFail FileError.message (← Host.readFile (m := m) dump)
  return Paths.join folder (String.ofList ((Sha256.ofString text).toList.take 16) ++ ".redb")

variable {δ : Type} [Database δ] [DatabaseHost m δ]

def openCache (path : String) : Run m (DatabaseCache δ) := do
  let d ← orFail StorageError.message (← DatabaseHost.openDatabase (m := m) path)
  orFail StorageError.message (DatabaseCache.ofDatabase d)

def cachedResults (s : Session) (path : String) (q : Query) : Run m ResultSet := do
  let c ← openCache path
  let (results, c) := s.cachedSource.results c q
  orFail StorageError.message (← DatabaseHost.closeDatabase (m := m) path c.database)
  return results

def check (env : Environment) (request : Request) (r : CheckRequest) : Run m Outcome := do
  let s ← settings env
  let session ← open_ s r.dump r.pages
  let q ← query r
  let results ← if r.usesCache ∨ s.usesCache then do
      let path ← cacheFile (request.dataDir.getD s.dataDir) r.dump
      cachedResults session path q
    else pure (session.results q)
  let violated := results.results.any (·.status = .violation)
  return { line (results.report (request.reportFormat s)) with
    code := if r.failsOnViolation ∧ violated then 1 else 0 }

def constraints (env : Environment) (request : Request) (property dump : String) : Run m Outcome := do
  let some p := PropertyId.ofString? property | fail ("Invalid property id: " ++ property)
  let s ← settings env
  let session ← open_ s dump none
  return line ((ConstraintReport.ofAuditor session.auditor p).report (request.reportFormat s))

def completions (shell : String) : Option String → Run m Outcome
  | none => return { output := Completion.script shell }
  | some folder => do
    orFail FileError.message (← Host.makeFolders (m := m) folder)
    let path := Paths.join folder (Completion.fileName shell)
    orFail FileError.message (← Host.writeFile (m := m) path (Completion.script shell))
    return line ("Wrote " ++ path)

def act (env : Environment) (r : Request) : Run m Outcome :=
  match r.action with
  | .check c => check env r c
  | .constraints property dump => constraints env r property dump
  | .config c => config env c
  | .completions shell folder => completions shell folder

def stopped : Stop → Outcome
  | .help t => line t.helpText
  | .version => line (Topic.program.name ++ " " ++ version)
  | .usage t => {
      code := 2
      problem := "error: unexpected or missing arguments\n\n" ++ t.usage ++
        "\n\nFor more information, try '--help'." }

def run (env : Environment) (args : List String) : m Outcome :=
  match Request.read args with
  | .error s => pure (stopped s)
  | .ok r => do
    match ← (act env r).run with
    | .ok o => return o
    | .error f => return f.outcome

end Program

end EntityAudit
