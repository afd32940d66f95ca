import EntityAudit.Program

namespace EntityAudit.Main

def fileError : IO.Error → FileError
  | .noFileOrDirectory .. => .missing
  | .alreadyExists .. => .fileExists
  | e => .other (toString e)

def attempt {α : Type} (action : IO α) : IO (Except FileError α) := do
  try return .ok (← action) catch e => return .error (fileError e)

def field? (name text : String) : Option Nat :=
  ((text.splitOn "\n").filterMap fun line =>
    match line.splitOn " " with
    | [a, b] => if a = name then b.toNat? else none
    | _ => none).head?

def now : IO Moment := do
  let started := (field? "btime" (← IO.FS.readFile "/proc/stat")).getD 0
  let running := (((← IO.FS.readFile "/proc/uptime").splitOn ".").head?.bind (·.toNat?)).getD 0
  return { seconds := started + running }

instance : Host IO where
  readFile path := attempt (IO.FS.readFile path)
  exists_ path := do
    match ← attempt (IO.FS.Handle.mk path .read) with
    | .ok _ => return true
    | .error _ => return false
  makeFolders path := attempt (IO.FS.createDirAll path)
  writeFile path text := attempt (IO.FS.writeFile path text)
  now := now

def dataHome : IO String := do
  match ← IO.getEnv "XDG_DATA_HOME", ← IO.getEnv "HOME" with
  | some path, home => if path.startsWith "/" then return path else return ofHome home
  | none, home => return ofHome home
where
  ofHome (home : Option String) : String :=
    match home with
    | some path => if path = "" then "." else Paths.join path ".local/share"
    | none => "."

def environment : IO Environment := do
  let dataDir := Paths.join (← dataHome) "claimcheck"
  let configFile := (← IO.getEnv "CLAIMCHECK_CONFIG").getD (Paths.join dataDir "config.toml")
  return { configFile, dataDir }

end EntityAudit.Main

def main (args : List String) : IO UInt32 := do
  let outcome : EntityAudit.Outcome ← EntityAudit.Program.run (← EntityAudit.Main.environment) args
  IO.print outcome.output
  if outcome.problem ≠ "" then IO.eprintln outcome.problem
  return UInt32.ofNat outcome.code
