import EntityAudit.Moment
import EntityAudit.Ordered.Map
import EntityAudit.Text.Split

/-!
What the program needs around it: files, folders and a clock. A directory in memory offers the same;
the program runs on it as it does on a real one.
-/

namespace EntityAudit

inductive FileError where
  | missing
  | notFolder
  | isFolder
  | fileExists
  | other (reason : String)
  deriving DecidableEq

def FileError.message : FileError → String
  | missing => "No such file or directory (os error 2)"
  | notFolder => "Not a directory (os error 20)"
  | isFolder => "Is a directory (os error 21)"
  | fileExists => "File exists (os error 17)"
  | other reason => reason

class Host (m : Type → Type) where
  readFile : (path : String) → m (Except FileError String)
  exists_ : (path : String) → m Bool
  makeFolders : (path : String) → m (Except FileError Unit)
  writeFile : (path text : String) → m (Except FileError Unit)
  now : m Moment

namespace Paths

def join (folder name : String) : String :=
  if folder = "" ∨ folder.endsWith "/" then folder ++ name else folder ++ "/" ++ name

def folder (path : String) : String :=
  ((Text.splitLast? '/' path.toList).map fun (a, _) => String.ofList a).getD ""

end Paths

abbrev Location := List String

structure Directory where
  files : SortedMap Location String := SortedMap.empty
  folders : SortedSet Location := SortedMap.empty
  now : Moment

namespace Directory

variable (d : Directory)

def isFolder (p : Location) : Bool := p.isEmpty || p == ["/"] || d.folders.contains p

def follow (p : Location) : List String → Except FileError Location
  | [] => .ok p
  | name :: names =>
    if d.isFolder p then
      if name = "" ∨ name = "." then follow p names
      else if name = ".." then follow p.dropLast names
      else follow (p ++ [name]) names
    else .error (if d.files.contains p then .notFolder else .missing)

def names (path : String) : Location × List String :=
  let names := (Text.splitAll '/' path.toList).map String.ofList
  if path.startsWith "/" then (["/"], names) else ([], names)

def locate (path : String) : Except FileError Location :=
  if path = "" then .error .missing else d.follow (names path).1 (names path).2

def readFile (path : String) : Except FileError String := do
  let p ← d.locate path
  match d.files.get? p with
  | some text => return text
  | none => .error (if d.isFolder p then .isFolder else .missing)

def exists_ (path : String) : Bool :=
  match d.locate path with
  | .ok p => d.isFolder p || d.files.contains p
  | .error _ => false

def makeFolder (p : Location) : Except FileError Directory :=
  if d.isFolder p then .ok d
  else if d.files.contains p then .error .fileExists
  else .ok { d with folders := d.folders.insert p () }

def makeAll (d : Directory) (p : Location) : List String → Except FileError Directory
  | [] => .ok d
  | name :: names =>
    if name = "" ∨ name = "." then makeAll d p names
    else if name = ".." then makeAll d p.dropLast names
    else
      match d.makeFolder (p ++ [name]) with
      | .ok d => makeAll d (p ++ [name]) names
      | .error e => .error (if names.isEmpty then e else .notFolder)

def makeFolders (path : String) : Except FileError Directory := d.makeAll (names path).1 (names path).2

def writeFile (path text : String) : Except FileError Directory := do
  let p ← d.locate path
  if d.isFolder p then .error .isFolder else return { d with files := d.files.insert p text }

def step (change : Directory → Except FileError Directory) : StateM Directory (Except FileError Unit) :=
  fun d =>
    match change d with
    | .ok d => (.ok (), d)
    | .error e => (.error e, d)

instance : Host (StateM Directory) where
  readFile path := fun d => (d.readFile path, d)
  exists_ path := fun d => (d.exists_ path, d)
  makeFolders path := step (·.makeFolders path)
  writeFile path text := step (·.writeFile path text)
  now := fun d => (d.now, d)

def ofFiles (files : List (String × String)) (now : Moment) : Directory :=
  files.foldl (fun d (path, text) =>
    match d.makeFolders (Paths.folder path) >>= (·.writeFile path text) with
    | .ok d => d
    | .error _ => d) { now }

end Directory

end EntityAudit
