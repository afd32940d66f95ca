import EntityAudit.Config
import EntityAudit.Decimal.Layout
import EntityAudit.Decimal.Reading
import EntityAudit.Text.Blank
import EntityAudit.Toml.Writer

namespace EntityAudit

structure Settings where
  dataDir : String
  format : String := "table"
  usesCache : Bool := false
  checker : Config := {}

inductive SettingKey where
  | dataDir
  | format
  | cache
  | typeCheckMaxDepth
  | useGraphQueryForTypes
  | graphQueryTimeoutMs
  | checkDurationInfoSeconds
  | checkDurationWarningSeconds
  | commonsBaseUrl
  | pageExistenceTimeoutMs
  | cachedStatuses
  deriving DecidableEq

namespace SettingKey

def all : List SettingKey := [
  dataDir, format, cache, typeCheckMaxDepth, useGraphQueryForTypes, graphQueryTimeoutMs,
  checkDurationInfoSeconds, checkDurationWarningSeconds, commonsBaseUrl, pageExistenceTimeoutMs,
  cachedStatuses]

def name : SettingKey → String
  | dataDir => "data_dir"
  | format => "format"
  | cache => "cache"
  | typeCheckMaxDepth => "checker.type_check_max_depth"
  | useGraphQueryForTypes => "checker.use_graph_query_for_types"
  | graphQueryTimeoutMs => "checker.graph_query_timeout_ms"
  | checkDurationInfoSeconds => "checker.check_duration_info_seconds"
  | checkDurationWarningSeconds => "checker.check_duration_warning_seconds"
  | commonsBaseUrl => "checker.commons_base_url"
  | pageExistenceTimeoutMs => "checker.page_existence_timeout_ms"
  | cachedStatuses => "checker.cached_statuses"

def ofName? (s : String) : Option SettingKey := all.find? (·.name = s)

def names : List String := all.map name

end SettingKey

inductive SettingError where
  | unknownKey (key : String)
  | invalidValue (key : SettingKey) (text : String)
  | unknownStatus (name : String)
  deriving DecidableEq

def SettingError.message : SettingError → String
  | unknownKey key =>
    "Unknown config key: " ++ key ++ " (available: " ++ ", ".intercalate SettingKey.names ++ ")"
  | invalidValue key text => "Invalid value for " ++ key.name ++ ": " ++ text
  | unknownStatus name => "Unknown status: " ++ name

namespace Status

def listOf (text : String) : Except SettingError (List Status) :=
  let names := (Text.splitAll ',' text.toList).map fun cs => String.ofList (Text.trim cs)
  (names.filter (· ≠ "")).mapM fun name =>
    match ofString? name with
    | some s => .ok s
    | none => .error (.unknownStatus name)

def listText (l : List Status) : String := ",".intercalate (l.map name)

end Status

namespace Settings

def boolText (b : Bool) : String := if b then "true" else "false"

def bool? (text : String) : Option Bool :=
  if text = "true" then some true else if text = "false" then some false else none

def get (s : Settings) : SettingKey → String
  | .dataDir => s.dataDir
  | .format => s.format
  | .cache => boolText s.usesCache
  | .typeCheckMaxDepth => toString s.checker.typeCheckMaxDepth
  | .useGraphQueryForTypes => boolText s.checker.useGraphQueryForTypes
  | .graphQueryTimeoutMs => toString s.checker.graphQueryTimeoutMs
  | .checkDurationInfoSeconds => Decimal.plain.text s.checker.checkDurationInfoSeconds
  | .checkDurationWarningSeconds => Decimal.plain.text s.checker.checkDurationWarningSeconds
  | .commonsBaseUrl => s.checker.commonsBaseUrl
  | .pageExistenceTimeoutMs => toString s.checker.pageExistenceTimeoutMs
  | .cachedStatuses => Status.listText s.checker.cachedStatuses

def valid {α : Type} (key : SettingKey) (text : String) : Option α → Except SettingError α
  | some a => .ok a
  | none => .error (.invalidValue key text)

/-- Changes of settings. They are there after a failure as well, with the changes made up to it. -/
abbrev Edit := ExceptT SettingError (StateM Settings)

def assign {α : Type} (value : Except SettingError α) (change : α → Settings → Settings) : Edit Unit := do
  let a ← MonadExcept.ofExcept value
  modify (change a)

def edit (key : SettingKey) (text : String) : Edit Unit :=
  let checker (change : Config → Config) (s : Settings) : Settings := { s with checker := change s.checker }
  match key with
  | .dataDir => assign (.ok text) fun t s => { s with dataDir := t }
  | .format => assign (.ok text) fun t s => { s with format := t }
  | .cache => assign (valid key text (bool? text)) fun b s => { s with usesCache := b }
  | .typeCheckMaxDepth =>
    assign (valid key text (Text.natural? UInt32.size text.toList)) fun n =>
      checker ({ · with typeCheckMaxDepth := n })
  | .useGraphQueryForTypes =>
    assign (valid key text (bool? text)) fun b => checker ({ · with useGraphQueryForTypes := b })
  | .graphQueryTimeoutMs =>
    assign (valid key text (Text.natural? UInt64.size text.toList)) fun n =>
      checker ({ · with graphQueryTimeoutMs := n })
  | .checkDurationInfoSeconds =>
    assign (valid key text (Decimal.float? text)) fun x => checker ({ · with checkDurationInfoSeconds := x })
  | .checkDurationWarningSeconds =>
    assign (valid key text (Decimal.float? text)) fun x => checker ({ · with checkDurationWarningSeconds := x })
  | .commonsBaseUrl => assign (.ok text) fun t => checker ({ · with commonsBaseUrl := t })
  | .pageExistenceTimeoutMs =>
    assign (valid key text (Text.natural? UInt64.size text.toList)) fun n =>
      checker ({ · with pageExistenceTimeoutMs := n })
  | .cachedStatuses => assign (Status.listOf text) fun l => checker ({ · with cachedStatuses := l })

def editNamed (name text : String) : Edit Unit :=
  match SettingKey.ofName? name with
  | some key => edit key text
  | none => throw (.unknownKey name)

def set (s : Settings) (key : SettingKey) (text : String) : Except SettingError Unit × Settings :=
  (edit key text).run s

def setNamed (s : Settings) (name text : String) : Except SettingError Unit × Settings :=
  (editNamed name text).run s

def getNamed? (s : Settings) (name : String) : Option String := (SettingKey.ofName? name).map s.get

def toJson (s : Settings) : Json :=
  .object [
    ("data_dir", .text s.dataDir),
    ("format", .text s.format),
    ("cache", .bool s.usesCache),
    ("checker", s.checker.toJson)]

def ofJson? (initial : Settings) (j : Json) : Option Settings := do
  let r ← j.record? ["data_dir", "format", "cache", "checker"]
  return {
    dataDir := ← r.defaulting? "data_dir" initial.dataDir Json.string?
    format := ← r.defaulting? "format" initial.format Json.string?
    usesCache := ← r.defaulting? "cache" initial.usesCache Json.bool?
    checker := ← r.defaulting? "checker" initial.checker Config.ofJson? }

def read (initial : Settings) (text : String) : Settings :=
  ((Toml.read? text).bind (ofJson? initial)).getD initial

def text? (s : Settings) : Option String := Toml.write? s.toJson

end Settings

end EntityAudit
