/-!
The commands of the program and what each of them takes: options, which begin with hyphens, and
operands. The options of the program itself may follow any command.
-/

namespace EntityAudit

inductive Topic where
  | program
  | check
  | constraints
  | config
  | configGet
  | configSet
  | configUnset
  | configList
  | configPath
  | configInit
  | completions
  deriving DecidableEq, Repr

namespace Topic

inductive OptionKind where
  | flag
  | count
  | single (valueName : String)
  | path (valueName : String)
  | many (valueName : String)
  deriving DecidableEq, Repr

structure Opt where
  long : String
  short : Option Char := none
  kind : OptionKind
  isRequired : Bool := false
  help : String
  deriving DecidableEq, Repr

structure Operand where
  name : String
  help : String
  repeats : Bool := false
  choices : List String := []

def Opt.takesValue (o : Opt) : Bool :=
  match o.kind with
  | .flag | .count => false
  | .single _ | .path _ | .many _ => true

def Opt.repeats (o : Opt) : Bool :=
  match o.kind with
  | .count | .many _ => true
  | .flag | .single _ | .path _ => false

def name : Topic → String
  | program => "claimcheck"
  | check => "check"
  | constraints => "constraints"
  | config => "config"
  | configGet => "get"
  | configSet => "set"
  | configUnset => "unset"
  | configList => "list"
  | configPath => "path"
  | configInit => "init"
  | completions => "completions"

def fullName (t : Topic) : String :=
  match t with
  | program => program.name
  | check | constraints | config | completions => program.name ++ " " ++ t.name
  | _ => program.name ++ " " ++ config.name ++ " " ++ t.name

def about : Topic → String
  | program => "Check entity statements against property constraints"
  | check => "Check entities against the constraints of their properties"
  | constraints => "List the constraints of a property and their parameter problems"
  | config => "Manage configuration"
  | configGet => "Get a config value"
  | configSet => "Set a config value"
  | configUnset => "Reset a config value to its default"
  | configList => "List all config values"
  | configPath => "Show config file path"
  | configInit => "Write a config file holding every default"
  | completions => "Generate shell completions"

def subtopics : Topic → List Topic
  | program => [check, constraints, config, completions]
  | config => [configGet, configSet, configUnset, configList, configPath, configInit]
  | _ => []

def commands : List Topic := program.subtopics ++ config.subtopics

def sub? (t : Topic) (name : String) : Option Topic := t.subtopics.find? (·.name = name)

def sharedOptions : List Opt := [
  { long := "data-dir", short := some 'd', kind := .single "DATA_DIR"
    help := "Data directory (result cache)" },
  { long := "format", short := some 'f', kind := .single "FORMAT"
    help := "Output format: table, json" },
  { long := "verbose", short := some 'v', kind := .count
    help := "Verbosity level (-v, -vv, -vvv)" },
  { long := "quiet", short := some 'q', kind := .flag
    help := "Suppress output except errors" }]

def helpOption : Opt := { long := "help", short := some 'h', kind := .flag, help := "Print help" }

def versionOption : Opt :=
  { long := "version", short := some 'V', kind := .flag, help := "Print version" }

def ownOptions : Topic → List Opt
  | check => [
    { long := "claim", kind := .many "CLAIMS", help := "Statement GUIDs to check" },
    { long := "dump", kind := .path "DUMP", isRequired := true
      help := "Entity dump (JSON) holding the entities and property constraints" },
    { long := "status", short := some 's', kind := .many "STATUS"
      help := "Statuses to report, comma separated or repeated" },
    { long := "constraint", short := some 'c', kind := .many "CONSTRAINT"
      help := "Only check these constraint ids" },
    { long := "pages", kind := .path "PAGES"
      help := "File of existing wiki page titles, one per line; without it pages are looked up " ++
        "over HTTP under `checker.commons_base_url`" },
    { long := "cache", kind := .flag, help := "Use the persistent result cache" },
    { long := "fail-on-violation", kind := .flag
      help := "Exit with status 1 when a violation is reported" }]
  | constraints => [
    { long := "dump", kind := .path "DUMP", isRequired := true
      help := "Entity dump (JSON) holding the property entity" }]
  | configInit => [{ long := "force", kind := .flag, help := "Overwrite existing config" }]
  | completions => [
    { long := "out-dir", kind := .path "OUT_DIR"
      help := "Write the script into this directory instead of stdout" }]
  | _ => []

def closingOptions : Topic → List Opt
  | program => [helpOption, versionOption]
  | _ => [helpOption]

def options (t : Topic) : List Opt := t.ownOptions ++ sharedOptions ++ t.closingOptions

def shells : List String := ["bash", "elvish", "fish", "powershell", "zsh"]

def operands : Topic → List Operand
  | check => [{ name := "ENTITIES", help := "Entities to check (e.g. Q42)", repeats := true }]
  | constraints => [
    { name := "PROPERTY", help := "Property whose constraints to list (e.g. P31)" }]
  | configGet => [
    { name := "KEY", help := "Config key name, e.g. checker.type_check_max_depth" }]
  | configSet => [
    { name := "KEY", help := "Config key name" },
    { name := "VALUE", help := "New value" }]
  | configUnset => [{ name := "KEY", help := "Config key name" }]
  | completions => [
    { name := "SHELL", help := "Shell to generate completions for", choices := shells }]
  | _ => []

def long? (t : Topic) (name : String) : Option Opt := t.options.find? (·.long = name)

def short? (t : Topic) (c : Char) : Option Opt := t.options.find? (·.short = some c)

end Topic

end EntityAudit
