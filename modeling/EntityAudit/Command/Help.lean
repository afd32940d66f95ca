import EntityAudit.Command.Topic

namespace EntityAudit

namespace Topic

def Opt.spec (o : Opt) : String :=
  "--" ++ o.long ++
    match o.kind with
    | .flag => ""
    | .count => "..."
    | .single v | .path v | .many v => " <" ++ v ++ ">"

def Operand.spec (o : Operand) : String :=
  if o.repeats then "[" ++ o.name ++ "]..." else "<" ++ o.name ++ ">"

def Operand.fullHelp (o : Operand) : String :=
  if o.choices.isEmpty then o.help
  else o.help ++ " [possible values: " ++ ", ".intercalate o.choices ++ "]"

def Opt.sortKey (o : Opt) : String := (o.short.map fun c => String.ofList [c, '0']).getD o.long

/-- The order in lists: own and shared options alternate, each kind in its own order, the one with
the smaller name first. -/
def merged : List Opt → List Opt → List Opt
  | [], l => l
  | l, [] => l
  | a :: as, b :: bs =>
    if a.sortKey < b.sortKey then a :: b :: merged as bs else b :: a :: merged as bs

def listedOptions (t : Topic) : List Opt := merged t.ownOptions sharedOptions ++ t.closingOptions

def usage (t : Topic) : String :=
  let required := (t.ownOptions.filter (·.isRequired)).map (·.spec)
  let command := if t.subtopics.isEmpty then [] else ["<COMMAND>"]
  "Usage: " ++ " ".intercalate (t.fullName :: "[OPTIONS]" :: required ++ t.operands.map (·.spec) ++ command)

def lineWidth : Nat := 100

def wrapped (width : Nat) (done : String) : List String → List String
  | [] => [done]
  | w :: ws =>
    if done.length + 1 + w.length ≤ width then wrapped width (done ++ " " ++ w) ws
    else done :: wrapped width w ws

def blanks (n : Nat) : String := String.ofList (List.replicate n ' ')

def entry (column : Nat) (term text : String) : String :=
  let lines := match text.splitOn " " with
    | [] => []
    | w :: ws => wrapped (lineWidth - column) w ws
  term ++ blanks (column - term.length) ++ ("\n" ++ blanks column).intercalate lines

def list (title : String) (entries : List (String × String)) : List String :=
  if entries.isEmpty then []
  else
    let column := entries.foldl (fun n e => max n e.1.length) 0 + 2
    [title ++ ":\n" ++ "\n".intercalate (entries.map fun (term, text) => entry column term text)]

def optionTerm (o : Opt) : String :=
  "  " ++ ((o.short.map fun c => String.ofList ['-', c, ',', ' ']).getD "    ") ++ o.spec

def helpText (t : Topic) : String :=
  let commands := t.subtopics.map fun s => ("  " ++ s.name, s.about)
  let commands := if commands.isEmpty then [] else
    commands ++ [("  help", "Print this message or the help of the given subcommand(s)")]
  "\n\n".intercalate ([t.about, t.usage] ++ list "Commands" commands ++
    list "Arguments" (t.operands.map fun o => ("  " ++ o.spec, o.fullHelp)) ++
    list "Options" (t.listedOptions.map fun o => (optionTerm o, o.help)))

end Topic

end EntityAudit
