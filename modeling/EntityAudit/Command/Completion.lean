import EntityAudit.Command.Topic

namespace EntityAudit.Completion

def words : List String :=
  let topics := Topic.program :: Topic.commands
  (Topic.commands.map Topic.name ++ topics.flatMap fun t => t.options.map ("--" ++ ·.long)).eraseDups

def program : String := Topic.program.name

def script (shell : String) : String :=
  let all := " ".intercalate words
  match shell with
  | "bash" => "complete -W \"" ++ all ++ "\" " ++ program ++ "\n"
  | "elvish" =>
    "set edit:completion:arg-completer[" ++ program ++ "] = \x7b|@given| put " ++ all ++ " \x7d\n"
  | "fish" => "complete -c " ++ program ++ " -a \"" ++ all ++ "\"\n"
  | "powershell" =>
    "Register-ArgumentCompleter -Native -CommandName '" ++ program ++ "' -ScriptBlock \x7b '" ++
      all ++ "' -split ' ' \x7d\n"
  | _ => "#compdef " ++ program ++ "\ncompadd -- " ++ all ++ "\n"

def fileName (shell : String) : String :=
  match shell with
  | "bash" => program ++ ".bash"
  | "elvish" => program ++ ".elv"
  | "fish" => program ++ ".fish"
  | "powershell" => "_" ++ program ++ ".ps1"
  | _ => "_" ++ program

end EntityAudit.Completion
