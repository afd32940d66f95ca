import EntityAudit.Regex.Engine
import EntityAudit.Rule.Basic
import EntityAudit.Text.Quoted

namespace EntityAudit

namespace Message

def formatMismatch (text pattern : String) : Message :=
  ⟨"format", "The value " ++ Text.quoted text ++ " does not match the pattern " ++ pattern ++ "."⟩

end Message

namespace Parameters

def anchored (pattern : String) : String := "^(?:" ++ pattern ++ ")$"

def regex (E : Engine) (config : Config) (pattern : String) : Read E.Program :=
  match E.compile? (anchored pattern) with
  | some r => .ok r
  | none => .error (.invalidPattern config.parameters.format pattern)

end Parameters

abbrev Compiled (E : Engine) := SortedMap String E.Program

namespace Compiled

variable {E : Engine}

def regex (compiled : Compiled E) (config : Config) (pattern : String) : Parameters.Read E.Program :=
  match compiled.get? pattern with
  | some r => .ok r
  | none => Parameters.regex E config pattern

def keep (compiled : Compiled E) (pattern : String) : Compiled E :=
  match compiled.get? pattern with
  | some _ => compiled
  | none =>
    match E.compile? (Parameters.anchored pattern) with
    | some r => compiled.insert pattern r
    | none => compiled

end Compiled

namespace Rule

def matching (context : Context) (isMatch : String → Bool) (pattern : String) : Verdict :=
  .settle do
    let text ← match ← context.requireValue with
      | .string s => pure s
      | .monolingual t => pure t.text
      | v => throw (context.mismatch "string" v)
    return (Verdict.of (isMatch text) (.formatMismatch text pattern)).withParameter "pattern"
      [pattern]

def formatWith (E : Engine) (compiled : Compiled E) : Rule where
  support := everywhere
  roles := Role.all
  problems config c := problem (do compiled.regex config (← Parameters.format config c))
  verdict services context c := do
    let pattern ← Parameters.format services.config c
    return matching context (E.isMatch (← compiled.regex services.config pattern)) pattern

def format : Rule := formatWith .usual SortedMap.empty

end Rule

end EntityAudit
