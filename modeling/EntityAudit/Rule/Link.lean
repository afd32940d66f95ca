import EntityAudit.Rule.Basic
import EntityAudit.Text.Quoted

namespace EntityAudit

namespace Message

def malformedLink (title : String) : Message :=
  ⟨"commons-link-not-well-formed", "The value " ++ Text.quoted title ++
    " should be a page name without namespace, underscores or escapes."⟩

def missingPage (base title : String) : Message :=
  ⟨"commons-link-no-existent", "The page " ++ base ++ title ++ " should exist."⟩

end Message

namespace Rule

def commonsLink : Rule where
  support := everywhere
  roles := Role.all
  problems config c := problem (Parameters.pageNamespace config c)
  verdict services context c := do
    let pageNamespace ← Parameters.pageNamespace services.config c
    return .settle do
      let text ← match ← context.requireValue with
        | .string s => pure s
        | v => throw (context.mismatch "string" v)
      if !PageTitle.isWellFormed text then
        return (Verdict.violation (.malformedLink text)).withParameter "namespace" [pageNamespace]
      let some pages := services.pages | return .todo
      let title := PageTitle.full pageNamespace text
      let v : Verdict := match pages title with
        | .ok true => .compliance
        | .ok false => .violation (.missingPage services.config.commonsBaseUrl title)
        | .error e => .violation (.queryFailed e)
      return v.withParameter "namespace" [pageNamespace]

end Rule

end EntityAudit
