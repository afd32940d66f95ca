import EntityAudit.Regex.Reader

namespace EntityAudit

/-- A library for regular expressions: what it compiles patterns to, and the search for a match somewhere in a text. -/
structure Engine where
  Program : Type
  compile? : String → Option Program
  isMatch : Program → String → Bool

namespace Engine

def usual : Engine := ⟨Regex, Pattern.read?, Regex.isMatch⟩

end Engine

end EntityAudit
