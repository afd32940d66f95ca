import EntityAudit.Unicode.Category
import EntityAudit.Unicode.Property

namespace EntityAudit.Text

open Unicode in
/-- Separators other than the blank, control, format and private characters, unassigned code
points, and marks that extend the character before them. -/
def isHidden (c : Char) : Bool :=
  if c.toNat < 0x7F then c.toNat < 0x20
  else [Category.spaceSeparator, Category.lineSeparator, Category.paragraphSeparator,
    Category.control, Category.format, Category.privateUse, Category.unassigned,
    Property.graphemeExtend].any fun table => within table c

def escapeQuoted (c : Char) : String :=
  if c = '"' then "\\\""
  else if c = '\\' then "\\\\"
  else if c = '\n' then "\\n"
  else if c = '\r' then "\\r"
  else if c = '\t' then "\\t"
  else if c.toNat = 0 then "\\0"
  else if isHidden c then "\\u\x7b" ++ hexText c.toNat ++ "\x7d"
  else c.toString

def quoted (s : String) : String :=
  "\"" ++ String.join (s.toList.map escapeQuoted) ++ "\""

end EntityAudit.Text
