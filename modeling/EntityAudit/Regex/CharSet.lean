import EntityAudit.Unicode.Category
import EntityAudit.Unicode.Fold
import EntityAudit.Unicode.Property
import EntityAudit.Unicode.Script

namespace EntityAudit

structure CharSet where
  contains : Char → Bool
  spans : Nat := 1

namespace CharSet

open Unicode

def empty : CharSet := ⟨fun _ => false, 0⟩

def single (c : Char) : CharSet := { contains := (· == c) }

def between (low high : Char) : CharSet := { contains := fun c => decide (low ≤ c ∧ c ≤ high) }

def ofTables (tables : List (List Span)) : CharSet :=
  ⟨fun c => tables.any fun table => within table c, tables.foldl (fun n table => n + table.length) 0⟩

def union (s t : CharSet) : CharSet := ⟨fun c => s.contains c || t.contains c, s.spans + t.spans⟩

def intersection (s t : CharSet) : CharSet :=
  ⟨fun c => s.contains c && t.contains c, s.spans + t.spans⟩

def difference (s t : CharSet) : CharSet :=
  ⟨fun c => s.contains c && !t.contains c, s.spans + t.spans⟩

def symmetricDifference (s t : CharSet) : CharSet :=
  ⟨fun c => s.contains c != t.contains c, s.spans + t.spans⟩

def complement (s : CharSet) : CharSet := ⟨fun c => !s.contains c, s.spans + 1⟩

def negatedIf (negated : Bool) (s : CharSet) : CharSet := if negated then s.complement else s

def folded (s : CharSet) : CharSet :=
  ⟨fun c => (Fold.variants c.toNat).any fun n => n.isValidChar && s.contains (Char.ofNat n), 2 * s.spans⟩

def foldedAscii (s : CharSet) : CharSet :=
  ⟨fun c => s.contains c.toLower || s.contains c.toUpper, 2 * s.spans⟩

def among (chars : String) : CharSet := ⟨fun c => chars.toList.contains c, chars.length⟩

def word : CharSet :=
  ofTables [Property.alphabetic, Category.nonspacingMark, Category.spacingMark, Category.enclosingMark,
    Category.decimalNumber, Category.connectorPunctuation, Property.joinControl]

def digit : CharSet := ofTables [Category.decimalNumber]

def space : CharSet := ofTables [Property.whiteSpace]

def asciiDigit : CharSet := between '0' '9'

def asciiLetter : CharSet := union (between 'A' 'Z') (between 'a' 'z')

def asciiWord : CharSet := union (union asciiLetter asciiDigit) (single '_')

def asciiSpace : CharSet := union (between '\t' '\r') (single ' ')

def asciiClasses : List (String × CharSet) := [
  ("alnum", union asciiLetter asciiDigit),
  ("alpha", asciiLetter),
  ("ascii", between '\x00' '\x7f'),
  ("blank", among " \t"),
  ("cntrl", union (between '\x00' '\x1f') (single '\x7f')),
  ("digit", asciiDigit),
  ("graph", between '!' '~'),
  ("lower", between 'a' 'z'),
  ("print", between ' ' '~'),
  ("punct", difference (between '!' '~') (union asciiLetter asciiDigit)),
  ("space", asciiSpace),
  ("upper", between 'A' 'Z'),
  ("word", asciiWord),
  ("xdigit", union asciiDigit (union (between 'A' 'F') (between 'a' 'f')))]

def cased : List (List Span) :=
  [Category.uppercaseLetter, Category.lowercaseLetter, Category.titlecaseLetter]

def letter : List (List Span) := cased ++ [Category.modifierLetter, Category.otherLetter]

def mark : List (List Span) :=
  [Category.nonspacingMark, Category.spacingMark, Category.enclosingMark]

def number : List (List Span) :=
  [Category.decimalNumber, Category.letterNumber, Category.otherNumber]

def punctuation : List (List Span) :=
  [Category.connectorPunctuation, Category.dashPunctuation, Category.openPunctuation,
    Category.closePunctuation, Category.initialPunctuation, Category.finalPunctuation,
    Category.otherPunctuation]

def symbol : List (List Span) :=
  [Category.mathSymbol, Category.currencySymbol, Category.modifierSymbol, Category.otherSymbol]

def separator : List (List Span) :=
  [Category.spaceSeparator, Category.lineSeparator, Category.paragraphSeparator]

def other : List (List Span) :=
  [Category.control, Category.format, Category.unassigned, Category.privateUse]

def categories : List (List String × List (List Span)) := [
  (["c", "other"], other),
  (["cc", "control", "cntrl"], [Category.control]),
  (["cf", "format"], [Category.format]),
  (["cn", "unassigned"], [Category.unassigned]),
  (["co", "privateuse"], [Category.privateUse]),
  (["l", "letter"], letter),
  (["lc", "casedletter"], cased),
  (["ll", "lowercaseletter"], [Category.lowercaseLetter]),
  (["lm", "modifierletter"], [Category.modifierLetter]),
  (["lo", "otherletter"], [Category.otherLetter]),
  (["lt", "titlecaseletter"], [Category.titlecaseLetter]),
  (["lu", "uppercaseletter"], [Category.uppercaseLetter]),
  (["m", "mark", "combiningmark"], mark),
  (["mc", "spacingmark"], [Category.spacingMark]),
  (["me", "enclosingmark"], [Category.enclosingMark]),
  (["mn", "nonspacingmark"], [Category.nonspacingMark]),
  (["n", "number"], number),
  (["nd", "decimalnumber", "digit"], [Category.decimalNumber]),
  (["nl", "letternumber"], [Category.letterNumber]),
  (["no", "othernumber"], [Category.otherNumber]),
  (["p", "punctuation", "punct"], punctuation),
  (["pc", "connectorpunctuation"], [Category.connectorPunctuation]),
  (["pd", "dashpunctuation"], [Category.dashPunctuation]),
  (["pe", "closepunctuation"], [Category.closePunctuation]),
  (["pf", "finalpunctuation"], [Category.finalPunctuation]),
  (["pi", "initialpunctuation"], [Category.initialPunctuation]),
  (["po", "otherpunctuation"], [Category.otherPunctuation]),
  (["ps", "openpunctuation"], [Category.openPunctuation]),
  (["s", "symbol"], symbol),
  (["sc", "currencysymbol"], [Category.currencySymbol]),
  (["sk", "modifiersymbol"], [Category.modifierSymbol]),
  (["sm", "mathsymbol"], [Category.mathSymbol]),
  (["so", "othersymbol"], [Category.otherSymbol]),
  (["z", "separator"], separator),
  (["zl", "lineseparator"], [Category.lineSeparator]),
  (["zp", "paragraphseparator"], [Category.paragraphSeparator]),
  (["zs", "spaceseparator"], [Category.spaceSeparator])]

def properties : List (List String × List Span) := [
  (["alphabetic", "alpha"], Property.alphabetic),
  (["lowercase", "lower"], Property.lowercase),
  (["uppercase", "upper"], Property.uppercase),
  (["whitespace", "wspace", "space"], Property.whiteSpace),
  (["graphemeextend", "grext"], Property.graphemeExtend),
  (["joincontrol", "joinc"], Property.joinControl),
  (["cased"], Property.cased),
  (["caseignorable", "ci"], Property.caseIgnorable),
  (["hexdigit", "hex"], Property.hexDigit),
  (["asciihexdigit", "ahex"], Property.asciiHexDigit),
  (["dash"], Property.dash),
  (["ideographic", "ideo"], Property.ideographic),
  (["math"], Property.math),
  (["emoji"], Property.emoji),
  (["idstart", "ids"], Property.idStart),
  (["idcontinue", "idc"], Property.idContinue),
  (["xidstart", "xids"], Property.xidStart),
  (["xidcontinue", "xidc"], Property.xidContinue),
  (["quotationmark", "qmark"], Property.quotationMark),
  (["diacritic", "dia"], Property.diacritic),
  (["defaultignorablecodepoint", "di"], Property.defaultIgnorableCodePoint),
  (["terminalpunctuation", "term"], Property.terminalPunctuation)]

def normalized (name : List Char) : String :=
  let plain (cs : List Char) : List Char :=
    (cs.filter fun c => c.toNat < 128 ∧ c ≠ ' ' ∧ c ≠ '_' ∧ c ≠ '-').map Char.toLower
  match name with
  | i :: s :: rest =>
    if i.toLower = 'i' ∧ s.toLower = 's' then
      if plain rest = ['c'] then "isc" else String.ofList (plain rest)
    else String.ofList (plain name)
  | _ => String.ofList (plain name)

def category? (name : String) : Option CharSet :=
  match name with
  | "any" => some empty.complement
  | "assigned" => some (ofTables [Category.unassigned]).complement
  | "ascii" => some (between '\x00' '\x7f')
  | _ => (categories.find? (·.1.contains name)).map fun e => ofTables e.2

def script? (name : String) : Option CharSet :=
  let name := match name with
    | "qaai" => "zinh"
    | "qaac" => "copt"
    | _ => name
  (Script.all.find? fun s =>
    normalized s.shortName.toList = name || normalized s.longName.toList = name).map fun s =>
      ofTables [s.spans]

def named? (name : List Char) : Option CharSet :=
  let name := normalized name
  match properties.find? (·.1.contains name) with
  | some e => some (ofTables [e.2])
  | none => (category? name).or (script? name)

def withValue? (property value : List Char) : Option CharSet :=
  let property := normalized property
  if property = "gc" ∨ property = "generalcategory" then category? (normalized value)
  else if property = "sc" ∨ property = "script" then script? (normalized value)
  else none

end CharSet

end EntityAudit
