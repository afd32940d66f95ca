import EntityAudit.Decimal.Layout
import EntityAudit.Json.Basic

namespace EntityAudit.Json

def numberLayout : Decimal.Layout where
  positional exponent := -5 ≤ exponent ∧ exponent < 16
  whole := ".0"
  infinite := "null"
  undefinedText := "null"

def floatText (x : Float) : String :=
  if x.isFinite then numberLayout.text x else "null"

def controlText (c : Char) : String :=
  let digits := Nat.toDigits 16 c.toNat
  "\\u" ++ String.ofList (List.replicate (4 - digits.length) '0' ++ digits)

def escape (c : Char) : String :=
  if c = '"' then "\\\""
  else if c = '\\' then "\\\\"
  else if c.toNat = 8 then "\\b"
  else if c.toNat = 12 then "\\f"
  else if c = '\n' then "\\n"
  else if c = '\r' then "\\r"
  else if c = '\t' then "\\t"
  else if c.toNat < 0x20 then controlText c
  else c.toString

def quote (s : String) : String := "\"" ++ String.join (s.toList.map escape) ++ "\""

def scalarText : Json → String
  | null => "null"
  | bool true => "true"
  | bool false => "false"
  | integer n => toString n
  | float x => floatText x
  | text s => quote s
  | array _ => "[]"
  | object _ => "\x7b\x7d"

mutual

def compact : Json → String
  | array items => "[" ++ compactItems items ++ "]"
  | object members => "\x7b" ++ compactMembers members ++ "\x7d"
  | j => scalarText j

def compactItems : List Json → String
  | [] => ""
  | [j] => compact j
  | j :: js => compact j ++ "," ++ compactItems js

def compactMembers : List (String × Json) → String
  | [] => ""
  | [(name, j)] => quote name ++ ":" ++ compact j
  | (name, j) :: ms => quote name ++ ":" ++ compact j ++ "," ++ compactMembers ms

end

def newline (depth : Nat) : String := "\n" ++ String.ofList (List.replicate (2 * depth) ' ')

mutual

def indented (depth : Nat) : Json → String
  | array (j :: js) =>
    "[" ++ newline (depth + 1) ++ indentedItems (depth + 1) (j :: js) ++ newline depth ++ "]"
  | object (m :: ms) =>
    "\x7b" ++ newline (depth + 1) ++ indentedMembers (depth + 1) (m :: ms) ++ newline depth ++ "\x7d"
  | j => scalarText j

def indentedItems (depth : Nat) : List Json → String
  | [] => ""
  | [j] => indented depth j
  | j :: js => indented depth j ++ "," ++ newline depth ++ indentedItems depth js

def indentedMembers (depth : Nat) : List (String × Json) → String
  | [] => ""
  | [(name, j)] => quote name ++ ": " ++ indented depth j
  | (name, j) :: ms =>
    quote name ++ ": " ++ indented depth j ++ "," ++ newline depth ++ indentedMembers depth ms

end

def pretty (j : Json) : String := indented 0 j

def insertMember (m : String × Json) : List (String × Json) → List (String × Json)
  | [] => [m]
  | n :: ms => if m.1 < n.1 then m :: n :: ms else n :: insertMember m ms

mutual

def sortMembers : Json → Json
  | array items => array (sortItems items)
  | object members => object (sortAll members)
  | j => j

def sortItems : List Json → List Json
  | [] => []
  | j :: js => sortMembers j :: sortItems js

def sortAll : List (String × Json) → List (String × Json)
  | [] => []
  | (name, j) :: ms => insertMember (name, sortMembers j) (sortAll ms)

end

end EntityAudit.Json
