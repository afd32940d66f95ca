import EntityAudit.Decimal.Layout
import EntityAudit.Toml.Reader

/-!
Writing TOML: plain values before tables, tables under headers with their full path. An integer above
2^63 - 1 and a missing value cannot be written.
-/

namespace EntityAudit.Toml

def numberLayout : Decimal.Layout where
  positional _ := true
  whole := ".0"
  infinite := "inf"
  undefinedText := "nan"

def keyText (key : String) : String :=
  if key ≠ "" ∧ key.toList.all isBare then key else quote key

mutual

def inlineText? : Json → Option String
  | .null => none
  | .bool b => some (if b then "true" else "false")
  | .integer n => if n < 9223372036854775808 then some (toString n) else none
  | .float x => some (numberLayout.text x)
  | .text s => some (quote s)
  | .array items => do return "[" ++ (← itemsText? items) ++ "]"
  | .object members => do return "\x7b" ++ (← membersText? members) ++ "\x7d"

def itemsText? : List Json → Option String
  | [] => some ""
  | [j] => inlineText? j
  | j :: js => do return (← inlineText? j) ++ ", " ++ (← itemsText? js)

def membersText? : List (String × Json) → Option String
  | [] => some ""
  | [(key, j)] => do return keyText key ++ " = " ++ (← inlineText? j)
  | (key, j) :: ms => do return keyText key ++ " = " ++ (← inlineText? j) ++ ", " ++ (← membersText? ms)

end

mutual

def plainLines? : List (String × Json) → Option String
  | [] => some ""
  | (_, .object _) :: ms => plainLines? ms
  | (key, j) :: ms => do return keyText key ++ " = " ++ (← inlineText? j) ++ "\n" ++ (← plainLines? ms)

def tableLines? (path : String) : List (String × Json) → Option String
  | [] => some ""
  | (key, .object sub) :: ms => do
    let path' := if path = "" then keyText key else path ++ "." ++ keyText key
    return "\n[" ++ path' ++ "]\n" ++ (← plainLines? sub) ++ (← tableLines? path' sub) ++
      (← tableLines? path ms)
  | _ :: ms => tableLines? path ms

end

def write? : Json → Option String
  | .object ms => do return (← plainLines? ms) ++ (← tableLines? "" ms)
  | _ => none

end EntityAudit.Toml
