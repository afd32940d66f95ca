import EntityAudit.Text.Hexadecimal

namespace EntityAudit.Toml

def isBlank (c : Char) : Bool := c = ' ' || c = '\t'

def isPlain (c : Char) : Bool := c = '\t' || (0x20 ≤ c.toNat && c.toNat != 0x7F)

def dropNewline : List Char → List Char
  | '\n' :: r => r
  | '\r' :: '\n' :: r => r
  | cs => cs

def startsLine : List Char → Bool
  | '\n' :: _ => true
  | '\r' :: '\n' :: _ => true
  | _ => false

namespace Quoted

abbrev Read := Option (List Char × List Char)

def push (c : Char) (r : Read) : Read := r.map fun (t, rest) => (c :: t, rest)

def escaped? : Char → Option Char
  | 'b' => some (Char.ofNat 8)
  | 't' => some '\t'
  | 'n' => some '\n'
  | 'f' => some (Char.ofNat 12)
  | 'r' => some '\r'
  | '"' => some '"'
  | '\\' => some '\\'
  | _ => none

def byNumber? (digits : List Char) : Option Char := do
  let n ← Text.hex? digits
  if n.isValidChar then some (Char.ofNat n) else none

def basic? : List Char → Read
  | [] => none
  | '"' :: r => some ([], r)
  | '\\' :: 'u' :: a :: b :: c :: d :: r => do push (← byNumber? [a, b, c, d]) (basic? r)
  | '\\' :: 'U' :: a :: b :: c :: d :: e :: f :: g :: h :: r => do
    push (← byNumber? [a, b, c, d, e, f, g, h]) (basic? r)
  | '\\' :: c :: r => do push (← escaped? c) (basic? r)
  | c :: r => if isPlain c then push c (basic? r) else none

def literal? : List Char → Read
  | [] => none
  | '\'' :: r => some ([], r)
  | c :: r => if isPlain c then push c (literal? r) else none

/-- Up to three closing quotes; up to two more before them belong to the text. A backslash at the end
of a line leaves out all blanks and newlines that follow. -/
def basicBlock? (skipping : Bool) : List Char → Read
  | [] => none
  | '"' :: '"' :: '"' :: '"' :: '"' :: r => some (['"', '"'], r)
  | '"' :: '"' :: '"' :: '"' :: r => some (['"'], r)
  | '"' :: '"' :: '"' :: r => some ([], r)
  | '\r' :: '\n' :: r => if skipping then basicBlock? true r else push '\n' (basicBlock? false r)
  | '\\' :: 'u' :: a :: b :: c :: d :: r => do
    push (← byNumber? [a, b, c, d]) (basicBlock? false r)
  | '\\' :: 'U' :: a :: b :: c :: d :: e :: f :: g :: h :: r => do
    push (← byNumber? [a, b, c, d, e, f, g, h]) (basicBlock? false r)
  | '\\' :: c :: r =>
    match escaped? c with
    | some d => push d (basicBlock? false r)
    | none => if startsLine ((c :: r).dropWhile isBlank) then basicBlock? true (c :: r) else none
  | c :: r =>
    if c = '\n' then if skipping then basicBlock? true r else push c (basicBlock? false r)
    else if skipping && isBlank c then basicBlock? true r
    else if isPlain c then push c (basicBlock? false r)
    else none

def literalBlock? : List Char → Read
  | [] => none
  | '\'' :: '\'' :: '\'' :: '\'' :: '\'' :: r => some (['\'', '\''], r)
  | '\'' :: '\'' :: '\'' :: '\'' :: r => some (['\''], r)
  | '\'' :: '\'' :: '\'' :: r => some ([], r)
  | '\r' :: '\n' :: r => push '\n' (literalBlock? r)
  | c :: r => if c = '\n' || isPlain c then push c (literalBlock? r) else none

def line? : List Char → Read
  | '"' :: r => basic? r
  | '\'' :: r => literal? r
  | _ => none

def text? : List Char → Read
  | '"' :: '"' :: '"' :: r => basicBlock? false (dropNewline r)
  | '\'' :: '\'' :: '\'' :: r => literalBlock? (dropNewline r)
  | cs => line? cs

end Quoted

def escape (c : Char) : String :=
  if c = '"' then "\\\""
  else if c = '\\' then "\\\\"
  else if isPlain c then c.toString
  else
    let digits := Text.hexText c.toNat
    "\\u" ++ String.ofList (List.replicate (4 - digits.length) '0') ++ digits

def quote (s : String) : String := "\"" ++ String.join (s.toList.map escape) ++ "\""

end EntityAudit.Toml
