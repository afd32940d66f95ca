import EntityAudit.Text.Hexadecimal

namespace EntityAudit.Url

def isControl (c : Char) : Bool := c.toNat < 0x20 || 0x7E < c.toNat

def isEscapedInFragment (c : Char) : Bool := isControl c || [' ', '"', '<', '>', '`'].contains c

def isEscapedInPath (c : Char) : Bool :=
  isEscapedInFragment c || ['#', '?', '\x7b', '\x7d'].contains c

def isEscapedInSegment (c : Char) : Bool := isEscapedInPath c || ['/', '%'].contains c

def isEscapedInQuery (c : Char) : Bool := isControl c || [' ', '"', '#', '<', '>'].contains c

def isEscapedInUser (c : Char) : Bool :=
  isEscapedInPath c || ['/', ':', ';', '=', '@', '[', '\\', ']', '^', '|'].contains c

def hexPair (b : UInt8) : List Char :=
  let digit (n : Nat) : Char := (Nat.digitChar n).toUpper
  [digit (b.toNat / 16), digit (b.toNat % 16)]

def escape (c : Char) : List Char := (String.utf8EncodeChar c).flatMap fun b => '%' :: hexPair b

def encode (isEscaped : Char → Bool) (cs : List Char) : List Char :=
  cs.flatMap fun c => if isEscaped c then escape c else [c]

def decodeBytes : List Char → List UInt8
  | [] => []
  | '%' :: a :: b :: r =>
    match Text.hexDigit? a, Text.hexDigit? b with
    | some x, some y => UInt8.ofNat (16 * x + y) :: decodeBytes r
    | _, _ => String.utf8EncodeChar '%' ++ decodeBytes (a :: b :: r)
  | c :: r => String.utf8EncodeChar c ++ decodeBytes r

def decode? (cs : List Char) : Option (List Char) :=
  (String.fromUTF8? ⟨(decodeBytes cs).toArray⟩).map (·.toList)

end EntityAudit.Url
