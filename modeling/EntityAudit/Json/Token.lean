import EntityAudit.Decimal.Reading
import EntityAudit.Json.Basic
import EntityAudit.Text.Hexadecimal

/-!
The tokens of JSON text, read one at a time. Every token is at least one character long
(`next?_shorter`), so reading a text token by token ends.
-/

namespace EntityAudit.Json

inductive Token where
  | openArray
  | closeArray
  | openObject
  | closeObject
  | comma
  | colon
  | text (s : String)
  | scalar (j : Json)

namespace Token

def isBlank (c : Char) : Bool := c = ' ' ∨ c = '\n' ∨ c = '\t' ∨ c = '\r'

def unit? (a b c d : Char) : Option Nat := Text.hex? [a, b, c, d]

def pair? (high low : Nat) : Option Char :=
  if 0xD800 ≤ high ∧ high < 0xDC00 ∧ 0xDC00 ≤ low ∧ low < 0xE000 then
    some (Char.ofNat (0x10000 + (high - 0xD800) * 0x400 + (low - 0xDC00)))
  else none

def single? (n : Nat) : Option Char :=
  if 0xD800 ≤ n ∧ n < 0xE000 then none else some (Char.ofNat n)

def escaped? : Char → Option Char
  | '"' => some '"'
  | '\\' => some '\\'
  | '/' => some '/'
  | 'b' => some (Char.ofNat 8)
  | 'f' => some (Char.ofNat 12)
  | 'n' => some '\n'
  | 'r' => some '\r'
  | 't' => some '\t'
  | _ => none

def char? : List Char → Option (Option Char × List Char)
  | '"' :: r => some (none, r)
  | '\\' :: 'u' :: a :: b :: c :: d :: r =>
    (unit? a b c d).bind fun n =>
      match single? n, r with
      | some ch, r => some (some ch, r)
      | none, '\\' :: 'u' :: e :: f :: g :: h :: r' =>
        (unit? e f g h).bind fun m => (pair? n m).map fun ch => (some ch, r')
      | none, _ => none
  | '\\' :: c :: r => (escaped? c).map fun ch => (some ch, r)
  | c :: r => if c.toNat < 0x20 then none else some (some c, r)
  | [] => none

theorem char?_shorter {cs r : List Char} {o : Option Char} (h : char? cs = some (o, r)) :
    r.length < cs.length := by
  unfold char? at h
  split at h
  · simp at h; simp [h]
  · obtain ⟨n, -, hn⟩ := Option.bind_eq_some_iff.1 h
    split at hn
    · simp at hn; simp [hn]; omega
    · obtain ⟨m, -, hm⟩ := Option.bind_eq_some_iff.1 hn
      obtain ⟨ch, -, hc⟩ := Option.map_eq_some_iff.1 hm
      simp at hc; simp [← hc.2]; omega
    · simp at hn
  · obtain ⟨ch, -, hc⟩ := Option.map_eq_some_iff.1 h
    simp only [Prod.mk.injEq] at hc
    simp only [← hc.2, List.length_cons]; omega
  · split at h
    · simp at h
    · simp at h; simp [h]
  · simp at h

def text? (cs : List Char) : Option (List Char × List Char) :=
  match h : char? cs with
  | none => none
  | some (none, r) => some ([], r)
  | some (some c, r) =>
    have := char?_shorter h
    (text? r).map fun (t, r') => (c :: t, r')
termination_by cs.length

theorem text?_shorter {cs t r : List Char} (h : text? cs = some (t, r)) : r.length < cs.length := by
  fun_induction text? cs generalizing t with
  | case1 => simp at h
  | case2 cs r' hc => simp at h; simpa [← h.2] using char?_shorter hc
  | case3 cs c r' hc this ih =>
    obtain ⟨⟨t', r''⟩, ht, he⟩ := Option.map_eq_some_iff.1 h
    simp at he
    have := ih (he.2 ▸ ht)
    have := char?_shorter hc
    omega

def significand (start : Nat) : List Char → Nat × Nat
  | [] => (start, 0)
  | c :: r =>
    match Text.digit? c with
    | none => (start, 0)
    | some d =>
      if 10 * start + d < UInt64.size then significand (10 * start + d) r else (start, (c :: r).length)

def scaleDown : Nat → Float → Nat → Float
  | 0, x, _ => x
  | fuel + 1, x, e =>
    if e ≤ 308 then x / Decimal.nearest 1 e
    else if x == 0.0 then x
    else scaleDown fuel (x / 1e308) (e - 308)

/-- The significand as a binary number, multiplied or divided by the power of ten; each of the
two steps rounds. None if the product is too large. -/
def scale? (significand : Nat) (exponent : Int) : Option Float :=
  let x := Float.ofNat significand
  if exponent ≤ 0 then some (scaleDown (exponent.natAbs / 308 + 1) x exponent.natAbs)
  else if exponent ≤ 308 then
    let y := x * Decimal.nearest 1 exponent
    if y.isInf then none else some y
  else if significand = 0 then some x
  else none

def power? : List Char → Option Int
  | [] => some 0
  | e :: cs =>
    if e = 'e' ∨ e = 'E' then
      match cs with
      | '-' :: ds => (Text.digits? ds).map fun n => -(n : Int)
      | '+' :: ds => (Text.digits? ds).map fun n => (n : Int)
      | ds => (Text.digits? ds).map fun n => (n : Int)
    else none

def magnitude? (cs : List Char) : Option (Nat ⊕ Float) :=
  let whole := cs.takeWhile Text.isDigit
  let rest := cs.dropWhile Text.isDigit
  let fraction? : Option (List Char × List Char) := match rest with
    | '.' :: r =>
      let f := r.takeWhile Text.isDigit
      if f.isEmpty then none else some (f, r.dropWhile Text.isDigit)
    | r => some ([], r)
  match fraction? with
  | none => none
  | some (fraction, tail) =>
    if whole.isEmpty ∨ (whole.head? = some '0' ∧ 1 < whole.length) then none
    else
      let (n, dropped) := significand 0 whole
      if rest.isEmpty ∧ dropped = 0 then some (.inl n)
      else match power? tail with
        | none => none
        | some e =>
          let (m, left) := significand n fraction
          let e' := e + dropped - (fraction.length - left : Nat)
          let bounded := max (-2147483648) (min 2147483648 e')
          (scale? m bounded).map .inr

/-- Integers from -2^63 up to 2^64 - 1 stay exact; minus zero and larger ones are binary. -/
def number? : List Char → Option Json
  | '-' :: cs => (magnitude? cs).map fun
    | .inl n => if n = 0 ∨ 9223372036854775808 < n then float (-Float.ofNat n) else integer (-(n : Int))
    | .inr x => float (-x)
  | cs => (magnitude? cs).map fun
    | .inl n => integer n
    | .inr x => float x

def isNumeric (c : Char) : Bool :=
  Text.isDigit c || c = '+' || c = '-' || c = '.' || c = 'e' || c = 'E'

def start? (c : Char) (r : List Char) : Option (Token × List Char) :=
  if c = '[' then some (openArray, r)
  else if c = ']' then some (closeArray, r)
  else if c = '\x7b' then some (openObject, r)
  else if c = '\x7d' then some (closeObject, r)
  else if c = ',' then some (comma, r)
  else if c = ':' then some (colon, r)
  else if c = '"' then (text? r).map fun (t, r') => (text (String.ofList t), r')
  else if isNumeric c then
    (number? (c :: r.takeWhile isNumeric)).map fun j => (scalar j, r.dropWhile isNumeric)
  else match c, r with
    | 't', 'r' :: 'u' :: 'e' :: r' => some (scalar (bool true), r')
    | 'f', 'a' :: 'l' :: 's' :: 'e' :: r' => some (scalar (bool false), r')
    | 'n', 'u' :: 'l' :: 'l' :: r' => some (scalar null, r')
    | _, _ => none

theorem start?_shorter {c : Char} {r r' : List Char} {t : Token} (h : start? c r = some (t, r')) :
    r'.length ≤ r.length := by
  unfold start? at h
  repeat' split at h
  all_goals first
    | (simp at h; simp [h]; done)
    | skip
  · obtain ⟨⟨s, r''⟩, ht, he⟩ := Option.map_eq_some_iff.1 h
    simp at he
    have := text?_shorter ht
    rw [← he.2]; omega
  · obtain ⟨j, -, he⟩ := Option.map_eq_some_iff.1 h
    simp at he
    rw [← he.2]
    exact (List.dropWhile_sublist _).length_le
  all_goals simp at h; try simp [← h.2]; try omega

def next? : List Char → Option (Token × List Char)
  | [] => none
  | c :: r => if isBlank c then next? r else start? c r

theorem next?_shorter {cs r : List Char} {t : Token} (h : next? cs = some (t, r)) :
    r.length < cs.length := by
  induction cs with
  | nil => simp [next?] at h
  | cons c cs ih =>
    unfold next? at h
    split at h
    · have := ih h; simp; omega
    · have := start?_shorter h; simp; omega

end Token

end EntityAudit.Json
