namespace EntityAudit.Sha256

structure State where
  a : UInt32
  b : UInt32
  c : UInt32
  d : UInt32
  e : UInt32
  f : UInt32
  g : UInt32
  h : UInt32
  deriving DecidableEq

def State.initial : State :=
  ⟨0x6a09e667, 0xbb67ae85, 0x3c6ef372, 0xa54ff53a, 0x510e527f, 0x9b05688c, 0x1f83d9ab, 0x5be0cd19⟩

def constants : List UInt32 := [
  0x428a2f98, 0x71374491, 0xb5c0fbcf, 0xe9b5dba5, 0x3956c25b, 0x59f111f1, 0x923f82a4, 0xab1c5ed5,
  0xd807aa98, 0x12835b01, 0x243185be, 0x550c7dc3, 0x72be5d74, 0x80deb1fe, 0x9bdc06a7, 0xc19bf174,
  0xe49b69c1, 0xefbe4786, 0x0fc19dc6, 0x240ca1cc, 0x2de92c6f, 0x4a7484aa, 0x5cb0a9dc, 0x76f988da,
  0x983e5152, 0xa831c66d, 0xb00327c8, 0xbf597fc7, 0xc6e00bf3, 0xd5a79147, 0x06ca6351, 0x14292967,
  0x27b70a85, 0x2e1b2138, 0x4d2c6dfc, 0x53380d13, 0x650a7354, 0x766a0abb, 0x81c2c92e, 0x92722c85,
  0xa2bfe8a1, 0xa81a664b, 0xc24b8b70, 0xc76c51a3, 0xd192e819, 0xd6990624, 0xf40e3585, 0x106aa070,
  0x19a4c116, 0x1e376c08, 0x2748774c, 0x34b0bcb5, 0x391c0cb3, 0x4ed8aa4a, 0x5b9cca4f, 0x682e6ff3,
  0x748f82ee, 0x78a5636f, 0x84c87814, 0x8cc70208, 0x90befffa, 0xa4506ceb, 0xbef9a3f7, 0xc67178f2]

def rotate (x : UInt32) (n : UInt32) : UInt32 := (x >>> n) ||| (x <<< (32 - n))

def round (s : State) (k w : UInt32) : State :=
  let mix := rotate s.e 6 ^^^ rotate s.e 11 ^^^ rotate s.e 25
  let choice := (s.e &&& s.f) ^^^ (~~~s.e &&& s.g)
  let t := s.h + mix + choice + k + w
  let spread := rotate s.a 2 ^^^ rotate s.a 13 ^^^ rotate s.a 22
  let majority := (s.a &&& s.b) ^^^ (s.a &&& s.c) ^^^ (s.b &&& s.c)
  ⟨t + (spread + majority), s.a, s.b, s.c, s.d + t, s.e, s.f, s.g⟩

def nextWord (window : Array UInt32) (t : Nat) : UInt32 :=
  let word i := window.getD (t + i) 0
  let early := rotate (word 1) 7 ^^^ rotate (word 1) 18 ^^^ (word 1 >>> 3)
  let late := rotate (word 14) 17 ^^^ rotate (word 14) 19 ^^^ (word 14 >>> 10)
  word 0 + early + word 9 + late

def schedule (block : List UInt32) : List UInt32 :=
  ((List.range 48).foldl (fun ws t => ws.push (nextWord ws t)) block.toArray).toList

def compress (s : State) (block : List UInt32) : State :=
  let r := (constants.zip (schedule block)).foldl (fun s (k, w) => round s k w) s
  ⟨s.a + r.a, s.b + r.b, s.c + r.c, s.d + r.d, s.e + r.e, s.f + r.f, s.g + r.g, s.h + r.h⟩

def pad (message : List UInt8) : List UInt8 :=
  let zeros := (119 - message.length % 64) % 64
  let bits := 8 * message.length
  message ++ 0x80 :: List.replicate zeros 0 ++
    (List.range 8).map fun i => UInt8.ofNat (bits / Nat.pow 256 (7 - i))

def words : List UInt8 → List UInt32
  | a :: b :: c :: d :: r =>
    (a.toUInt32 <<< 24 ||| b.toUInt32 <<< 16 ||| c.toUInt32 <<< 8 ||| d.toUInt32) :: words r
  | _ => []

def blocks : Nat → List UInt32 → List (List UInt32)
  | 0, _ => []
  | n + 1, ws => ws.take 16 :: blocks n (ws.drop 16)

def digest (message : List UInt8) : State :=
  let ws := words (pad message)
  (blocks (ws.length / 16) ws).foldl compress .initial

def hexWord (w : UInt32) : String :=
  let cs := Nat.toDigits 16 w.toNat
  String.ofList (List.replicate (8 - cs.length) '0' ++ cs)

def State.hex (s : State) : String :=
  String.join ([s.a, s.b, s.c, s.d, s.e, s.f, s.g, s.h].map hexWord)

def ofString (s : String) : String := (digest s.toUTF8.toList).hex

end EntityAudit.Sha256
