namespace EntityAudit.Url.Punycode

def digitChar (n : Nat) : Char :=
  if n < 26 then Char.ofNat ('a'.toNat + n) else Char.ofNat ('0'.toNat + (n - 26))

def threshold (position bias : Nat) : Nat := max 1 (min 26 (position - bias))

def encodeStep (bias position step : Nat) : List Char :=
  let t := threshold position bias
  if step < t then [digitChar step]
  else digitChar (t + (step - t) % (36 - t)) ::
    encodeStep bias (position + 36) ((step - t) / (36 - t))
termination_by step
decreasing_by
  have : 1 ≤ threshold position bias := Nat.le_max_left _ _
  exact Nat.lt_of_le_of_lt (Nat.div_le_self _ _) (by omega)

def damped (position delta : Nat) : Nat :=
  if 455 < delta then damped (position + 36) (delta / 35) else position + 36 * delta / (delta + 38)
termination_by delta
decreasing_by omega

def nextBias (delta written : Nat) (isFirst : Bool) : Nat :=
  let d := if isFirst then delta / 700 else delta / 2
  damped 0 (d + d / written)

structure Writer where
  output : List Char
  written : Nat
  delta : Nat := 0
  bias : Nat := 72
  isFirst : Bool := true

def Writer.pass (n : Nat) (w : Writer) (c : Char) : Writer :=
  if c.toNat < n then { w with delta := w.delta + 1 }
  else if c.toNat = n then {
    output := (encodeStep w.bias 36 w.delta).reverse ++ w.output
    written := w.written + 1
    bias := nextBias w.delta (w.written + 1) w.isFirst
    isFirst := false }
  else w

def Writer.run (label : List Char) (w : Writer) (least : Nat) : List Nat → Writer
  | [] => w
  | n :: rest =>
    let w := { w with delta := w.delta + (n - least) * (w.written + 1) }
    let w := label.foldl (Writer.pass n) w
    run label { w with delta := w.delta + 1 } (n + 1) rest

def encode (label : List Char) : List Char :=
  let basic := label.filter (·.toNat < 0x80)
  let codes := ((label.map (·.toNat)).filter (0x80 ≤ ·)).mergeSort.eraseDups
  let start := if basic.isEmpty then [] else '-' :: basic.reverse
  (Writer.run label ⟨start, basic.length, 0, 72, true⟩ 0x80 codes).output.reverse

end EntityAudit.Url.Punycode
