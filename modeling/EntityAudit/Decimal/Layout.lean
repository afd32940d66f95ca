import EntityAudit.Decimal.Shortest

namespace EntityAudit.Decimal

structure Layout where
  positional : (exponent : Int) → Bool
  whole : String
  infinite : String
  undefinedText : String

def positionalText (digits : List Char) (exponent : Int) (whole : String) : String :=
  if 0 ≤ exponent then String.ofList (digits ++ List.replicate exponent.toNat '0') ++ whole
  else
    let places := exponent.natAbs
    let padded := List.replicate (places + 1 - digits.length) '0' ++ digits
    let cut := padded.length - places
    String.ofList (padded.take cut ++ '.' :: padded.drop cut)

def scientificText (digits : List Char) (exponent : Int) : String :=
  let mantissa := match digits with
    | [] => []
    | [d] => [d]
    | d :: ds => d :: '.' :: ds
  String.ofList mantissa ++ "e" ++ (if exponent < 0 then "-" else "+") ++ toString exponent.natAbs

def Layout.text (layout : Layout) (x : Float) : String :=
  if x.isNaN then layout.undefinedText
  else
    let sign := if 9223372036854775808 ≤ x.toBits.toNat then "-" else ""
    if x.isInf then sign ++ layout.infinite
    else
      let d := (Binary.ofFloat x).shortest
      let digits := Nat.toDigits 10 d.digits
      let first := d.exponent + (digits.length : Int) - 1
      if d.digits = 0 ∨ layout.positional first then
        sign ++ positionalText digits d.exponent layout.whole
      else sign ++ scientificText digits first

def plain : Layout where
  positional _ := true
  whole := ""
  infinite := "inf"
  undefinedText := "NaN"

end EntityAudit.Decimal
