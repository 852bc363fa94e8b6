import LtiPlatform.Binary64

namespace LtiPlatform.Binary64

def zeros (count : Nat) : String := .ofList (List.replicate count '0')

/-- The digits of a decimal with a point after the first `whole` of them, zeros filled in. -/
def positional (digits : String) (whole : Int) : String :=
  let count : Int := digits.length
  if whole ≤ 0 then "0." ++ zeros (-whole).toNat ++ digits
  else if count ≤ whole then digits ++ zeros (whole - count).toNat ++ ".0"
  else
    let chars := digits.toList
    .ofList (chars.take whole.toNat) ++ "." ++ .ofList (chars.drop whole.toNat)

/-- One digit before the point, and the exponent with the sign `plus` where it is positive. -/
def scientific (plus : String) (digits : String) (exponent : Int) : String :=
  let chars := digits.toList
  let fraction := .ofList (chars.drop 1)
  let sign := if exponent < 0 then "-" else plus
  .ofList (chars.take 1) ++ (if chars.length ≤ 1 then "" else "." ++ fraction) ++ "e" ++ sign ++
    toString exponent.natAbs

def signText (x : Binary64) : String := if x.negative then "-" else ""

/-- Positional from `10 ^ -5` up to below `10 ^ 16`, with `.0` after a whole number; otherwise one
digit before the point and an exponent with the given sign where it is positive. -/
def withExponent (plus : String) (x : Binary64) : String :=
  if x.isZero then x.signText ++ "0.0"
  else
    let decimal := x.shortest
    let digits := toString decimal.digits
    let exponent := decimal.exponent + digits.length - 1
    x.signText ++
      if -5 ≤ exponent ∧ exponent < 16 then positional digits (exponent + 1)
      else scientific plus digits exponent

/-- All digits and no exponent; a whole number has no point. -/
def plain (x : Binary64) : String :=
  if x.isZero then x.signText ++ "0"
  else
    let decimal := x.shortest
    let digits := toString decimal.digits
    x.signText ++
      if 0 ≤ decimal.exponent then digits ++ zeros decimal.exponent.toNat
      else positional digits (decimal.exponent + digits.length)

end LtiPlatform.Binary64
