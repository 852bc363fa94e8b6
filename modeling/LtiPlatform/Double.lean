import LtiPlatform.Binary64.Notation
import LtiPlatform.Text.Reader

namespace LtiPlatform

/-- A double-precision number, an infinity or the undefined number. -/
inductive Double where
  | finite (value : Binary64)
  | infinite (negative : Bool)
  | undefined
deriving DecidableEq, Repr, Inhabited

namespace Double

def ofDecimal (negative : Bool) (digits : Nat) (exponent : Int) : Double :=
  match Binary64.ofDecimal negative digits exponent with
  | some value => finite value
  | none => infinite negative

/-- Digits with a point before, among or after them, and an exponent. -/
def ofDigits? (negative : Bool) (chars : List Char) : Option Double := do
  let (whole, rest) := Reader.digits chars
  let (fraction, rest) :=
    match rest with
    | '.' :: rest => Reader.digits rest
    | _ => ([], rest)
  let (exponent, rest) ← Reader.exponentPart rest
  if (whole ++ fraction).isEmpty ∨ !rest.isEmpty then none
  else
    some (ofDecimal negative (Text.digitsValue (whole ++ fraction))
      (exponent.getD 0 - fraction.length))

/-- Splits off a sign. -/
def signed (chars : List Char) : Bool × List Char :=
  match chars with
  | '-' :: rest => (true, rest)
  | '+' :: rest => (false, rest)
  | _ => (false, chars)

/-- A decimal, `inf`, `infinity` or `nan`, the words in any case, each with or without a sign. -/
def ofText? (text : String) : Option Double :=
  let (negative, rest) := signed text.toList
  let word := Text.asciiLowercase (.ofList rest)
  if word = "inf" ∨ word = "infinity" then some (infinite negative)
  else if word = "nan" then some undefined
  else ofDigits? negative rest

def toText : Double → String
  | finite value => value.plain
  | infinite negative => if negative then "-inf" else "inf"
  | undefined => "NaN"

/-- Whether it equals zero, which the undefined number does not. -/
def isZero : Double → Bool
  | finite value => value.isZero
  | _ => false

/-- The nearest natural number, a half rounded up, held within `0` and `limit`. -/
def roundedWithin (limit : Nat) : Double → Nat
  | finite value =>
    let (numerator, denominator) := Binary64.scale 2 value.exponent value.significand 1
    if value.negative then 0
    else min limit ((2 * numerator + denominator) / (2 * denominator))
  | infinite negative => if negative then 0 else limit
  | undefined => 0

end Double

end LtiPlatform
