import LtiPlatform.Text

namespace LtiPlatform

/-- The number `± significand · 2 ^ exponent`, where the significand has 53 bits unless the
exponent is the least one. -/
structure Binary64 where
  negative : Bool
  significand : Nat
  exponent : Int
deriving DecidableEq, Repr, Inhabited

namespace Binary64

def leastExponent : Int := -1074

def greatestExponent : Int := 971

def zero (negative : Bool) : Binary64 := ⟨negative, 0, leastExponent⟩

def isZero (x : Binary64) : Bool := x.significand == 0

/-- The quotient multiplied by `base ^ exponent`, as a quotient again. -/
def scale (base : Nat) (exponent : Int) (numerator denominator : Nat) : Nat × Nat :=
  if exponent < 0 then (numerator, denominator * Nat.pow base (-exponent).toNat)
  else (numerator * Nat.pow base exponent.toNat, denominator)

/-- The integer nearest to a quotient; a half goes to the even neighbour. -/
def divideToEven (numerator denominator : Nat) : Nat :=
  let quotient := numerator / denominator
  let twice := 2 * (numerator % denominator)
  if twice < denominator then quotient
  else if denominator < twice then quotient + 1
  else quotient + quotient % 2

/-- The double nearest to a positive quotient, or none if it is too great. -/
def ofQuotient (negative : Bool) (numerator denominator : Nat) : Option Binary64 :=
  let estimate : Int := (numerator.log2 : Int) - denominator.log2 - 52
  let atEstimate := scale 2 (-estimate) numerator denominator
  let exact := if atEstimate.1 / atEstimate.2 < Nat.pow 2 52 then estimate - 1 else estimate
  let exponent := max exact leastExponent
  let scaled := scale 2 (-exponent) numerator denominator
  let rounded := divideToEven scaled.1 scaled.2
  let (significand, exponent) :=
    if rounded = Nat.pow 2 53 then (Nat.pow 2 52, exponent + 1) else (rounded, exponent)
  if greatestExponent < exponent then none else some ⟨negative, significand, exponent⟩

def digitCount (n : Nat) : Nat := (Nat.toDigits 10 n).length

/-- The double nearest to `± digits · 10 ^ exponent`. Decimals far outside the range are settled
by their magnitude alone. -/
def ofDecimal (negative : Bool) (digits : Nat) (exponent : Int) : Option Binary64 :=
  if digits = 0 then some (zero negative)
  else
    let magnitude := exponent + digitCount digits
    if 400 < magnitude then none
    else if magnitude < -400 then some (zero negative)
    else
      let scaled := scale 10 exponent digits 1
      ofQuotient negative scaled.1 scaled.2

/-- The double nearest to a quotient that may be zero, or none if it is too great. -/
def nearest? (negative : Bool) (numerator denominator : Nat) : Option Binary64 :=
  if numerator = 0 then some (zero negative) else ofQuotient negative numerator denominator

/-- The size of a double as a quotient. -/
def quotient (x : Binary64) : Nat × Nat := scale 2 x.exponent x.significand 1

/-- The double nearest to `10 ^ places`. -/
def tenTo? (places : Nat) : Option Binary64 := ofQuotient false (Nat.pow 10 places) 1

/-- The double nearest to the product with the double nearest to `10 ^ places`. -/
def raised? (x : Binary64) (places : Nat) : Option Binary64 :=
  (tenTo? places).bind fun power =>
    nearest? x.negative (x.quotient.1 * power.quotient.1) (x.quotient.2 * power.quotient.2)

/-- The double nearest to the quotient by the double nearest to `10 ^ places`. -/
def lowered? (x : Binary64) (places : Nat) : Option Binary64 :=
  (tenTo? places).bind fun power =>
    nearest? x.negative (x.quotient.1 * power.quotient.2) (x.quotient.2 * power.quotient.1)

/-- The greatest power of ten that is a double. -/
def greatestPlace : Nat := 308

/-- Division by a power of ten in steps that are doubles, each of which rounds. -/
def loweredBySteps? (x : Binary64) (places : Nat) : Option Binary64 :=
  if places ≤ greatestPlace then x.lowered? places
  else if x.isZero then some x
  else (x.lowered? greatestPlace).bind fun x => loweredBySteps? x (places - greatestPlace)
termination_by places
decreasing_by
  simp only [greatestPlace] at *
  omega

/-- The double for `± digits · 10 ^ exponent` by way of doubles, which need not be the nearest one: the
digits are rounded, then the power of ten, and then their product or quotient. -/
def scaled? (negative : Bool) (digits : Nat) (exponent : Int) : Option Binary64 := do
  let x ← nearest? negative digits 1
  if exponent < 0 then x.loweredBySteps? (-exponent).toNat
  else if exponent ≤ greatestPlace then x.raised? exponent.toNat
  else if x.isZero then some x
  else none

/-- A decimal `digits · 10 ^ exponent`. -/
structure Decimal where
  digits : Nat
  exponent : Int
deriving DecidableEq, Repr, Inhabited

/-- Units that make a multiple of `10 ^ place` and a multiple of `2 ^ exponent` comparable as
natural numbers. -/
def decimalUnit (place exponent : Int) : Nat :=
  Nat.pow 10 place.toNat * Nat.pow 2 (-exponent).toNat

def binaryUnit (place exponent : Int) : Nat :=
  Nat.pow 2 exponent.toNat * Nat.pow 10 (-place).toNat

/-- Whether `n · 10 ^ place` rounds to the double. The reals that do so reach half a place to
either side, a quarter below a power of two, ends included when the significand is even. -/
def roundsBack (x : Binary64) (place : Int) (n : Nat) : Bool :=
  let value := n * decimalUnit place (x.exponent - 2)
  let unit := binaryUnit place (x.exponent - 2)
  let low :=
    if x.significand = Nat.pow 2 52 ∧ leastExponent < x.exponent then 4 * x.significand - 1
    else 4 * x.significand - 2
  let high := 4 * x.significand + 2
  if x.significand % 2 = 0 then decide (low * unit ≤ value ∧ value ≤ high * unit)
  else decide (low * unit < value ∧ value < high * unit)

/-- The neighbour of the double among the multiples of `10 ^ place` that rounds back to it: the
nearer one if both do, the even one if they are equally near. -/
def neighbor? (x : Binary64) (place : Int) : Option Nat :=
  let decimal := decimalUnit place (x.exponent - 2)
  let target := 4 * x.significand * binaryUnit place (x.exponent - 2)
  let below := target / decimal
  let above := below + 1
  match x.roundsBack place below, x.roundsBack place above with
  | false, false => none
  | true, false => some below
  | false, true => some above
  | true, true =>
    let twice := 2 * (target - below * decimal)
    if twice < decimal then some below
    else if decimal < twice then some above
    else some (below + below % 2)

/-- A place at or above that of the leading digit. -/
def leadingPlace (x : Binary64) : Int :=
  ((x.significand.log2 : Int) + x.exponent + 1) * 30103 / 100000 + 1

/-- The shortest decimal that rounds back to the double: the coarsest decimal grid with a neighbour
that does. Seventeen digits always suffice. -/
def shortest (x : Binary64) : Decimal :=
  if x.isZero then ⟨0, 0⟩
  else
    let found := (List.range 24).findSome? fun (step : Nat) =>
      let place := x.leadingPlace - step
      (x.neighbor? place).map fun digits => (⟨digits, place⟩ : Decimal)
    found.getD ⟨0, 0⟩

end Binary64

end LtiPlatform
