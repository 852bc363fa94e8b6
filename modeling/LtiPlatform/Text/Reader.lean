import LtiPlatform.Text

namespace LtiPlatform

/-- A reader takes the characters from its position on and gives what it read and the characters that follow. -/
abbrev Reader (α : Type) := List Char → Option (α × List Char)

namespace Reader

def expect (c : Char) : List Char → Option (List Char)
  | [] => none
  | head :: rest => if head = c then some rest else none

def hexValue? (c : Char) : Option Nat :=
  if '0' ≤ c ∧ c ≤ '9' then some (c.toNat - '0'.toNat)
  else if 'a' ≤ c ∧ c ≤ 'f' then some (c.toNat - 'a'.toNat + 10)
  else if 'A' ≤ c ∧ c ≤ 'F' then some (c.toNat - 'A'.toNat + 10)
  else none

/-- The number written by so many hexadecimal digits. -/
def hexDigits : Nat → Reader Nat
  | 0, chars => some (0, chars)
  | count + 1, chars => do
    let (value, rest) ← hexDigits count chars
    match rest with
    | [] => none
    | c :: rest => (hexValue? c).map fun digit => (16 * value + digit, rest)

def digits (chars : List Char) : List Char × List Char := chars.span Text.isDigit

def signedExponent (chars : List Char) : Option (Int × List Char) :=
  let (negative, rest) :=
    match chars with
    | '-' :: rest => (true, rest)
    | '+' :: rest => (false, rest)
    | _ => (false, chars)
  match digits rest with
  | ([], _) => none
  | (found, rest) =>
    let value : Int := Text.digitsValue found
    some (if negative then -value else value, rest)

/-- The exponent, if one is written. -/
def exponentPart : Reader (Option Int) := fun chars =>
  match chars with
  | 'e' :: rest => (signedExponent rest).map fun (value, rest) => (some value, rest)
  | 'E' :: rest => (signedExponent rest).map fun (value, rest) => (some value, rest)
  | _ => some (none, chars)

end Reader

end LtiPlatform
