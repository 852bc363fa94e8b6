import LtiPlatform.Signature.Sha2
import LtiPlatform.Signature.Modular

namespace LtiPlatform.Ed25519

/-- The prime `2 ^ 255 - 19` of the coordinates. -/
def p : Nat := 0x7fffffffffffffffffffffffffffffffffffffffffffffffffffffffffffffed

/-- The order of the base point. -/
def order : Nat := 0x1000000000000000000000000000000014def9dea2f79cd65812631a5cf5d3ed

/-- The curve is `y² - x² = 1 + d x² y²`. -/
def d : Nat := 0x52036cee2b6ffe738cc740797779e89800700a4d4141d8ab75eb4dca135978a3

/-- The point `(x / z, y / z)`, where `t` is `x y / z`. -/
structure Point where
  x : Nat
  y : Nat
  z : Nat
  t : Nat
deriving DecidableEq, Repr, Inhabited

namespace Point

def ofAffine (x y : Nat) : Point := ⟨x, y, 1, x * y % p⟩

def neutral : Point := ofAffine 0 1

def base : Point :=
  ofAffine 0x216936d3cd6e53fec0a4e231fdd6dc5c692cc7609525a7b2c9562d608f25d51a
    0x6666666666666666666666666666666666666666666666666666666666666658

def negate (a : Point) : Point := ⟨Modular.subtract p 0 a.x, a.y, a.z, Modular.subtract p 0 a.t⟩

/-- The sum of any two points, equal ones too. -/
def add (a c : Point) : Point :=
  let low := Modular.subtract p a.y a.x * Modular.subtract p c.y c.x % p
  let high := (a.y + a.x) * (c.y + c.x) % p
  let twisted := 2 * a.t * c.t % p * d % p
  let depth := 2 * a.z * c.z % p
  let e := Modular.subtract p high low
  let f := Modular.subtract p depth twisted
  let g := depth + twisted
  let h := high + low
  ⟨e * f % p, g * h % p, f * g % p, e * h % p⟩

/-- The multiple of a point, by doubling along the bits of the factor. -/
def multiple (factor : Nat) (a : Point) : Point :=
  if factor = 0 then neutral
  else
    let half := multiple (factor / 2) a
    let double := half.add half
    if factor % 2 = 0 then double else a.add double

/-- The second coordinate with the parity of the first one in the highest bit, lowest byte first. -/
def encoded (a : Point) : Bytes :=
  let inverse := Modular.inverse p a.z
  let parity := a.x * inverse % p % 2
  (Bytes.ofNat 32 (a.y * inverse % p + parity * Nat.pow 2 255)).reverse

end Point

/-- The square root of minus one. -/
def rootOfMinusOne : Nat := Modular.power p 2 ((p - 1) / 4)

/-- A square root of `u / v`, if there is one. -/
def rootOfQuotient? (u v : Nat) : Option Nat :=
  let cube := v * v % p * v % p
  let root := u * cube % p * Modular.power p (u * cube % p * (cube * v % p) % p) ((p - 5) / 8) % p
  let square := v * (root * root % p) % p
  if square = u then some root
  else if square = Modular.subtract p 0 u then some (root * rootOfMinusOne % p)
  else none

/-- The number with these bytes, lowest byte first. -/
def littleEndian (bytes : Bytes) : Nat := Bytes.toNat bytes.reverse

def point? (bytes : Bytes) : Option Point :=
  let parity := littleEndian bytes / Nat.pow 2 255
  let y := littleEndian bytes % Nat.pow 2 255
  if bytes.length = 32 ∧ y < p then
    let square := y * y % p
    match rootOfQuotient? (Modular.subtract p square 1) ((d * square + 1) % p) with
    | none => none
    | some x =>
      if x = 0 ∧ parity = 1 then none
      else some (.ofAffine (if x % 2 = parity then x else p - x) y)
  else none

/-- Whether the signature, a point and a number, is one of the message under the key. -/
def verify (key message signature : Bytes) : Bool :=
  let r := signature.take 32
  let s := littleEndian (signature.drop 32)
  match point? key with
  | none => false
  | some a =>
    let factor := littleEndian (Sha2.sha512 (r ++ key ++ message)) % order
    signature.length == 64 && s < order &&
      ((Point.multiple s .base).add (Point.multiple factor a.negate)).encoded == r

end LtiPlatform.Ed25519
