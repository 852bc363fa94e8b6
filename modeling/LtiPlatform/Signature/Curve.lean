import LtiPlatform.Signature.Sha2
import LtiPlatform.Signature.Modular

namespace LtiPlatform

/-- A curve `y² = x³ - 3x + b` over the numbers modulo a prime, on which a point generates a group of prime
order, and the hash function that messages go through. Coordinates, and numbers below the order, have `width`
bytes. -/
structure Curve where
  prime : Nat
  order : Nat
  b : Nat
  generator : Nat × Nat
  width : Nat
  digest : Bytes → Bytes

namespace Curve

def p256 : Curve where
  prime := 0xffffffff00000001000000000000000000000000ffffffffffffffffffffffff
  order := 0xffffffff00000000ffffffffffffffffbce6faada7179e84f3b9cac2fc632551
  b := 0x5ac635d8aa3a93e7b3ebbd55769886bc651d06b0cc53b0f63bce3c3e27d2604b
  generator := (0x6b17d1f2e12c4247f8bce6e563a440f277037d812deb33a0f4a13945d898c296,
    0x4fe342e2fe1a7f9b8ee7eb4a7c0f9e162bce33576b315ececbb6406837bf51f5)
  width := 32
  digest := Sha2.sha256

def p384 : Curve where
  prime := 0xfffffffffffffffffffffffffffffffffffffffffffffffffffffffffffffffeffffffff0000000000000000ffffffff
  order := 0xffffffffffffffffffffffffffffffffffffffffffffffffc7634d81f4372ddf581a0db248b0a77aecec196accc52973
  b := 0xb3312fa7e23ee7e4988e056be3f82d19181d9c6efe8141120314088f5013875ac656398d8a2ed19d2a85c8edd3ec2aef
  generator :=
    (0xaa87ca22be8b05378eb1c71ef320ad746e1d3b628ba79b9859f741e082542a385502f25dbf55296c3a545e3872760ab7,
      0x3617de4a96262c6f5d9e98bf9292dc29f8f41dbd289a147ce9da3113b5f0b8c00a60b1ce1d7e819d7a431d7c90ea0e5f)
  width := 48
  digest := Sha2.sha384

/-- The point `(x / z², y / z³)`, or the one at infinity if `z` is zero. -/
structure Point where
  x : Nat
  y : Nat
  z : Nat
deriving DecidableEq, Repr, Inhabited

def Point.infinity : Point := ⟨1, 1, 0⟩

def Point.ofAffine (coordinates : Nat × Nat) : Point := ⟨coordinates.1, coordinates.2, 1⟩

variable (curve : Curve)

def double (a : Point) : Point :=
  let p := curve.prime
  if a.z = 0 ∨ a.y = 0 then .infinity
  else
    let zz := a.z * a.z % p
    let yy := a.y * a.y % p
    let s := 4 * a.x * yy % p
    let m := 3 * (Modular.subtract p a.x zz) * (a.x + zz) % p
    let x := Modular.subtract p (m * m) (2 * s)
    let y := Modular.subtract p (m * Modular.subtract p s x % p) (8 * yy * yy)
    ⟨x, y, 2 * a.y * a.z % p⟩

def add (a c : Point) : Point :=
  let p := curve.prime
  if a.z = 0 then c
  else if c.z = 0 then a
  else
    let zza := a.z * a.z % p
    let zzc := c.z * c.z % p
    let ua := a.x * zzc % p
    let uc := c.x * zza % p
    let sa := a.y * zzc % p * c.z % p
    let sc := c.y * zza % p * a.z % p
    if ua = uc then
      if sa = sc then curve.double a else .infinity
    else
      let h := Modular.subtract p uc ua
      let r := Modular.subtract p sc sa
      let hh := h * h % p
      let hhh := hh * h % p
      let v := ua * hh % p
      let x := Modular.subtract p (r * r % p) (hhh + 2 * v)
      let y := Modular.subtract p (r * Modular.subtract p v x % p) (sa * hhh)
      ⟨x, y, h * a.z % p * c.z % p⟩

/-- The multiple of a point, by doubling along the bits of the factor. -/
def multiple (factor : Nat) (a : Point) : Point :=
  if factor = 0 then .infinity
  else
    let half := curve.double (multiple (factor / 2) a)
    if factor % 2 = 0 then half else curve.add half a

def generated (factor : Nat) : Point := curve.multiple factor (.ofAffine curve.generator)

/-- The affine coordinates, unless the point is at infinity. -/
def affine? (a : Point) : Option (Nat × Nat) :=
  if a.z = 0 then none
  else
    let p := curve.prime
    let inverse := Modular.inverse p a.z
    let square := inverse * inverse % p
    some (a.x * square % p, a.y * (square * inverse % p) % p)

def contains (coordinates : Nat × Nat) : Bool :=
  let p := curve.prime
  let (x, y) := coordinates
  x < p && y < p && y * y % p == Modular.subtract p (x * x % p * x + curve.b) (3 * x)

def hashed (message : Bytes) : Nat := Bytes.toNat (curve.digest message)

/-- The coordinates one after the other. -/
def coordinates? (bytes : Bytes) : Option (Nat × Nat) :=
  if bytes.length = 2 * curve.width then
    some (Bytes.toNat (bytes.take curve.width), Bytes.toNat (bytes.drop curve.width))
  else none

/-- Whether the two numbers in the signature are one of the message under the key. -/
def verify (key : Nat × Nat) (message signature : Bytes) : Bool :=
  let n := curve.order
  let r := Bytes.toNat (signature.take curve.width)
  let s := Bytes.toNat (signature.drop curve.width)
  if signature.length = 2 * curve.width ∧ 0 < r ∧ r < n ∧ 0 < s ∧ s < n ∧ curve.contains key then
    let inverse := Modular.inverse n s
    let left := curve.generated (curve.hashed message * inverse % n)
    let right := curve.multiple (r * inverse % n) (.ofAffine key)
    match curve.affine? (curve.add left right) with
    | none => false
    | some (x, _) => x % n == r
  else false

end Curve

end LtiPlatform
