import LtiPlatform.Signature.Curve
import LtiPlatform.Signature.Der
import LtiPlatform.Signature.Pem

namespace LtiPlatform.P256

structure PublicKey where
  x : Nat
  y : Nat
deriving DecidableEq, Repr, Inhabited

structure PrivateKey where
  secret : Nat
deriving DecidableEq, Repr, Inhabited

def PrivateKey.publicKey? (key : PrivateKey) : Option PublicKey :=
  (Curve.p256.affine? (Curve.p256.generated key.secret)).map fun (x, y) => ⟨x, y⟩

/-- The state of the generator of nonces: a key and a value. -/
structure NonceState where
  key : Bytes
  value : Bytes

namespace NonceState

def update (state : NonceState) (mark : UInt8) (input : Bytes) : NonceState :=
  let key := Sha2.hmac256 state.key (state.value ++ mark :: input)
  ⟨key, Sha2.hmac256 key state.value⟩

def start (secret hash : Nat) : NonceState :=
  let seed := Bytes.ofNat 32 secret ++ Bytes.ofNat 32 (hash % Curve.p256.order)
  (update ⟨List.replicate 32 0, List.replicate 32 1⟩ 0 seed).update 1 seed

end NonceState

/-- A signature from the first nonces that give one. All but a negligible share of them do. -/
def signFrom (secret hash : Nat) : Nat → NonceState → Option (Nat × Nat)
  | 0, _ => none
  | attempts + 1, state =>
    let n := Curve.p256.order
    let value := Sha2.hmac256 state.key state.value
    let nonce := Bytes.toNat value
    let point := (Curve.p256.affine? (Curve.p256.generated nonce)).getD (0, 0)
    let r := point.1 % n
    let s := Modular.inverse n nonce * (hash + r * secret) % n
    if nonce = 0 ∨ n ≤ nonce ∨ r = 0 ∨ s = 0 then
      signFrom secret hash attempts (NonceState.update ⟨state.key, value⟩ 0 [])
    else some (r, s)

/-- Signs with a nonce that is derived from the key and the message. -/
def sign? (key : PrivateKey) (message : Bytes) : Option Bytes :=
  let hash := Curve.p256.hashed message
  (signFrom key.secret hash 16 (.start key.secret hash)).map fun (r, s) =>
    Bytes.ofNat 32 r ++ Bytes.ofNat 32 s

def privateKey? (secret : Nat) : Option PrivateKey :=
  if 0 < secret ∧ secret < Curve.p256.order then some ⟨secret⟩ else none

/-- The private key that a seed gives. -/
def PrivateKey.ofSeed (seed : Bytes) : PrivateKey := ⟨Bytes.toNat (Sha2.sha256 seed) % (Curve.p256.order - 1) + 1⟩

/-- A point in one of its written forms: both coordinates, or the first one and whether the second is
odd. -/
def PublicKey.encoded (key : PublicKey) (compressed : Bool) : Bytes :=
  if compressed then (if key.y % 2 = 0 then 0x02 else 0x03) :: Bytes.ofNat 32 key.x
  else 0x04 :: Bytes.ofNat 32 key.x ++ Bytes.ofNat 32 key.y

/-- Whether the bytes are the public key that goes with a private one. -/
def isPublicKeyOf (key : PrivateKey) (bytes : Bytes) : Bool :=
  key.publicKey?.any fun point => bytes == point.encoded false || bytes == point.encoded true

/-- A secret of 24 to 32 bytes. -/
def secret? (bytes : Bytes) : Option PrivateKey :=
  if 24 ≤ bytes.length ∧ bytes.length ≤ 32 then privateKey? (Bytes.toNat bytes) else none

/-- A key consists of its secret, and perhaps a curve and the public key as fields 0 and 1. The
public key must fit; the curve may be any. -/
def ofElements? : List DerElement → Option PrivateKey
  | version :: secret :: fields => do
    let version ← version.natural?
    let key ← secret.octets?.bind secret?
    let (curve, fields) ← Der.takeField? 0 fields
    let (point, fields) ← Der.takeField? 1 fields
    let curveFits := curve.all fun field =>
      (field.enclosed?.bind DerElement.identifier?).isSome
    let pointFits := point.all fun field =>
      (field.enclosed?.bind DerElement.bits?).any (isPublicKeyOf key)
    if version = 1 ∧ curveFits ∧ pointFits ∧ fields = [] then some key else none
  | _ => none

def ofDer? (contents : Bytes) : Option PrivateKey := (Der.sequence? contents).bind ofElements?

def algorithmIdentifier : Bytes := [0x2a, 0x86, 0x48, 0xce, 0x3d, 0x02, 0x01]

def curveIdentifier : Bytes := [0x2a, 0x86, 0x48, 0xce, 0x3d, 0x03, 0x01, 0x07]

/-- The parameters of the algorithm must name this curve. -/
def ofWrapped? (contents : Bytes) : Option PrivateKey := do
  let wrapped ← WrappedKey.ofDer? contents
  if wrapped.algorithm = algorithmIdentifier ∧
      wrapped.parameters.bind DerElement.identifier? = some curveIdentifier then
    ofDer? wrapped.key
  else none

/-- Reads a key file in the wrapped form that names its algorithm, or in the form for curves. -/
def ofPem? (text : String) : Option PrivateKey :=
  ((Pem.contents? "PRIVATE KEY" text).bind ofWrapped?).or
    ((Pem.contents? "EC PRIVATE KEY" text).bind ofDer?)

end LtiPlatform.P256
