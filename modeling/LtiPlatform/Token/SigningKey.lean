import LtiPlatform.Signature.Rsa
import LtiPlatform.Signature.P256
import LtiPlatform.Signature.Ed25519
import LtiPlatform.Token.Jwk
import LtiPlatform.Text.Quoted

namespace LtiPlatform

inductive PrivateKey where
  | rsa (key : Rsa.PrivateKey)
  | p256 (key : P256.PrivateKey)
deriving DecidableEq, Repr, Inhabited

/-- The material of a published key in bytes. -/
inductive VerifyingKey where
  | ellipticCurve (coordinates : Bytes)
  | rsa (modulus exponent : Bytes)
  | sharedSecret (secret : Bytes)
  | edwardsCurve (point : Bytes)
deriving DecidableEq, Repr, Inhabited

namespace KeyMaterial

/-- The bytes behind the texts; none if a text is not base64. -/
def decode? : KeyMaterial → Option VerifyingKey
  | ellipticCurve _ x y => do
    let x ← Base64.decodeUrl? x
    let y ← Base64.decodeUrl? y
    some (.ellipticCurve (x ++ y))
  | rsa modulus exponent => do
    let modulus ← Base64.decodeUrl? modulus
    let exponent ← Base64.decodeUrl? exponent
    some (.rsa modulus exponent)
  | sharedSecret secret => (Base64.decodeUrl? secret).map .sharedSecret
  | edwardsCurve _ x => (Base64.decodeUrl? x).map .edwardsCurve

end KeyMaterial

/-- How messages are signed and how signatures are checked. Signing can fail for a key that is not
fit for it. -/
structure SignatureScheme where
  sign? : PrivateKey → Bytes → Option Bytes
  verify : Algorithm → VerifyingKey → Bytes → Bytes → Bool

namespace SignatureScheme

/-- The check of signatures with an RSA key. -/
def rsaCheck? : Algorithm → Option (Rsa.PublicKey → Bytes → Bytes → Bool)
  | .rs256 => some (Rsa.verify .sha256)
  | .rs384 => some (Rsa.verify .sha384)
  | .rs512 => some (Rsa.verify .sha512)
  | .ps256 => some (Rsa.verifySalted .sha256)
  | .ps384 => some (Rsa.verifySalted .sha384)
  | .ps512 => some (Rsa.verifySalted .sha512)
  | _ => none

def curve? : Algorithm → Option Curve
  | .es256 => some .p256
  | .es384 => some .p384
  | _ => none

/-- The signatures of all algorithms with a public key. Only RSA keys with the padding of PKCS #1 version 1.5 and
keys on P-256 sign. -/
def standard : SignatureScheme where
  sign? key message :=
    match key with
    | .rsa key => Rsa.sign? .sha256 key message
    | .p256 key => P256.sign? key message
  verify algorithm key message signature :=
    match key with
    | .rsa modulus exponent =>
      match rsaCheck? algorithm, Rsa.publicKey? modulus exponent with
      | some check, some key => check key message signature
      | _, _ => false
    | .ellipticCurve coordinates =>
      match curve? algorithm with
      | some curve => (curve.coordinates? coordinates).any (curve.verify · message signature)
      | none => false
    | .edwardsCurve point => algorithm == .edDsa && Ed25519.verify point message signature
    | .sharedSecret _ => false

end SignatureScheme

/-- A private key together with what is published of it. -/
structure SigningKey where
  id : String
  algorithm : Algorithm
  secret : PrivateKey
  publicKey : Jwk
deriving DecidableEq, Repr, Inhabited

namespace SigningKey

def published (id : String) (algorithm : Algorithm) (material : KeyMaterial) : Jwk where
  purpose := some "sig"
  use := some (.signing algorithm)
  id := some id
  material := material

def ofRsa (id : String) (key : Rsa.PrivateKey) : SigningKey where
  id := id
  algorithm := .rs256
  secret := .rsa key
  publicKey := published id .rs256 <| .rsa
    (Base64.encodeUrl (Bytes.ofNatMinimal key.publicKey.modulus))
    (Base64.encodeUrl (Bytes.ofNatMinimal key.publicKey.exponent))

/-- None if the public point would be at infinity. -/
def ofP256? (id : String) (key : P256.PrivateKey) : Option SigningKey :=
  key.publicKey?.map fun point =>
    { id
      algorithm := .es256
      secret := .p256 key
      publicKey := published id .es256 <| .ellipticCurve "P-256"
        (Base64.encodeUrl (Bytes.ofNat 32 point.x)) (Base64.encodeUrl (Bytes.ofNat 32 point.y)) }

def ofRsaPem (id pem : String) : Except TokenError SigningKey :=
  match Rsa.ofPem? pem with
  | some key => .ok (ofRsa id key)
  | none => .error (.invalidKey "RSA private key: no such key in the text")

def ofP256Pem (id pem : String) : Except TokenError SigningKey :=
  match (P256.ofPem? pem).bind (ofP256? id) with
  | some key => .ok key
  | none => .error (.invalidKey "P-256 private key: no such key in the text")

/-- A fresh key from random bytes. -/
def generate (id : String) (seed : Bytes) : Except TokenError SigningKey :=
  match ofP256? id (.ofSeed seed) with
  | some key => .ok key
  | none => .error (.invalidKey "P-256 public key has no affine coordinates")

/-- A description that shows nothing of the private key. -/
def describe (key : SigningKey) : String :=
  "SigningKey \x7b key_id: " ++ Text.quoted key.id ++ ", algorithm: " ++ key.algorithm.name ++
    ", .. \x7d"

end SigningKey

namespace KeySet

def ofSigningKeys (keys : List SigningKey) : KeySet := ⟨keys.map SigningKey.publicKey⟩

end KeySet

end LtiPlatform
