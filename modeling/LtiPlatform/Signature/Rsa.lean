import LtiPlatform.Signature.Sha2
import LtiPlatform.Signature.Modular
import LtiPlatform.Signature.Der
import LtiPlatform.Signature.Pem

namespace LtiPlatform.Rsa

inductive Hash where
  | sha256
  | sha384
  | sha512
deriving DecidableEq, Repr

namespace Hash

def digest : Hash → Bytes → Bytes
  | sha256 => Sha2.sha256
  | sha384 => Sha2.sha384
  | sha512 => Sha2.sha512

/-- The number of bytes of a digest. -/
def width : Hash → Nat
  | sha256 => 32
  | sha384 => 48
  | sha512 => 64

/-- The DER that stands before a digest and names the hash function. -/
def frame : Hash → Bytes
  | sha256 => [0x30, 0x31, 0x30, 0x0d, 0x06, 0x09, 0x60, 0x86, 0x48, 0x01, 0x65, 0x03, 0x04, 0x02,
      0x01, 0x05, 0x00, 0x04, 0x20]
  | sha384 => [0x30, 0x41, 0x30, 0x0d, 0x06, 0x09, 0x60, 0x86, 0x48, 0x01, 0x65, 0x03, 0x04, 0x02,
      0x02, 0x05, 0x00, 0x04, 0x30]
  | sha512 => [0x30, 0x51, 0x30, 0x0d, 0x06, 0x09, 0x60, 0x86, 0x48, 0x01, 0x65, 0x03, 0x04, 0x02,
      0x03, 0x05, 0x00, 0x04, 0x40]

end Hash

structure PublicKey where
  modulus : Nat
  exponent : Nat
deriving DecidableEq, Repr, Inhabited

/-- A private key with the numbers that speed up signing: the secret exponent modulo the prime
factors less one, and the inverse of the second factor modulo the first. -/
structure PrivateKey where
  publicKey : PublicKey
  secretExponent : Nat
  factors : Nat × Nat
  exponents : Nat × Nat
  coefficient : Nat
deriving DecidableEq, Repr, Inhabited

def modulusBits (key : PublicKey) : Nat := if key.modulus = 0 then 0 else key.modulus.log2 + 1

/-- Sizes of keys that are used at all. -/
def isUsable (key : PublicKey) : Bool :=
  2048 ≤ modulusBits key && modulusBits key ≤ 8192 && key.exponent % 2 == 1 &&
    3 ≤ key.exponent && key.exponent < 0x200000000

/-- Whether the numbers are those of a key as far as can be seen from them: the exponents undo each
other modulo both factors less one. -/
def isKey (key : PrivateKey) : Bool :=
  let modulus := key.publicKey.modulus
  let exponent := key.publicKey.exponent
  let (p, q) := key.factors
  modulusBits key.publicKey ≤ 4096 && modulus % 2 == 1 && exponent < modulus &&
    exponent % 2 == 1 && 3 ≤ exponent && exponent < 0x200000000 && 1 < p && 1 < q &&
    p * q == modulus && exponent * key.secretExponent % (p - 1) == 1 &&
    exponent * key.secretExponent % (q - 1) == 1

/-- Whether the number undoes another one modulo `m`, and is reduced. -/
def isInverse (m x inverse : Nat) : Bool := inverse < m && x * inverse % m == 1

/-- Whether a key can sign: its size is one that is used, and all its numbers agree. -/
def canSign (key : PrivateKey) : Bool :=
  let (p, q) := key.factors
  isUsable key.publicKey && key.secretExponent < key.publicKey.modulus &&
    isInverse (p - 1) key.publicKey.exponent key.exponents.1 &&
    isInverse (q - 1) key.publicKey.exponent key.exponents.2 && isInverse p q key.coefficient

/-- The padded digest of PKCS #1 version 1.5, as long as the modulus. -/
def encoded (hash : Hash) (width : Nat) (message : Bytes) : Bytes :=
  let tail := hash.frame ++ hash.digest message
  0x00 :: 0x01 :: List.replicate (width - tail.length - 3) 0xff ++ 0x00 :: tail

/-- None for a key that cannot sign. -/
def sign? (hash : Hash) (key : PrivateKey) (message : Bytes) : Option Bytes :=
  if canSign key then
    let width := Bytes.width key.publicKey.modulus
    let value := Bytes.toNat (encoded hash width message)
    some (Bytes.ofNat width (Modular.power key.publicKey.modulus value key.secretExponent))
  else none

/-- What is in a signature. None for a key that is not used, and for a signature that cannot be of the key. -/
def opened? (key : PublicKey) (signature : Bytes) : Option Nat :=
  if isUsable key ∧ signature.length = Bytes.width key.modulus ∧ Bytes.toNat signature < key.modulus then
    some (Modular.power key.modulus (Bytes.toNat signature) key.exponent)
  else none

def verify (hash : Hash) (key : PublicKey) (message signature : Bytes) : Bool :=
  let width := Bytes.width key.modulus
  (opened? key signature).any fun value => Bytes.ofNat width value == encoded hash width message

/-- So many bytes, made from a seed by hashing it with a counter. -/
def mask (hash : Hash) (seed : Bytes) (count : Nat) : Bytes :=
  ((List.range (count / hash.width + 1)).flatMap fun counter =>
    hash.digest (seed ++ Bytes.ofNat 4 counter)).take count

/-- Whether a number below `2 ^ bits` is the digest of the message with the padding of PSS: under a mask a one
and a salt that is as long as a digest, then the digest of both and a fixed byte. -/
def isPaddedBySalt (hash : Hash) (bits value : Nat) (message : Bytes) : Bool :=
  let bytes := Bytes.ofNat ((bits + 7) / 8) value
  let count := bytes.length - hash.width - 1
  let digest := (bytes.drop count).take hash.width
  let unmasked := Bytes.toNat (List.zipWith (· ^^^ ·) (bytes.take count) (mask hash digest count)) %
    Nat.pow 2 (bits - 8 * (hash.width + 1))
  let salt := Bytes.ofNat hash.width unmasked
  2 * hash.width + 2 ≤ bytes.length && value < Nat.pow 2 bits && bytes.getLast? == some 0xbc &&
    unmasked / Nat.pow 256 hash.width == 1 &&
    hash.digest (List.replicate 8 0 ++ hash.digest message ++ salt) == digest

def verifySalted (hash : Hash) (key : PublicKey) (message signature : Bytes) : Bool :=
  (opened? key signature).any fun value => isPaddedBySalt hash (modulusBits key - 1) value message

/-- The numbers of a public key are written without leading zeros. -/
def publicKey? (modulus exponent : Bytes) : Option PublicKey :=
  if modulus.head?.all (· == 0) || exponent.head?.all (· == 0) then none
  else some ⟨Bytes.toNat modulus, Bytes.toNat exponent⟩

/-- A key consists of nine numbers, of which the first is the version. -/
def ofElements? (elements : List DerElement) : Option PrivateKey := do
  match ← elements.mapM DerElement.natural? with
  | [0, modulus, exponent, secret, p, q, pExponent, qExponent, coefficient] =>
    let key : PrivateKey :=
      ⟨⟨modulus, exponent⟩, secret, (p, q), (pExponent, qExponent), coefficient⟩
    if isKey key then some key else none
  | _ => none

def ofDer? (contents : Bytes) : Option PrivateKey := (Der.sequence? contents).bind ofElements?

def algorithmIdentifier : Bytes := [0x2a, 0x86, 0x48, 0x86, 0xf7, 0x0d, 0x01, 0x01, 0x01]

/-- The parameters of the algorithm must be null. -/
def ofWrapped? (contents : Bytes) : Option PrivateKey := do
  let wrapped ← WrappedKey.ofDer? contents
  if wrapped.algorithm = algorithmIdentifier ∧ wrapped.parameters = some ⟨0x05, []⟩ then
    ofDer? wrapped.key
  else none

/-- A file without headers, which would stand before an empty line, and with one opening mark. -/
def isBare (block : PemBlock) : Bool :=
  !(block.endsWithEmptyLine || Pem.holdsOpeningMark block.preamble)

/-- Reads a key file in the wrapped form that names its algorithm, or in RSA's own form. -/
def ofPem? (text : String) : Option PrivateKey := do
  let block ← Pem.block? text
  let contents ← block.contents?
  if isBare block then
    match block.label with
    | "PRIVATE KEY" => ofWrapped? contents
    | "RSA PRIVATE KEY" => ofDer? contents
    | _ => none
  else none

end LtiPlatform.Rsa
