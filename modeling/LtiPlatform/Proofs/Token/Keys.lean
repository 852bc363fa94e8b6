import LtiPlatform.Token.SigningKey
import LtiPlatform.Proofs.Signature.Base64
import LtiPlatform.Proofs.Signature.Rsa

namespace LtiPlatform

namespace SigningKey

/-- The keys that a platform can have: those made from an RSA key or from a P-256 key. -/
inductive IsMade : SigningKey → Prop
  | rsa (id : String) (secret : Rsa.PrivateKey) : IsMade (ofRsa id secret)
  | p256 {id : String} {secret : P256.PrivateKey} {key : SigningKey}
    (made : ofP256? id secret = some key) : IsMade key

/-- What is published of a key fits the key. -/
structure IsPublishedWell (key : SigningKey) : Prop where
  id : key.publicKey.id = some key.id
  use : key.publicKey.use = some (.signing key.algorithm)
  asymmetric : key.algorithm ∈ Algorithm.asymmetric
  family : key.publicKey.material.family = key.algorithm.family
  decodes : ∃ verifyingKey, key.publicKey.material.decode? = some verifyingKey

variable {key : SigningKey}

theorem IsMade.isPublishedWell (made : key.IsMade) : key.IsPublishedWell := by
  cases made with
  | rsa id secret =>
    refine ⟨rfl, rfl, by simp [ofRsa, Algorithm.asymmetric], rfl, ?_⟩
    simp [ofRsa, published, KeyMaterial.decode?]
  | p256 made =>
    obtain ⟨point, _, rfl⟩ := Option.map_eq_some_iff.mp made
    refine ⟨rfl, rfl, by simp [Algorithm.asymmetric], rfl, ?_⟩
    simp [published, KeyMaterial.decode?]

theorem isMade_ofRsaPem {id pem : String} (read : ofRsaPem id pem = .ok key) : key.IsMade := by
  rw [ofRsaPem] at read
  split at read
  · cases read
    exact .rsa ..
  · cases read

theorem isMade_ofP256Pem {id pem : String} (read : ofP256Pem id pem = .ok key) : key.IsMade := by
  rw [ofP256Pem] at read
  split at read
  · next made =>
    cases read
    obtain ⟨secret, _, made⟩ := Option.bind_eq_some_iff.mp made
    exact .p256 made
  · cases read

end SigningKey

namespace SignatureScheme

/-- The key can sign whatever it is given. -/
def CanSign (scheme : SignatureScheme) (key : SigningKey) : Prop :=
  ∀ message, (scheme.sign? key.secret message).isSome

/-- What the key signs is accepted under what is published of it. -/
def Accepts (scheme : SignatureScheme) (key : SigningKey) : Prop :=
  ∀ message signature verifyingKey, scheme.sign? key.secret message = some signature →
    key.publicKey.material.decode? = some verifyingKey →
    scheme.verify key.algorithm verifyingKey message signature

end SignatureScheme

namespace SignatureScheme

variable {key : Rsa.PrivateKey}

theorem standard_canSign_ofRsa (usable : Rsa.canSign key) (id : String) :
    standard.CanSign (.ofRsa id key) :=
  fun message => Rsa.sign?_isSome usable message

/-- RSA signatures are accepted. -/
theorem standard_accepts_ofRsa (sound : key.IsSound) (id : String) : standard.Accepts (.ofRsa id key) := by
  intro message signature verifyingKey signed decodes
  have positive : key.publicKey.modulus ≠ 0 ∧ key.publicKey.exponent ≠ 0 := by
    have consistent := sound.consistent
    simp only [Rsa.isKey, Bool.and_eq_true, beq_iff_eq, decide_eq_true_eq] at consistent
    omega
  simp only [SigningKey.ofRsa, SigningKey.published, KeyMaterial.decode?, Base64.decodeUrl?_encodeUrl,
    Option.bind_eq_bind, Option.bind_some, Option.some.injEq] at decodes
  subst decodes
  have accepted := Rsa.verify_of_sign? sound signed
  simp only [standard, SigningKey.ofRsa, rsaCheck?, Rsa.publicKey?_ofNatMinimal positive.1 positive.2]
  exact accepted

end SignatureScheme

end LtiPlatform
