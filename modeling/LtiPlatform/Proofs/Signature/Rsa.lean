import Mathlib.FieldTheory.Finite.Basic
import Mathlib.NumberTheory.LucasPrimality
import Mathlib.Tactic.NormNum.Prime
import LtiPlatform.Signature.Rsa
import LtiPlatform.Proofs.Signature.Digits

namespace LtiPlatform

namespace Modular

theorem power_eq (m base exponent : Nat) : power m base exponent = base ^ exponent % m := by
  fun_induction power m base exponent with
  | case1 base => rw [Nat.pow_zero]
  | case2 base exponent nonzero half even ih =>
    have whole : exponent = 2 * (exponent / 2) := by omega
    rw [show half = power m (base * base % m) (exponent / 2) from rfl, ih, ← Nat.pow_mod, ← pow_two,
      ← pow_mul, ← whole]
  | case3 base exponent nonzero half odd ih =>
    have whole : exponent = 2 * (exponent / 2) + 1 := by omega
    rw [show half = power m (base * base % m) (exponent / 2) from rfl, ih, ← Nat.pow_mod, ← pow_two,
      ← pow_mul, Nat.mul_mod_mod, ← pow_succ', ← whole]

theorem inverse_lt {p : Nat} (positive : 0 < p) (x : Nat) : inverse p x < p := by
  rw [inverse, power_eq]
  exact Nat.mod_lt _ positive

/-- The inverse undoes a number that the prime does not divide. -/
theorem mul_inverse {p x : Nat} (prime : p.Prime) (apart : ¬ p ∣ x) : x * inverse p x % p = 1 := by
  have positive := prime.one_lt
  have : Fact p.Prime := ⟨prime⟩
  have nonzero : (x : ZMod p) ≠ 0 := fun zero => apart ((ZMod.natCast_eq_zero_iff x p).mp zero)
  have whole : p - 1 = p - 2 + 1 := by omega
  have product : ((x ^ (p - 1) : Nat) : ZMod p) = (1 : Nat) := by
    rw [Nat.cast_pow, ZMod.pow_card_sub_one_eq_one nonzero, Nat.cast_one]
  rw [inverse, power_eq, ← Nat.pow_mod, Nat.mul_mod_mod, ← pow_succ', ← whole]
  rw [ZMod.natCast_eq_natCast_iff', Nat.mod_eq_of_lt positive] at product
  exact product

/-- The number squared again and again. -/
def squared (m : Nat) : Nat → Nat → Nat
  | 0, x => x
  | times + 1, x => squared m times (x * x % m)

theorem squared_mod (m times x : Nat) : squared m times x % m = x ^ 2 ^ times % m := by
  induction times generalizing x with
  | zero => rw [squared, Nat.pow_zero, Nat.pow_one]
  | succ times ih => rw [squared, ih, ← Nat.pow_mod, ← pow_two, ← pow_mul, pow_succ']

theorem natCast_pow_eq_one_iff {m : Nat} (large : 1 < m) (x exponent : Nat) :
    (x : ZMod m) ^ exponent = 1 ↔ x ^ exponent % m = 1 := by
  rw [← Nat.cast_pow, ← Nat.cast_one, ZMod.natCast_eq_natCast_iff', Nat.mod_eq_of_lt large]

/-- The test of Lucas for a number that is one more than a prime times a power of two. -/
theorem prime_of_squared {k times x : Nat} (prime : k.Prime)
    (full : squared (k * 2 ^ (times + 1) + 1) (times + 1) (x ^ k) % (k * 2 ^ (times + 1) + 1) = 1)
    (half : squared (k * 2 ^ (times + 1) + 1) times (x ^ k) % (k * 2 ^ (times + 1) + 1) ≠ 1)
    (rest : squared (k * 2 ^ (times + 1) + 1) (times + 1) x % (k * 2 ^ (times + 1) + 1) ≠ 1) :
    (k * 2 ^ (times + 1) + 1).Prime := by
  have large : 1 < k * 2 ^ (times + 1) + 1 := by
    have positive := Nat.mul_pos prime.pos (Nat.pow_pos (n := times + 1) (show 0 < 2 by decide))
    omega
  refine lucas_primality _ x ?_ fun factor primeFactor divides => ?_
  · rw [natCast_pow_eq_one_iff large, Nat.add_sub_cancel, pow_mul, ← squared_mod]
    exact full
  · rw [Nat.add_sub_cancel] at divides
    rw [Ne, natCast_pow_eq_one_iff large, Nat.add_sub_cancel]
    rcases (Nat.Prime.dvd_mul primeFactor).mp divides with divides | divides
    · obtain rfl : factor = k := (Nat.prime_dvd_prime_iff_eq primeFactor prime).mp divides
      rw [Nat.mul_div_cancel_left _ prime.pos, ← squared_mod]
      exact rest
    · obtain rfl : factor = 2 :=
        (Nat.prime_dvd_prime_iff_eq primeFactor Nat.prime_two).mp (primeFactor.dvd_of_dvd_pow divides)
      have halved : k * 2 ^ (times + 1) / 2 = k * 2 ^ times := by
        rw [pow_succ, ← Nat.mul_assoc, Nat.mul_div_cancel _ (by decide)]
      rw [halved, pow_mul, ← squared_mod]
      exact half

end Modular

namespace Rsa

theorem pow_modEq_self {p k : Nat} (prime : p.Prime) (one : k % (p - 1) = 1) (x : Nat) :
    x ^ k ≡ x [MOD p] := by
  have : Fact p.Prime := ⟨prime⟩
  have split : k = (p - 1) * (k / (p - 1)) + 1 := by
    have division := Nat.div_add_mod k (p - 1)
    omega
  refine (ZMod.natCast_eq_natCast_iff _ _ _).mp ?_
  rw [Nat.cast_pow, split, pow_succ, pow_mul]
  by_cases zero : (x : ZMod p) = 0
  · rw [zero, mul_zero]
  · rw [ZMod.pow_card_sub_one_eq_one zero, one_pow, one_mul]

/-- The two exponents of a key undo each other. -/
theorem power_power {p q e d x : Nat} (first : p.Prime) (second : q.Prime) (apart : p ≠ q)
    (underFirst : e * d % (p - 1) = 1) (underSecond : e * d % (q - 1) = 1) (small : x < p * q) :
    Modular.power (p * q) (Modular.power (p * q) x d) e = x := by
  have coprime : Nat.Coprime p q := (Nat.coprime_primes first second).mpr apart
  have same : x ^ (d * e) ≡ x [MOD p * q] := by
    rw [Nat.mul_comm d e]
    exact (Nat.modEq_and_modEq_iff_modEq_mul coprime).mp
      ⟨pow_modEq_self first underFirst x, pow_modEq_self second underSecond x⟩
  rw [Modular.power_eq, Modular.power_eq, ← Nat.pow_mod, ← pow_mul, same, Nat.mod_eq_of_lt small]

@[simp]
theorem length_sha256 (message : Bytes) : (Sha2.sha256 message).length = 32 := by
  simp [Sha2.sha256, Sha2.hash, Sha2.State.words]

theorem length_encoded {width : Nat} (room : 54 ≤ width) (message : Bytes) :
    (encoded .sha256 width message).length = width := by
  simp [encoded, Hash.frame, Hash.digest, length_sha256]
  omega

theorem toNat_encoded_lt {width : Nat} (room : 54 ≤ width) (message : Bytes) :
    Bytes.toNat (encoded .sha256 width message) < 256 ^ (width - 1) := by
  have length := length_encoded room message
  obtain ⟨rest, digits⟩ : ∃ rest, encoded .sha256 width message = 0x00 :: rest := ⟨_, rfl⟩
  rw [digits, List.length_cons] at length
  have bound := Bytes.toNat_lt rest
  rw [digits, Bytes.toNat_cons, ← length, Nat.add_sub_cancel]
  simpa using bound

/-- A key that signs and whose factors are different primes. -/
structure PrivateKey.IsSound (key : PrivateKey) : Prop where
  consistent : isKey key
  usable : canSign key
  first : key.factors.1.Prime
  second : key.factors.2.Prime
  apart : key.factors.1 ≠ key.factors.2

theorem width_of_isUsable {key : PublicKey} (usable : isUsable key) : 54 ≤ Bytes.width key.modulus := by
  simp only [isUsable, modulusBits, Bool.and_eq_true, decide_eq_true_eq] at usable
  rw [Bytes.width]
  split
  · next zero => simp [zero] at usable
  · next nonzero =>
    simp only [if_neg nonzero, decide_eq_true_eq] at usable
    omega

variable {key : PrivateKey} {message signature : Bytes}

theorem sign?_isSome (usable : canSign key) (message : Bytes) : (sign? .sha256 key message).isSome := by
  rw [sign?, if_pos usable, Option.isSome_some]

/-- What a sound key signs is accepted. -/
theorem verify_of_sign? (sound : key.IsSound) (signed : sign? .sha256 key message = some signature) :
    verify .sha256 key.publicKey message signature := by
  have consistent := sound.consistent
  simp only [isKey, Bool.and_eq_true, beq_iff_eq, decide_eq_true_eq] at consistent
  obtain ⟨⟨⟨_, product⟩, underFirst⟩, underSecond⟩ := consistent
  have usable : isUsable key.publicKey := by
    have usable := sound.usable
    simp only [canSign, Bool.and_eq_true] at usable
    exact usable.1.1.1.1
  have room := width_of_isUsable usable
  have positive : key.publicKey.modulus ≠ 0 := by
    intro zero
    rw [zero] at room
    exact absurd room (by decide)
  have small : Bytes.toNat (encoded .sha256 (Bytes.width key.publicKey.modulus) message) <
      key.publicKey.modulus :=
    Nat.lt_of_lt_of_le (toNat_encoded_lt room message) (Bytes.pow_width_le positive)
  rw [sign?, if_pos sound.usable, Option.some.injEq] at signed
  have reduced : ∀ x, Modular.power key.publicKey.modulus x key.secretExponent <
      key.publicKey.modulus := by
    intro x
    rw [Modular.power_eq]
    exact Nat.mod_lt _ (Nat.pos_of_ne_zero positive)
  have number : Bytes.toNat signature = Modular.power key.publicKey.modulus
      (Bytes.toNat (encoded .sha256 (Bytes.width key.publicKey.modulus) message)) key.secretExponent := by
    rw [← signed, Bytes.toNat_ofNat]
    exact Nat.mod_eq_of_lt (Nat.lt_trans (reduced _) (Bytes.lt_pow_width _))
  have back : Modular.power key.publicKey.modulus (Bytes.toNat signature) key.publicKey.exponent =
      Bytes.toNat (encoded .sha256 (Bytes.width key.publicKey.modulus) message) := by
    rw [number]
    rw [← product] at small ⊢
    exact power_power sound.first sound.second sound.apart underFirst underSecond small
  have digits := Bytes.ofNat_toNat (encoded .sha256 (Bytes.width key.publicKey.modulus) message)
  rw [length_encoded room] at digits
  have length : signature.length = Bytes.width key.publicKey.modulus := by
    rw [← signed, Bytes.length_ofNat]
  have below : Bytes.toNat signature < key.publicKey.modulus := by
    rw [number]
    exact reduced _
  have opens : opened? key.publicKey signature = some _ := if_pos ⟨usable, length, below⟩
  simp only [verify, opens, back, digits, Option.any_some, BEq.rfl]

theorem publicKey?_ofNatMinimal {modulus exponent : Nat} (modulusNonzero : modulus ≠ 0)
    (exponentNonzero : exponent ≠ 0) :
    publicKey? (Bytes.ofNatMinimal modulus) (Bytes.ofNatMinimal exponent) = some ⟨modulus, exponent⟩ := by
  simp only [publicKey?, Bytes.head?_ofNatMinimal modulusNonzero,
    Bytes.head?_ofNatMinimal exponentNonzero, Bool.or_self, Bool.false_eq_true, if_false,
    Bytes.toNat_ofNatMinimal]

/-- The inverse of the second factor can be had from the theorem of Fermat. -/
theorem canSign_of_inverse {key : PrivateKey} (first : key.factors.1.Prime)
    (apart : ¬ key.factors.1 ∣ key.factors.2)
    (inverse : key.coefficient = Modular.inverse key.factors.1 key.factors.2)
    (others : isUsable key.publicKey && key.secretExponent < key.publicKey.modulus &&
      isInverse (key.factors.1 - 1) key.publicKey.exponent key.exponents.1 &&
      isInverse (key.factors.2 - 1) key.publicKey.exponent key.exponents.2) : canSign key := by
  have undone : isInverse key.factors.1 key.factors.2 key.coefficient := by
    rw [isInverse, Bool.and_eq_true, decide_eq_true_eq, beq_iff_eq, inverse]
    exact ⟨Modular.inverse_lt first.pos _, Modular.mul_inverse first apart⟩
  exact Bool.and_eq_true_iff.mpr ⟨others, undone⟩

namespace PrivateKey

def firstFactor : Nat := 3931 * 2 ^ (1011 + 1) + 1

def secondFactor : Nat := 15607 * 2 ^ (1009 + 1) + 1

set_option maxRecDepth 100000 in
theorem firstFactor_prime : firstFactor.Prime :=
  @Modular.prime_of_squared 3931 1011 3 (by norm_num) (by decide +kernel) (by decide +kernel)
    (by decide +kernel)

set_option maxRecDepth 100000 in
theorem secondFactor_prime : secondFactor.Prime :=
  @Modular.prime_of_squared 15607 1009 3 (by norm_num) (by decide +kernel) (by decide +kernel)
    (by decide +kernel)

/-- A key whose factors are known to be prime. -/
def sample : PrivateKey where
  publicKey := ⟨firstFactor * secondFactor, 3⟩
  secretExponent := (2 * (3931 * 15607 * 2 ^ 1012) + 1) / 3
  factors := (firstFactor, secondFactor)
  exponents := ((2 * (firstFactor - 1) + 1) / 3, (2 * (secondFactor - 1) + 1) / 3)
  coefficient := Modular.inverse firstFactor secondFactor

theorem sample_isSound : sample.IsSound where
  consistent := by decide +kernel
  usable := canSign_of_inverse firstFactor_prime (by decide +kernel) (by simp only [sample]) (by decide +kernel)
  first := firstFactor_prime
  second := secondFactor_prime
  apart := by decide +kernel

end PrivateKey

end Rsa

end LtiPlatform
