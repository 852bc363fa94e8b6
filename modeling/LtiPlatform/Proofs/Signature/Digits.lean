import Mathlib.Tactic.Common
import Mathlib.Tactic.Ring
import LtiPlatform.Signature.Bytes

namespace LtiPlatform.Bytes

theorem toNat_append_singleton (bytes : Bytes) (byte : UInt8) :
    toNat (bytes ++ [byte]) = toNat bytes * 256 + byte.toNat := by
  rw [toNat, toNat, List.foldl_append, List.foldl_cons, List.foldl_nil]

theorem toNat_append (high low : Bytes) :
    toNat (high ++ low) = toNat high * 256 ^ low.length + toNat low := by
  induction low generalizing high with
  | nil => simp [toNat]
  | cons byte rest ih =>
    have first := ih (high ++ [byte])
    have alone := ih [byte]
    have digit : toNat [byte] = byte.toNat := by simp [toNat]
    rw [List.append_assoc, List.singleton_append, toNat_append_singleton] at first
    rw [List.singleton_append, digit] at alone
    rw [first, alone, List.length_cons, pow_succ]
    ring

theorem toNat_cons (byte : UInt8) (rest : Bytes) :
    toNat (byte :: rest) = byte.toNat * 256 ^ rest.length + toNat rest := by
  have digit : toNat [byte] = byte.toNat := by simp [toNat]
  rw [← List.singleton_append, toNat_append, digit]

theorem toNat_lt (bytes : Bytes) : toNat bytes < 256 ^ bytes.length := by
  induction bytes with
  | nil => simp [toNat]
  | cons byte rest ih =>
    have bound : byte.toNat + 1 ≤ 256 := byte.toNat_lt
    have scaled := Nat.mul_le_mul_right (256 ^ rest.length) bound
    rw [toNat_cons, List.length_cons, pow_succ]
    rw [Nat.add_mul] at scaled
    omega

theorem toNat_injective {left right : Bytes} (length : left.length = right.length)
    (same : toNat left = toNat right) : left = right := by
  induction left generalizing right with
  | nil => exact (List.length_eq_zero_iff.mp length.symm).symm
  | cons byte rest ih =>
    cases right with
    | nil => cases length
    | cons other rest' =>
      have lengthRest : rest.length = rest'.length := Nat.succ.inj length
      have bound := toNat_lt rest
      have bound' := toNat_lt rest'
      have positive : 0 < 256 ^ rest'.length := Nat.pow_pos (by decide)
      rw [toNat_cons, toNat_cons, lengthRest] at same
      rw [lengthRest] at bound
      have quotient : ∀ high low, low < 256 ^ rest'.length →
          (high * 256 ^ rest'.length + low) / 256 ^ rest'.length = high := by
        intro high low below
        rw [Nat.mul_comm, Nat.mul_add_div positive, Nat.div_eq_of_lt below, Nat.add_zero]
      have sameByte : byte.toNat = other.toNat := by
        rw [← quotient byte.toNat _ bound, same, quotient other.toNat _ bound']
      rw [UInt8.toNat_inj.mp sameByte, ih lengthRest (by rw [sameByte] at same; omega)]

theorem length_ofNatAux (count value : Nat) (low : Bytes) :
    (ofNatAux count value low).length = count + low.length := by
  induction count generalizing value low with
  | zero => simp [ofNatAux]
  | succ count ih =>
    rw [ofNatAux, ih, List.length_cons]
    omega

@[simp]
theorem length_ofNat (count value : Nat) : (ofNat count value).length = count :=
  length_ofNatAux count value []

theorem toNat_ofNatAux (count value : Nat) (low : Bytes) :
    toNat (ofNatAux count value low) = value % 256 ^ count * 256 ^ low.length + toNat low := by
  induction count generalizing value low with
  | zero => simp [ofNatAux, Nat.mod_one]
  | succ count ih =>
    have digit : (UInt8.ofNat (value % 256)).toNat = value % 256 := by simp
    have split : value % 256 ^ (count + 1) = value / 256 % 256 ^ count * 256 + value % 256 := by
      rw [pow_succ, Nat.mul_comm (256 ^ count), Nat.mod_mul]
      ring
    rw [ofNatAux, ih, toNat_cons, digit, split, List.length_cons, pow_succ]
    ring

@[simp]
theorem toNat_ofNat (count value : Nat) : toNat (ofNat count value) = value % 256 ^ count := by
  rw [ofNat, toNat_ofNatAux]
  simp [toNat]

@[simp]
theorem ofNat_toNat (bytes : Bytes) : ofNat bytes.length (toNat bytes) = bytes := by
  refine toNat_injective (length_ofNat _ _) ?_
  simp [Nat.mod_eq_of_lt (toNat_lt bytes)]

theorem lt_pow_width (value : Nat) : value < 256 ^ width value := by
  rw [width]
  split
  · next zero => simp [zero]
  · next nonzero =>
    have below := Nat.lt_log2_self (n := value)
    have base : (256 : Nat) ^ (value.log2 / 8 + 1) = 2 ^ (8 * (value.log2 / 8 + 1)) := by
      rw [pow_mul, show (2 : Nat) ^ 8 = 256 from rfl]
    rw [base]
    refine Nat.lt_of_lt_of_le below (Nat.pow_le_pow_right (by decide) ?_)
    omega

theorem pow_width_le {value : Nat} (nonzero : value ≠ 0) : 256 ^ (width value - 1) ≤ value := by
  have base : (256 : Nat) ^ (value.log2 / 8) = 2 ^ (8 * (value.log2 / 8)) := by
    rw [pow_mul, show (2 : Nat) ^ 8 = 256 from rfl]
  rw [width, if_neg nonzero, Nat.add_sub_cancel, base]
  refine Nat.le_trans (Nat.pow_le_pow_right (by decide) ?_) (Nat.log2_self_le nonzero)
  omega

@[simp]
theorem toNat_ofNatMinimal (value : Nat) : toNat (ofNatMinimal value) = value := by
  simp [ofNatMinimal, Nat.mod_eq_of_lt (lt_pow_width value)]

/-- The digits of a number begin with one that is not zero. -/
theorem head?_ofNatMinimal {value : Nat} (nonzero : value ≠ 0) :
    (ofNatMinimal value).head?.all (· == 0) = false := by
  have back := toNat_ofNatMinimal value
  have length : (ofNatMinimal value).length = width value := length_ofNat _ _
  cases digits : ofNatMinimal value with
  | nil =>
    rw [digits] at back
    exact absurd back.symm nonzero
  | cons first rest =>
    rw [digits, toNat_cons] at back
    rw [digits, List.length_cons] at length
    have bound := toNat_lt rest
    have least := pow_width_le nonzero
    rw [← length, Nat.add_sub_cancel] at least
    have notZero : first ≠ 0 := by
      rintro rfl
      simp only [UInt8.toNat_zero, Nat.zero_mul, Nat.zero_add] at back
      omega
    simpa using notZero

end LtiPlatform.Bytes
