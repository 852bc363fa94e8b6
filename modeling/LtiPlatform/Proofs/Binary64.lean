import Mathlib.Algebra.Order.Floor.Semifield
import Mathlib.Algebra.Order.Round
import Mathlib.Data.Rat.Floor
import Mathlib.Tactic
import LtiPlatform.Binary64

namespace LtiPlatform

namespace Binary64

variable {x : Binary64} {place : Int} {n : Nat}

/-- A neighbor that was found rounds back, which of the two it is. -/
theorem roundsBack_of_neighbor? (found : x.neighbor? place = some n) : x.roundsBack place n := by
  simp only [neighbor?] at found
  split at found
  · cases found
  · next below _ =>
    cases found
    exact below
  · next _ above =>
    cases found
    exact above
  · next below above =>
    split at found
    · cases found
      exact below
    · split at found
      · cases found
        exact above
      -- Both are equally near, and the even one was taken.
      · cases found
        rcases Nat.mod_two_eq_zero_or_one
          (4 * x.significand * binaryUnit place (x.exponent - 2) / decimalUnit place (x.exponent - 2))
          with even | odd
        · rw [even]
          exact below
        · rw [odd]
          exact above

theorem binaryUnit_pos (place exponent : Int) : 0 < binaryUnit place exponent :=
  Nat.mul_pos (Nat.pow_pos (by decide)) (Nat.pow_pos (by decide))

/-- Four times the least significand that is rounded to the one of the double; below a power of two the doubles are
closer together. -/
def low (x : Binary64) : Nat :=
  if x.significand = 2 ^ 52 ∧ leastExponent < x.exponent then 4 * x.significand - 1 else 4 * x.significand - 2

theorem two_le_low (nonzero : x.significand ≠ 0) : 2 ≤ x.low := by
  rw [low]
  split <;> omega

theorem low_le (x : Binary64) : x.low ≤ 4 * x.significand := by
  rw [low]
  split <;> omega

/-- What rounds back is between the two bounds, and on neither of them where the significand is odd. -/
theorem roundsBack_iff : x.roundsBack place n ↔
    x.low * binaryUnit place (x.exponent - 2) ≤ n * decimalUnit place (x.exponent - 2) ∧
    n * decimalUnit place (x.exponent - 2) ≤ (4 * x.significand + 2) * binaryUnit place (x.exponent - 2) ∧
    (x.significand % 2 ≠ 0 →
      x.low * binaryUnit place (x.exponent - 2) < n * decimalUnit place (x.exponent - 2) ∧
      n * decimalUnit place (x.exponent - 2) < (4 * x.significand + 2) * binaryUnit place (x.exponent - 2)) := by
  simp only [roundsBack, Nat.pow_eq, ← low.eq_1]
  split
  · next even => simp [even]
  · next odd =>
    rw [decide_eq_true_eq]
    exact ⟨fun inside => ⟨inside.1.le, inside.2.le, fun _ => inside⟩, fun inside => inside.2.2 odd⟩

/-- No double but zero rounds to zero. -/
theorem not_roundsBack_zero (nonzero : x.significand ≠ 0) (place : Int) : ¬ x.roundsBack place 0 := by
  rw [roundsBack_iff, Nat.zero_mul]
  rintro ⟨above, _⟩
  exact absurd above (Nat.not_le.mpr (Nat.mul_pos (Nat.lt_of_lt_of_le (by decide) (two_le_low nonzero))
    (binaryUnit_pos place (x.exponent - 2))))

/-- The first decimal that is found on finer and finer grids rounds back. -/
theorem roundsBack_of_found {decimal : Decimal} (found : ((List.range 24).findSome? fun (step : Nat) =>
      (x.neighbor? (x.leadingPlace - step)).map fun digits =>
        (⟨digits, x.leadingPlace - step⟩ : Decimal)) = some decimal) :
    x.roundsBack decimal.exponent decimal.digits := by
  obtain ⟨step, _, here⟩ := List.exists_of_findSome?_eq_some found
  obtain ⟨digits, neighbor, rfl⟩ := Option.map_eq_some_iff.mp here
  exact roundsBack_of_neighbor? neighbor

/-- Where the shortest decimal has no digits, it is a plain zero. -/
theorem exponent_shortest (zero : x.shortest.digits = 0) : x.shortest.exponent = 0 := by
  rw [shortest] at zero ⊢
  split at zero
  · next isZero => rw [if_pos isZero]
  · next nonzero =>
    rw [if_neg nonzero]
    simp only at zero ⊢
    cases found : (List.range 24).findSome? fun (step : Nat) =>
        (x.neighbor? (x.leadingPlace - step)).map fun digits =>
          (⟨digits, x.leadingPlace - step⟩ : Decimal) with
    | none => rfl
    | some decimal =>
      have back := roundsBack_of_found found
      rw [found] at zero
      rw [show decimal.digits = 0 from zero] at back
      refine absurd back (not_roundsBack_zero ?_ _)
      simpa [isZero] using nonzero

section Rounding

/-- A scaled quotient is the quotient times the power. -/
theorem scale_eq {base : Nat} (positive : 0 < base) (exponent : Int) (numerator : Nat) {denominator : Nat}
    (nonzero : 0 < denominator) :
    0 < (scale base exponent numerator denominator).2 ∧
      ((scale base exponent numerator denominator).1 : ℚ) / (scale base exponent numerator denominator).2 =
        numerator / denominator * (base : ℚ) ^ exponent := by
  have unit : (base : ℚ) ≠ 0 := Nat.cast_ne_zero.mpr positive.ne'
  have below : (denominator : ℚ) ≠ 0 := Nat.cast_ne_zero.mpr nonzero.ne'
  rw [scale]
  split
  · next negative =>
    obtain ⟨n, rfl⟩ : ∃ n : Nat, exponent = -n := ⟨(-exponent).toNat, by omega⟩
    have power : (0 : ℕ) < base ^ n := Nat.pow_pos positive
    simp only [neg_neg, Int.toNat_natCast, Nat.pow_eq, Nat.cast_mul, Nat.cast_pow, zpow_neg, zpow_natCast]
    exact ⟨Nat.mul_pos nonzero power, by field_simp⟩
  · next natural =>
    obtain ⟨n, rfl⟩ : ∃ n : Nat, exponent = n := ⟨exponent.toNat, by omega⟩
    simp only [Int.toNat_natCast, Nat.pow_eq, Nat.cast_mul, Nat.cast_pow, zpow_natCast]
    exact ⟨nonzero, by field_simp⟩

theorem divideToEven_le {numerator denominator bound : Nat} (small : numerator < bound * denominator) :
    divideToEven numerator denominator ≤ bound := by
  have quotient : numerator / denominator < bound := Nat.div_lt_of_lt_mul (by rwa [Nat.mul_comm] at small)
  simp only [divideToEven]
  split
  · omega
  · split <;> omega

/-- The binary logarithms tell a quotient's magnitude. -/
theorem quotient_lt (numerator : Nat) {denominator : Nat} (nonzero : 0 < denominator) :
    (numerator : ℚ) / denominator < 2 ^ ((numerator.log2 : Int) - denominator.log2 + 1) := by
  have above : (numerator : ℚ) < 2 ^ (numerator.log2 + 1) := by exact_mod_cast Nat.lt_log2_self
  have below : (2 : ℚ) ^ denominator.log2 ≤ denominator := by exact_mod_cast Nat.log2_self_le nonzero.ne'
  calc (numerator : ℚ) / denominator
      < 2 ^ (numerator.log2 + 1) / 2 ^ denominator.log2 :=
        div_lt_div₀ above below (by positivity) (by positivity)
    _ = 2 ^ ((numerator.log2 : Int) - denominator.log2 + 1) := by
        rw [← zpow_natCast, ← zpow_natCast, ← zpow_sub₀ two_ne_zero]
        congr 1
        push_cast
        ring

theorem scaled_lt_iff (numerator : Nat) {denominator : Nat} (nonzero : 0 < denominator) (exponent : Int)
    (bound : Nat) :
    (scale 2 (-exponent) numerator denominator).1 < 2 ^ bound * (scale 2 (-exponent) numerator denominator).2 ↔
      (numerator : ℚ) / denominator < 2 ^ (exponent + bound) := by
  obtain ⟨positive, value⟩ := scale_eq two_pos (-exponent) numerator nonzero
  have power : (2 : ℚ) ^ (exponent + bound) = 2 ^ exponent * 2 ^ bound := by
    rw [zpow_add₀ two_ne_zero, zpow_natCast]
  rw [← Nat.cast_lt (α := ℚ), Nat.cast_mul, ← div_lt_iff₀ (by exact_mod_cast positive), value, zpow_neg,
    ← div_eq_mul_inv, div_lt_iff₀ (by positivity), power, mul_comm]
  norm_cast

theorem lt_quotient {numerator denominator : Nat} (positive : 0 < numerator) (nonzero : 0 < denominator) :
    (2 : ℚ) ^ ((numerator.log2 : Int) - denominator.log2 - 1) < numerator / denominator := by
  have below : (2 : ℚ) ^ numerator.log2 ≤ numerator := by exact_mod_cast Nat.log2_self_le positive.ne'
  have above : (denominator : ℚ) < 2 ^ (denominator.log2 + 1) := by exact_mod_cast Nat.lt_log2_self
  have unit : (0 : ℚ) < denominator := by exact_mod_cast nonzero
  calc (2 : ℚ) ^ ((numerator.log2 : Int) - denominator.log2 - 1)
      = 2 ^ numerator.log2 / 2 ^ (denominator.log2 + 1) := by
        rw [← zpow_natCast, ← zpow_natCast, ← zpow_sub₀ two_ne_zero]
        congr 1
        push_cast
        ring
    _ < numerator / denominator := div_lt_div₀' below above (by positivity) unit

/-- The double nearest to a quotient among those with the exponent, or with the next one where the significand would
have 54 bits. -/
def roundedAt (negative : Bool) (exponent : Int) (numerator denominator : Nat) : Option Binary64 :=
  let scaled := scale 2 (-exponent) numerator denominator
  let rounded := divideToEven scaled.1 scaled.2
  let (significand, exponent) :=
    if rounded = Nat.pow 2 53 then (Nat.pow 2 52, exponent + 1) else (rounded, exponent)
  if greatestExponent < exponent then none else some ⟨negative, significand, exponent⟩

/-- A quotient is rounded at the exponent that leaves 53 bits before the point, if that is not below the least one. -/
theorem exists_ofQuotient_eq (negative : Bool) (numerator : Nat) {denominator : Nat} (nonzero : 0 < denominator) :
    ∃ exact : Int, (numerator : ℚ) / denominator < 2 ^ (exact + 53) ∧
      (0 < numerator → (2 : ℚ) ^ (exact + 52) ≤ numerator / denominator) ∧
      ofQuotient negative numerator denominator =
        roundedAt negative (max exact leastExponent) numerator denominator := by
  obtain ⟨estimate, isEstimate⟩ :
      ∃ estimate : Int, estimate = (numerator.log2 : Int) - denominator.log2 - 52 := ⟨_, rfl⟩
  have positive := (scale_eq two_pos (-estimate) numerator nonzero).1
  have fits := scaled_lt_iff numerator nonzero estimate 52
  rw [← Nat.div_lt_iff_lt_mul positive] at fits
  -- The estimate is right or one too great.
  by_cases small : (scale 2 (-estimate) numerator denominator).1 / (scale 2 (-estimate) numerator denominator).2 <
      2 ^ 52
  · refine ⟨estimate - 1, ?_, fun nonzero' => ?_, ?_⟩
    · rw [show estimate - 1 + 53 = estimate + (52 : Nat) by omega]
      exact fits.mp small
    · rw [show estimate - 1 + 52 = numerator.log2 - denominator.log2 - 1 by omega]
      exact (lt_quotient nonzero' nonzero).le
    · rw [ofQuotient, ← isEstimate]
      simp only [Nat.pow_eq, if_pos small]
      rfl
  · refine ⟨estimate, ?_, fun _ => ?_, ?_⟩
    · rw [show estimate + 53 = numerator.log2 - denominator.log2 + 1 by omega]
      exact quotient_lt numerator nonzero
    · exact not_lt.mp (mt fits.mpr small)
    · rw [ofQuotient, ← isEstimate]
      simp only [Nat.pow_eq, if_neg small]
      rfl

/-- What a quotient below 53 bits is rounded to. -/
theorem rounded_le {numerator denominator : Nat} (nonzero : 0 < denominator) {exponent : Int}
    (fits : (numerator : ℚ) / denominator < 2 ^ (exponent + 53)) :
    divideToEven (scale 2 (-exponent) numerator denominator).1 (scale 2 (-exponent) numerator denominator).2 ≤
      2 ^ 53 :=
  divideToEven_le ((scaled_lt_iff numerator nonzero exponent 53).mpr fits)

end Rounding

section Value

/-- The magnitude of the number. -/
def magnitude (x : Binary64) : ℚ := x.significand * 2 ^ x.exponent

def value (x : Binary64) : ℚ := if x.negative then -x.magnitude else x.magnitude

theorem magnitude_nonneg (x : Binary64) : 0 ≤ x.magnitude :=
  mul_nonneg (Nat.cast_nonneg _) (zpow_nonneg zero_le_two _)

/-- The nearest whole number, computed from twice the number. -/
theorem round_magnitude (x : Binary64) :
    round x.magnitude =
      (((scale 2 x.exponent (2 * x.significand) 1).1 / (scale 2 x.exponent (2 * x.significand) 1).2 + 1) / 2 :
        Nat) := by
  have twice : ((scale 2 x.exponent (2 * x.significand) 1).1 : ℚ) / (scale 2 x.exponent (2 * x.significand) 1).2 =
      2 * x.magnitude := by
    rw [(scale_eq (by decide) _ _ Nat.one_pos).2, magnitude]
    push_cast
    ring
  have half : x.magnitude + 1 / 2 = (2 * x.magnitude + 1) / (2 : Nat) := by
    push_cast
    ring
  have above := x.magnitude_nonneg
  rw [round_eq, half, ← Int.natCast_floor_eq_floor (by positivity), Nat.floor_div_natCast,
    Nat.floor_add_one (by positivity), ← twice, Nat.floor_div_eq_div]

/-- Doubles below `2 ^ 64` keep so far away from it that none is rounded up to it. -/
theorem round_magnitude_lt_iff {x : Binary64} (bits : x.significand < 2 ^ 53) :
    round x.magnitude < 2 ^ 64 ↔ x.magnitude < 2 ^ 64 := by
  rw [round_eq, Int.floor_lt]
  push_cast
  constructor
  · intro below
    linarith
  · intro below
    rcases Int.lt_or_le x.exponent 0 with fraction | whole
    · have half : x.magnitude ≤ x.significand * (1 / 2) := by
        refine mul_le_mul_of_nonneg_left ?_ (Nat.cast_nonneg _)
        calc (2 : ℚ) ^ x.exponent ≤ 2 ^ (-1 : Int) := zpow_le_zpow_right₀ one_le_two (by omega)
          _ = 1 / 2 := by norm_num
      have small : (x.significand : ℚ) < 2 ^ 53 := by exact_mod_cast bits
      linarith
    · obtain ⟨n, isNat⟩ := Int.eq_ofNat_of_zero_le whole
      have natural : x.magnitude = (x.significand * 2 ^ n : Nat) := by
        rw [magnitude, isNat]
        push_cast
        rfl
      rw [natural] at below ⊢
      have room : x.significand * 2 ^ n + 1 ≤ 2 ^ 64 := by exact_mod_cast below
      have room : ((x.significand * 2 ^ n : Nat) : ℚ) + 1 ≤ 2 ^ 64 := by exact_mod_cast room
      linarith

end Value

end Binary64

end LtiPlatform
