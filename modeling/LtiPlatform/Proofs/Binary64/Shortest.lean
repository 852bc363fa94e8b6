import LtiPlatform.Proofs.Binary64

namespace LtiPlatform

namespace Binary64

/-- Doubles as they come from rounding: the significand has 53 bits unless the exponent is the least one. -/
structure IsCanonical (x : Binary64) : Prop where
  bits : x.significand < 2 ^ 53
  least : leastExponent ≤ x.exponent
  greatest : x.exponent ≤ greatestExponent
  normal : 2 ^ 52 ≤ x.significand ∨ x.exponent = leastExponent

section Nearest

/-- The natural number is the nearest one, an even one if two are equally near. -/
structure IsNearest (value : ℚ) (q : Nat) : Prop where
  above : (q : ℚ) - 1 / 2 ≤ value
  below : value ≤ q + 1 / 2
  strict : q % 2 ≠ 0 → (q : ℚ) - 1 / 2 < value ∧ value < q + 1 / 2

variable {numerator denominator q : Nat}

/-- Of a quotient, in natural numbers. -/
theorem IsNearest.multiplied (nonzero : 0 < denominator) (nearest : IsNearest ((numerator : ℚ) / denominator) q) :
    2 * (q * denominator) ≤ 2 * numerator + denominator ∧ 2 * numerator ≤ 2 * (q * denominator) + denominator ∧
    (q % 2 ≠ 0 →
      2 * (q * denominator) < 2 * numerator + denominator ∧
      2 * numerator < 2 * (q * denominator) + denominator) := by
  have unit : (0 : ℚ) < denominator := by exact_mod_cast nonzero
  refine ⟨?_, ?_, fun odd => ⟨?_, ?_⟩⟩
  · have above := (le_div_iff₀ unit).mp nearest.above
    have : (2 * (q * denominator) : ℚ) ≤ 2 * numerator + denominator := by linarith
    exact_mod_cast this
  · have below := (div_le_iff₀ unit).mp nearest.below
    have : (2 * numerator : ℚ) ≤ 2 * (q * denominator) + denominator := by linarith
    exact_mod_cast this
  · have above := (lt_div_iff₀ unit).mp (nearest.strict odd).1
    have : (2 * (q * denominator) : ℚ) < 2 * numerator + denominator := by linarith
    exact_mod_cast this
  · have below := (div_lt_iff₀ unit).mp (nearest.strict odd).2
    have : (2 * numerator : ℚ) < 2 * (q * denominator) + denominator := by linarith
    exact_mod_cast this

theorem divideToEven_eq (nonzero : 0 < denominator) (nearest : IsNearest ((numerator : ℚ) / denominator) q) :
    divideToEven numerator denominator = q := by
  obtain ⟨above, below, strict⟩ := nearest.multiplied nonzero
  have divided := Nat.div_add_mod numerator denominator
  have rest := Nat.mod_lt numerator nonzero
  simp only [divideToEven]
  generalize numerator / denominator = quotient at divided ⊢
  generalize numerator % denominator = rest at divided rest ⊢
  have candidates : q = quotient ∨ q = quotient + 1 := by
    have upper : q < quotient + 2 := by
      refine Nat.lt_of_mul_lt_mul_right (a := denominator) ?_
      nlinarith
    have lower : quotient < q + 1 := by
      refine Nat.lt_of_mul_lt_mul_right (a := denominator) ?_
      nlinarith
    omega
  rw [Nat.mul_comm] at divided
  rcases candidates with rfl | rfl
  · split
    · rfl
    · split <;> omega
  · rw [Nat.add_mul] at above below strict
    split
    · omega
    · split <;> omega

theorem rounded_eq (nonzero : 0 < denominator) {exponent : Int}
    (nearest : IsNearest ((numerator : ℚ) / denominator * 2 ^ (-exponent)) q) :
    divideToEven (scale 2 (-exponent) numerator denominator).1 (scale 2 (-exponent) numerator denominator).2 = q := by
  obtain ⟨positive, value⟩ := scale_eq two_pos (-exponent) numerator nonzero
  refine divideToEven_eq positive ?_
  rw [value]
  exact_mod_cast nearest

end Nearest

section Rounding

variable {x : Binary64} {value : ℚ}

/-- The values that are rounded to the double, half a place to either side, ends included where the significand is
even. -/
structure Rounds (x : Binary64) (value : ℚ) : Prop where
  above : (x.low : ℚ) * 2 ^ (x.exponent - 2) ≤ value
  below : value ≤ (4 * x.significand + 2) * 2 ^ (x.exponent - 2)
  strict : x.significand % 2 ≠ 0 →
    (x.low : ℚ) * 2 ^ (x.exponent - 2) < value ∧ value < (4 * x.significand + 2) * 2 ^ (x.exponent - 2)

theorem cast_low (x : Binary64) : (4 * x.significand - 2 : ℚ) ≤ x.low := by
  have bound : 4 * x.significand ≤ x.low + 2 := by
    rw [low]
    split <;> omega
  have : (4 * x.significand : ℚ) ≤ x.low + 2 := by exact_mod_cast bound
  linarith

theorem Rounds.pos (rounds : x.Rounds value) (nonzero : x.significand ≠ 0) : 0 < value := by
  have low : (0 : ℚ) < x.low := by exact_mod_cast Nat.lt_of_lt_of_le (by decide) (two_le_low nonzero)
  exact lt_of_lt_of_le (by positivity) rounds.above

theorem quarter (exponent : Int) : (2 : ℚ) ^ (exponent - 2) = 2 ^ exponent / 4 := by
  rw [zpow_sub₀ two_ne_zero]
  norm_num

/-- In units of the last place. -/
theorem Rounds.isNearest (rounds : x.Rounds value) :
    IsNearest (value * 2 ^ (-x.exponent)) x.significand := by
  have low := x.cast_low
  have unit : (0 : ℚ) < 2 ^ x.exponent := by positivity
  obtain ⟨above, below, strict⟩ := rounds
  simp only [quarter] at above below strict
  rw [zpow_neg, ← div_eq_mul_inv]
  refine ⟨?_, ?_, fun odd => ⟨?_, ?_⟩⟩
  · rw [le_div_iff₀ unit]
    nlinarith
  · rw [div_le_iff₀ unit]
    linarith
  · rw [lt_div_iff₀ unit]
    nlinarith [(strict odd).1]
  · rw [div_lt_iff₀ unit]
    linarith [(strict odd).2]

theorem roundedAt_eq {negative : Bool} {numerator denominator q : Nat} (nonzero : 0 < denominator) {exponent : Int}
    (nearest : IsNearest ((numerator : ℚ) / denominator * 2 ^ (-exponent)) q) (bits : q < 2 ^ 53)
    (inside : exponent ≤ greatestExponent) :
    roundedAt negative exponent numerator denominator = some ⟨negative, q, exponent⟩ := by
  simp only [roundedAt, rounded_eq nonzero nearest, Nat.pow_eq, if_neg bits.ne, if_neg (not_lt.mpr inside)]

/-- What is rounded up to 54 bits is the double with the next exponent. -/
theorem roundedAt_carried {negative : Bool} {numerator denominator : Nat} (nonzero : 0 < denominator) {exponent : Int}
    (nearest : IsNearest ((numerator : ℚ) / denominator * 2 ^ (-exponent)) (2 ^ 53))
    (inside : exponent + 1 ≤ greatestExponent) :
    roundedAt negative exponent numerator denominator = some ⟨negative, 2 ^ 52, exponent + 1⟩ := by
  simp only [roundedAt, rounded_eq nonzero nearest, Nat.pow_eq, if_true, if_neg (not_lt.mpr inside)]

/-- The binary exponent of a value. -/
theorem exponent_eq {exact exponent : Int} (above : (2 : ℚ) ^ (exponent + 52) ≤ value)
    (below : value < 2 ^ (exponent + 53)) (above' : (2 : ℚ) ^ (exact + 52) ≤ value)
    (below' : value < 2 ^ (exact + 53)) : exact = exponent := by
  have first := (zpow_lt_zpow_iff_right₀ one_lt_two).mp (above.trans_lt below')
  have second := (zpow_lt_zpow_iff_right₀ one_lt_two).mp (above'.trans_lt below)
  omega

theorem zpow_add_natCast (exponent : Int) (n : Nat) : (2 : ℚ) ^ (exponent + n) = 2 ^ n * 2 ^ exponent := by
  rw [zpow_add₀ two_ne_zero, zpow_natCast, mul_comm]

/-- What is below a power of two and is rounded to it has the exponent before, and is nearest to the next number of
bits there. -/
theorem Rounds.power (rounds : x.Rounds value) (canonical : x.IsCanonical) (least : x.exponent ≠ leastExponent)
    (under : value < 2 ^ (x.exponent + 52)) :
    x.significand = 2 ^ 52 ∧ (2 : ℚ) ^ (x.exponent - 1 + 52) ≤ value ∧
      IsNearest (value * 2 ^ (-(x.exponent - 1))) (2 ^ 53) := by
  have normal : 2 ^ 52 ≤ x.significand := canonical.normal.resolve_right least
  have unit : (0 : ℚ) < 2 ^ x.exponent := by positivity
  have power : (2 : ℚ) ^ (x.exponent + 52) = 2 ^ 52 * 2 ^ x.exponent := zpow_add_natCast x.exponent 52
  have scaled : value * 2 ^ (-x.exponent) < 2 ^ 52 := by
    rw [zpow_neg, ← div_eq_mul_inv, div_lt_iff₀ unit, ← power]
    exact under
  have isPower : x.significand = 2 ^ 52 := by
    by_contra other
    have greater : ((2 ^ 52 + 1 : Nat) : ℚ) ≤ x.significand := Nat.cast_le.mpr (by omega)
    push_cast at greater
    linarith [rounds.isNearest.above]
  have isLow : x.low = 4 * 2 ^ 52 - 1 := by
    rw [low, if_pos ⟨isPower, lt_of_le_of_ne canonical.least least.symm⟩, isPower]
  have above : (2 ^ 52 - 1 / 4 : ℚ) ≤ value * 2 ^ (-x.exponent) := by
    have above := rounds.above
    rw [isLow, quarter] at above
    rw [zpow_neg, ← div_eq_mul_inv, le_div_iff₀ unit]
    norm_num at above ⊢
    linarith
  have twice : value * 2 ^ (-(x.exponent - 1)) = 2 * (value * 2 ^ (-x.exponent)) := by
    rw [show -(x.exponent - 1) = 1 + -x.exponent by ring, zpow_add₀ two_ne_zero, zpow_one]
    ring
  refine ⟨isPower, ?_, ?_⟩
  · rw [show x.exponent - 1 + 52 = x.exponent + (51 : Nat) by omega, zpow_add_natCast, ← le_div_iff₀ unit,
      div_eq_mul_inv, ← zpow_neg]
    linarith
  · rw [twice]
    refine ⟨?_, ?_, fun odd => absurd rfl odd⟩
    · push_cast
      linarith
    · push_cast
      linarith

/-- What is rounded to a double has no more bits before the last place. -/
theorem Rounds.lt_power (rounds : x.Rounds value) (canonical : x.IsCanonical) : value < 2 ^ (x.exponent + 53) := by
  have unit : (0 : ℚ) < 2 ^ x.exponent := by positivity
  have bits : (x.significand : ℚ) ≤ 2 ^ 53 - 1 := by
    have : x.significand + 1 ≤ 2 ^ 53 := canonical.bits
    have : ((x.significand + 1 : Nat) : ℚ) ≤ (2 ^ 53 : Nat) := Nat.cast_le.mpr this
    push_cast at this
    linarith
  have scaled : value * 2 ^ (-x.exponent) < 2 ^ 53 := by linarith [rounds.isNearest.below]
  rw [zpow_neg, ← div_eq_mul_inv, div_lt_iff₀ unit] at scaled
  rwa [show x.exponent + 53 = x.exponent + (53 : Nat) from rfl, zpow_add_natCast]

/-- A quotient is rounded to the double if its value is one of those that are. -/
theorem ofQuotient_of_rounds (canonical : x.IsCanonical) (nonzero : x.significand ≠ 0) {numerator denominator : Nat}
    (positive : 0 < denominator) (rounds : x.Rounds ((numerator : ℚ) / denominator)) :
    ofQuotient x.negative numerator denominator = some x := by
  obtain ⟨exact, fits, leads, quotient⟩ := exists_ofQuotient_eq x.negative numerator positive
  have some_value := rounds.pos nonzero
  have leads := leads (Nat.pos_of_ne_zero (by rintro rfl; simp at some_value))
  rw [quotient]
  generalize value : (numerator : ℚ) / denominator = v at *
  have nearest := rounds.isNearest
  have below := rounds.lt_power canonical
  by_cases above : (2 : ℚ) ^ (x.exponent + 52) ≤ v
  -- The double has the exponent at which the quotient is rounded.
  · rw [exponent_eq above below leads fits, max_eq_left canonical.least]
    rw [← value] at nearest
    exact roundedAt_eq positive nearest canonical.bits canonical.greatest
  · have under : v < 2 ^ (x.exponent + 52) := not_le.mp above
    by_cases least : x.exponent = leastExponent
    -- Below the least exponent nothing is rounded.
    · have smaller := (zpow_lt_zpow_iff_right₀ one_lt_two).mp (leads.trans_lt under)
      rw [max_eq_right (by omega), ← least]
      rw [← value] at nearest
      exact roundedAt_eq positive nearest canonical.bits canonical.greatest
    · obtain ⟨isPower, leads', nearest⟩ := rounds.power canonical least under
      have under' : v < 2 ^ (x.exponent - 1 + 53) := by rwa [show x.exponent - 1 + 53 = x.exponent + 52 by ring]
      have smallest : leastExponent ≤ x.exponent - 1 := by have := canonical.least; omega
      have greatest : x.exponent - 1 + 1 ≤ greatestExponent := by have := canonical.greatest; omega
      rw [← value] at nearest
      rw [exponent_eq leads' under' leads fits, max_eq_left smallest,
        roundedAt_carried positive nearest greatest, sub_add_cancel, ← isPower]

end Rounding

section Decimals

theorem two_pow_le_ten_pow {bits digits : Nat} (enough : 28 * bits ≤ 93 * digits) : (2 : ℚ) ^ bits ≤ 10 ^ digits := by
  refine le_of_pow_le_pow_left₀ (n := 28) (by decide) (by positivity) ?_
  calc ((2 : ℚ) ^ bits) ^ 28 = 2 ^ (28 * bits) := by rw [← pow_mul, mul_comm]
    _ ≤ 2 ^ (93 * digits) := pow_le_pow_right₀ one_le_two enough
    _ = (2 ^ 93) ^ digits := pow_mul ..
    _ ≤ (10 ^ 28) ^ digits := pow_le_pow_left₀ (by positivity) (by norm_num) digits
    _ = (10 ^ digits) ^ 28 := by rw [← pow_mul, ← pow_mul, mul_comm]

theorem ten_zpow_neg_le {bits digits : Nat} (enough : 28 * bits ≤ 93 * digits) :
    (10 : ℚ) ^ (-digits : Int) ≤ 2 ^ (-bits : Int) := by
  rw [zpow_neg, zpow_neg, zpow_natCast, zpow_natCast]
  exact inv_anti₀ (by positivity) (two_pow_le_ten_pow enough)

theorem ten_pow_le_two_pow {bits digits : Nat} (enough : 10 * digits ≤ 3 * bits) : (10 : ℚ) ^ digits ≤ 2 ^ bits := by
  refine le_of_pow_le_pow_left₀ (n := 3) (by decide) (by positivity) ?_
  calc ((10 : ℚ) ^ digits) ^ 3 = (10 ^ 3) ^ digits := by rw [← pow_mul, ← pow_mul, mul_comm]
    _ ≤ (2 ^ 10) ^ digits := pow_le_pow_left₀ (by positivity) (by norm_num) digits
    _ = 2 ^ (10 * digits) := (pow_mul ..).symm
    _ ≤ 2 ^ (3 * bits) := pow_le_pow_right₀ one_le_two enough
    _ = (2 ^ bits) ^ 3 := by rw [← pow_mul, mul_comm]

theorem digitCount_bounds {n : Nat} (positive : 0 < n) :
    (10 : ℚ) ^ ((digitCount n : Int) - 1) ≤ n ∧ (n : ℚ) < 10 ^ (digitCount n : Int) := by
  obtain ⟨count, isCount⟩ : ∃ count, digitCount n = count + 1 :=
    Nat.exists_eq_succ_of_ne_zero (List.length_pos_iff.mpr Nat.toDigits_ne_nil).ne'
  have length : (Nat.toDigits 10 n).length = count + 1 := isCount
  have above : 10 ^ count ≤ n := by
    rcases Nat.eq_zero_or_pos count with rfl | more
    · exact positive
    · by_contra less
      have short := (Nat.length_toDigits_le_iff (by decide) more).mpr (Nat.lt_of_not_le less)
      omega
  have below : n < 10 ^ (count + 1) := (Nat.length_toDigits_le_iff (by decide) (by omega)).mp length.le
  rw [isCount, Nat.cast_add_one, add_sub_cancel_right, zpow_natCast, ← Nat.cast_add_one, zpow_natCast]
  exact ⟨by exact_mod_cast above, by exact_mod_cast below⟩

variable {x : Binary64} {value : ℚ}

theorem Rounds.lt (rounds : x.Rounds value) (canonical : x.IsCanonical) : value < 10 ^ (400 : Int) := by
  have bits : ((4 * x.significand + 2 : Nat) : ℚ) < (2 ^ 55 : Nat) := by
    have := canonical.bits
    exact Nat.cast_lt.mpr (by omega)
  push_cast at bits
  have exponent : (2 : ℚ) ^ (x.exponent - 2) ≤ 2 ^ (969 : Int) := by
    have := canonical.greatest
    rw [greatestExponent] at this
    exact zpow_le_zpow_right₀ one_le_two (by omega)
  calc value ≤ (4 * x.significand + 2) * 2 ^ (x.exponent - 2) := rounds.below
    _ < 2 ^ 55 * 2 ^ (969 : Int) := mul_lt_mul bits exponent (by positivity) (by positivity)
    _ = 2 ^ 1024 := (pow_add ..).symm
    _ ≤ 10 ^ 400 := two_pow_le_ten_pow (by decide)

theorem Rounds.le (rounds : x.Rounds value) (canonical : x.IsCanonical) (nonzero : x.significand ≠ 0) :
    10 ^ (-401 : Int) ≤ value := by
  have bits : (2 : ℚ) ≤ x.low := by exact_mod_cast two_le_low nonzero
  have exponent : (2 : ℚ) ^ (-1076 : Int) ≤ 2 ^ (x.exponent - 2) := by
    have := canonical.least
    rw [leastExponent] at this
    exact zpow_le_zpow_right₀ one_le_two (by omega)
  calc (10 : ℚ) ^ (-401 : Int) ≤ 2 ^ (-1075 : Int) := ten_zpow_neg_le (by decide : 28 * 1075 ≤ 93 * 401)
    _ = 2 * 2 ^ (-1076 : Int) := (zpow_one_add₀ two_ne_zero (-1076))
    _ ≤ x.low * 2 ^ (x.exponent - 2) := mul_le_mul bits exponent (by positivity) (by positivity)
    _ ≤ value := rounds.above

/-- A decimal is rounded to the double if its value is one of those that are. -/
theorem ofDecimal_of_rounds (canonical : x.IsCanonical) (nonzero : x.significand ≠ 0) {digits : Nat} {exponent : Int}
    (rounds : x.Rounds (digits * 10 ^ exponent)) : ofDecimal x.negative digits exponent = some x := by
  have positive : 0 < digits := by
    refine Nat.pos_of_ne_zero ?_
    rintro rfl
    simpa using rounds.pos nonzero
  have unit : (0 : ℚ) < 10 ^ exponent := by positivity
  obtain ⟨leads, fits⟩ := digitCount_bounds positive
  have power : ∀ places : Int, (10 : ℚ) ^ places * 10 ^ exponent = 10 ^ (exponent + places) := fun places => by
    rw [mul_comm, zpow_add₀ (by norm_num)]
  have notGreat : ¬ 400 < exponent + digitCount digits := by
    intro great
    refine absurd (rounds.lt canonical) (not_lt.mpr ?_)
    calc (10 : ℚ) ^ (400 : Int) ≤ 10 ^ (exponent + ((digitCount digits : Int) - 1)) :=
        zpow_le_zpow_right₀ (by norm_num) (by omega)
      _ = 10 ^ ((digitCount digits : Int) - 1) * 10 ^ exponent := (power _).symm
      _ ≤ digits * 10 ^ exponent := mul_le_mul_of_nonneg_right leads unit.le
  have notSmall : ¬ exponent + digitCount digits < -400 := by
    intro small
    refine absurd (rounds.le canonical nonzero) (not_le.mpr ?_)
    calc digits * 10 ^ exponent < (10 : ℚ) ^ (digitCount digits : Int) * 10 ^ exponent :=
        mul_lt_mul_of_pos_right fits unit
      _ = 10 ^ (exponent + digitCount digits) := power _
      _ ≤ 10 ^ (-401 : Int) := zpow_le_zpow_right₀ (by norm_num) (by omega)
  rw [ofDecimal, if_neg positive.ne']
  simp only [if_neg notGreat, if_neg notSmall]
  obtain ⟨denominator, value⟩ := @scale_eq 10 (by decide) exponent digits 1 Nat.one_pos
  refine ofQuotient_of_rounds canonical nonzero denominator ?_
  rw [value, Nat.cast_one, div_one]
  exact_mod_cast rounds

end Decimals

section Shortest

variable {x : Binary64} {place : Int} {n : Nat}

theorem pow_toNat {base : ℚ} (nonzero : base ≠ 0) (exponent : Int) :
    base ^ exponent.toNat = base ^ exponent * base ^ (-exponent).toNat := by
  rw [← zpow_natCast, ← zpow_natCast, ← zpow_add₀ nonzero]
  congr 1
  omega

/-- Both units are the powers that they stand for, but for a common factor. -/
theorem exists_units_eq (place exponent : Int) :
    ∃ factor : ℚ, 0 < factor ∧ (decimalUnit place exponent : ℚ) = 10 ^ place * factor ∧
      (binaryUnit place exponent : ℚ) = 2 ^ exponent * factor := by
  refine ⟨10 ^ (-place).toNat * 2 ^ (-exponent).toNat, by positivity, ?_, ?_⟩
  · rw [decimalUnit]
    push_cast [Nat.pow_eq]
    rw [pow_toNat (by norm_num) place]
    ring
  · rw [binaryUnit]
    push_cast [Nat.pow_eq]
    rw [pow_toNat two_ne_zero exponent]
    ring

theorem binary_le_iff (k : Nat) (exponent : Int) :
    k * binaryUnit place exponent ≤ n * decimalUnit place exponent ↔ (k : ℚ) * 2 ^ exponent ≤ n * 10 ^ place := by
  obtain ⟨factor, positive, decimal, binary⟩ := exists_units_eq place exponent
  rw [← Nat.cast_le (α := ℚ), Nat.cast_mul, Nat.cast_mul, decimal, binary, ← mul_assoc, ← mul_assoc,
    mul_le_mul_iff_left₀ positive]

theorem decimal_le_iff (k : Nat) (exponent : Int) :
    n * decimalUnit place exponent ≤ k * binaryUnit place exponent ↔ (n : ℚ) * 10 ^ place ≤ k * 2 ^ exponent := by
  obtain ⟨factor, positive, decimal, binary⟩ := exists_units_eq place exponent
  rw [← Nat.cast_le (α := ℚ), Nat.cast_mul, Nat.cast_mul, decimal, binary, ← mul_assoc, ← mul_assoc,
    mul_le_mul_iff_left₀ positive]

theorem rounds_of_roundsBack (back : x.roundsBack place n) : x.Rounds (n * 10 ^ place) := by
  have high : ((4 * x.significand + 2 : Nat) : ℚ) = 4 * x.significand + 2 := by push_cast; ring
  rw [roundsBack_iff, ← not_le, ← not_le, binary_le_iff, decimal_le_iff, binary_le_iff, decimal_le_iff, high,
    not_le, not_le] at back
  exact ⟨back.1, back.2.1, back.2.2⟩

theorem decimalUnit_pos (place exponent : Int) : 0 < decimalUnit place exponent :=
  Nat.mul_pos (Nat.pow_pos (by decide)) (Nat.pow_pos (by decide))

/-- On a grid finer than half a place, the neighbor above rounds back. -/
theorem roundsBack_above (fine : (10 : ℚ) ^ place < 2 ^ (x.exponent - 1)) :
    x.roundsBack place
      (4 * x.significand * binaryUnit place (x.exponent - 2) / decimalUnit place (x.exponent - 2) + 1) := by
  have half : (2 : ℚ) ^ (x.exponent - 1) = (2 : Nat) * 2 ^ (x.exponent - 2) := by
    rw [show x.exponent - 1 = 1 + (x.exponent - 2) by ring, zpow_add₀ two_ne_zero, zpow_one, Nat.cast_two]
  have finer : ¬ 2 * binaryUnit place (x.exponent - 2) ≤ 1 * decimalUnit place (x.exponent - 2) := by
    rwa [binary_le_iff, ← half, Nat.cast_one, one_mul, not_le]
  have divided := Nat.div_add_mod (4 * x.significand * binaryUnit place (x.exponent - 2))
    (decimalUnit place (x.exponent - 2))
  have rest := Nat.mod_lt (4 * x.significand * binaryUnit place (x.exponent - 2))
    (decimalUnit_pos place (x.exponent - 2))
  have under := Nat.mul_le_mul_right (binaryUnit place (x.exponent - 2)) x.low_le
  rw [Nat.mul_comm] at divided
  rw [roundsBack_iff]
  simp only [Nat.add_mul, Nat.one_mul]
  generalize 4 * x.significand * binaryUnit place (x.exponent - 2) = target at *
  omega

theorem isSome_neighbor? (fine : (10 : ℚ) ^ place < 2 ^ (x.exponent - 1)) : (x.neighbor? place).isSome := by
  simp only [neighbor?, roundsBack_above fine]
  split
  · next none => cases none
  · rfl
  · rfl
  · split
    · rfl
    · split <;> rfl

/-- Twenty-three places below its leading digit, the decimal grid is fine enough for every double. -/
theorem fine_leadingPlace (canonical : x.IsCanonical) : (10 : ℚ) ^ (x.leadingPlace - 23) < 2 ^ (x.exponent - 1) := by
  have bits : x.significand.log2 ≤ 52 := by
    rcases Nat.eq_zero_or_pos x.significand with zero | positive
    · rw [zero, Nat.log2_zero]
      decide
    · exact Nat.le_of_lt_succ ((Nat.log2_lt positive.ne').mpr canonical.bits)
  have least := canonical.least
  have greatest := canonical.greatest
  rw [leastExponent] at least
  rw [greatestExponent] at greatest
  rw [leadingPlace]
  -- A place is worth a little more than three bits: `3 / 10` and `28 / 93` are bounds on either side.
  rcases Int.le_total 0 (((x.significand.log2 : Int) + x.exponent + 1) * 30103 / 100000 + 1 - 23) with whole | fraction
  · obtain ⟨digits, isDigits⟩ := Int.eq_ofNat_of_zero_le whole
    obtain ⟨bits, isBits⟩ := Int.eq_ofNat_of_zero_le (show 0 ≤ x.exponent - 2 by omega)
    have enough : 10 * digits ≤ 3 * bits := by omega
    rw [isDigits, show x.exponent - 1 = (bits + 1 : Nat) by omega, zpow_natCast]
    calc (10 : ℚ) ^ (digits : Int) = 10 ^ digits := zpow_natCast ..
      _ ≤ 2 ^ bits := ten_pow_le_two_pow enough
      _ < 2 ^ (bits + 1) := pow_lt_pow_right₀ one_lt_two (Nat.lt_succ_self bits)
  · obtain ⟨digits, isDigits⟩ := Int.eq_ofNat_of_zero_le (Int.neg_nonneg.mpr fraction)
    have enough : 28 * (2 - x.exponent).toNat ≤ 93 * digits := by omega
    rw [neg_eq_iff_eq_neg.mp isDigits]
    calc (10 : ℚ) ^ (-digits : Int) ≤ 2 ^ (-(2 - x.exponent).toNat : Int) := ten_zpow_neg_le enough
      _ < 2 ^ (x.exponent - 1) := zpow_lt_zpow_right₀ one_lt_two (by omega)

/-- The shortest decimal of a double is rounded to it. -/
theorem rounds_shortest (canonical : x.IsCanonical) (nonzero : x.significand ≠ 0) :
    x.Rounds (x.shortest.digits * 10 ^ x.shortest.exponent) := by
  have found : ((List.range 24).findSome? fun (step : Nat) =>
      (x.neighbor? (x.leadingPlace - step)).map fun digits =>
        (⟨digits, x.leadingPlace - step⟩ : Decimal)).isSome := by
    rw [List.findSome?_isSome_iff]
    refine ⟨23, by decide, ?_⟩
    rw [Option.isSome_map]
    exact isSome_neighbor? (fine_leadingPlace canonical)
  obtain ⟨decimal, found⟩ := Option.isSome_iff_exists.mp found
  have isZero : ¬ x.isZero := by simpa [isZero] using nonzero
  rw [shortest, if_neg isZero]
  simp only [found, Option.getD_some]
  exact rounds_of_roundsBack (roundsBack_of_found found)

end Shortest

section Canonical

variable {x : Binary64}

theorem isCanonical_zero (negative : Bool) : (zero negative).IsCanonical where
  bits := Nat.pow_pos (by decide)
  least := le_refl _
  greatest := show leastExponent ≤ greatestExponent by decide
  normal := .inr rfl

theorem le_divideToEven {numerator denominator bound : Nat} (nonzero : 0 < denominator)
    (great : bound * denominator ≤ numerator) : bound ≤ divideToEven numerator denominator := by
  have quotient : bound ≤ numerator / denominator := (Nat.le_div_iff_mul_le nonzero).mpr great
  simp only [divideToEven]
  split
  · omega
  · split <;> omega

/-- A quotient that fills 53 bits before the point is rounded to at least as many. -/
theorem le_rounded {numerator denominator : Nat} (nonzero : 0 < denominator) {exact : Int}
    (leads : (2 : ℚ) ^ (exact + 52) ≤ numerator / denominator) :
    2 ^ 52 ≤ divideToEven (scale 2 (-exact) numerator denominator).1 (scale 2 (-exact) numerator denominator).2 := by
  refine le_divideToEven (scale_eq two_pos (-exact) numerator nonzero).1 (Nat.le_of_not_lt fun less => ?_)
  exact absurd leads (not_le.mpr ((scaled_lt_iff numerator nonzero exact 52).mp less))

theorem isCanonical_ofQuotient {negative : Bool} {numerator denominator : Nat} (positive : 0 < numerator)
    (nonzero : 0 < denominator) (found : ofQuotient negative numerator denominator = some x) : x.IsCanonical := by
  obtain ⟨exact, fits, leads, rounds⟩ := exists_ofQuotient_eq negative numerator nonzero
  have bounded := rounded_le nonzero (fits.trans_le
    (zpow_le_zpow_right₀ one_le_two (by omega : exact + 53 ≤ max exact leastExponent + 53)))
  have normal : leastExponent < max exact leastExponent →
      2 ^ 52 ≤ divideToEven (scale 2 (-max exact leastExponent) numerator denominator).1
        (scale 2 (-max exact leastExponent) numerator denominator).2 := by
    intro above
    rw [show max exact leastExponent = exact by omega]
    exact le_rounded nonzero (leads positive)
  rw [rounds, roundedAt] at found
  simp only [Nat.pow_eq] at found
  split at found
  · rw [Option.ite_none_left_eq_some, Option.some.injEq] at found
    obtain ⟨inside, rfl⟩ := found
    have least : leastExponent ≤ max exact leastExponent + 1 := by omega
    exact ⟨Nat.pow_lt_pow_right (by decide) (by decide), least, not_lt.mp inside, .inl (le_refl _)⟩
  · next carried =>
    rw [Option.ite_none_left_eq_some, Option.some.injEq] at found
    obtain ⟨inside, rfl⟩ := found
    refine ⟨Nat.lt_of_le_of_ne bounded carried, le_max_right .., not_lt.mp inside, ?_⟩
    rcases (le_max_right exact leastExponent).eq_or_lt with same | above
    · exact .inr same.symm
    · exact .inl (normal above)

/-- What is not below one is not rounded to zero. -/
theorem significand_pos_of_tenTo? {places : Nat} (found : tenTo? places = some x) : 0 < x.significand := by
  obtain ⟨exact, fits, leads, rounds⟩ := exists_ofQuotient_eq false (Nat.pow 10 places) Nat.one_pos
  have one : (1 : ℚ) ≤ (Nat.pow 10 places : Nat) / (1 : Nat) := by
    rw [Nat.cast_one, div_one]
    exact_mod_cast Nat.one_le_pow places 10 (by decide)
  have above : leastExponent ≤ exact := by
    have exponent : (0 : Int) < exact + 53 := (zpow_lt_zpow_iff_right₀ (one_lt_two (α := ℚ))).mp (by
      rw [zpow_zero]
      exact one.trans_lt fits)
    rw [leastExponent]
    omega
  have great := le_rounded Nat.one_pos (leads (Nat.pow_pos (by decide)))
  rw [tenTo?, rounds, roundedAt, max_eq_left above] at found
  simp only [Nat.pow_eq] at found great
  split at found
  · rw [Option.ite_none_left_eq_some, Option.some.injEq] at found
    rw [← found.2]
    exact Nat.pow_pos (by decide)
  · rw [Option.ite_none_left_eq_some, Option.some.injEq] at found
    rw [← found.2]
    exact Nat.lt_of_lt_of_le (by decide) great

theorem isCanonical_nearest? {negative : Bool} {numerator denominator : Nat} (nonzero : 0 < denominator)
    (found : nearest? negative numerator denominator = some x) : x.IsCanonical := by
  rw [nearest?] at found
  split at found
  · rw [← Option.some.inj found]
    exact isCanonical_zero negative
  · next positive => exact isCanonical_ofQuotient (Nat.pos_of_ne_zero positive) nonzero found

theorem quotient_pos (x : Binary64) : 0 < x.quotient.2 :=
  (scale_eq two_pos x.exponent x.significand Nat.one_pos).1

theorem numerator_pos {y : Binary64} (nonzero : 0 < y.significand) : 0 < y.quotient.1 := by
  rw [quotient, scale]
  split
  · exact nonzero
  · exact Nat.mul_pos nonzero (Nat.pow_pos (by decide))

theorem isCanonical_raised? {y : Binary64} {places : Nat} (found : y.raised? places = some x) : x.IsCanonical := by
  obtain ⟨power, _, found⟩ := Option.bind_eq_some_iff.mp found
  exact isCanonical_nearest? (Nat.mul_pos y.quotient_pos power.quotient_pos) found

theorem isCanonical_lowered? {y : Binary64} {places : Nat} (found : y.lowered? places = some x) : x.IsCanonical := by
  obtain ⟨power, isPower, found⟩ := Option.bind_eq_some_iff.mp found
  exact isCanonical_nearest? (Nat.mul_pos y.quotient_pos (numerator_pos (significand_pos_of_tenTo? isPower))) found

theorem isCanonical_loweredBySteps? {y : Binary64} {places : Nat} (canonical : y.IsCanonical)
    (found : y.loweredBySteps? places = some x) : x.IsCanonical := by
  induction y, places using loweredBySteps?.induct with
  | case1 y places near =>
    rw [loweredBySteps?, if_pos near] at found
    exact isCanonical_lowered? found
  | case2 y places far isZero =>
    rw [loweredBySteps?, if_neg far, if_pos isZero, Option.some.injEq] at found
    exact found ▸ canonical
  | case3 y places far nonzero ih =>
    rw [loweredBySteps?, if_neg far, if_neg nonzero] at found
    obtain ⟨next, isNext, found⟩ := Option.bind_eq_some_iff.mp found
    exact ih next (isCanonical_lowered? isNext) found

/-- Every double that is made in steps has the form of a double, whether it is the nearest one or not. -/
theorem isCanonical_scaled? {negative : Bool} {digits : Nat} {exponent : Int}
    (found : scaled? negative digits exponent = some x) : x.IsCanonical := by
  obtain ⟨start, isStart, found⟩ := Option.bind_eq_some_iff.mp found
  have canonical := isCanonical_nearest? Nat.one_pos isStart
  split at found
  · exact isCanonical_loweredBySteps? canonical found
  · split at found
    · exact isCanonical_raised? found
    · split at found
      · exact Option.some.inj found ▸ canonical
      · cases found

/-- What a decimal is rounded to has the form of a double. -/
theorem isCanonical_ofDecimal {negative : Bool} {digits : Nat} {exponent : Int}
    (found : ofDecimal negative digits exponent = some x) : x.IsCanonical := by
  simp only [ofDecimal] at found
  split at found
  · rw [← Option.some.inj found]
    exact isCanonical_zero negative
  · next nonzero =>
    split at found
    · cases found
    · split at found
      · rw [← Option.some.inj found]
        exact isCanonical_zero negative
      · obtain ⟨denominator, value⟩ := @scale_eq 10 (by decide) exponent digits 1 Nat.one_pos
        refine isCanonical_ofQuotient (Nat.pos_of_ne_zero fun zero => ?_) denominator found
        have positive : (0 : ℚ) < digits / (1 : Nat) * (10 : Nat) ^ exponent := by
          have : (0 : ℚ) < digits := by exact_mod_cast Nat.pos_of_ne_zero nonzero
          positivity
        rw [← value, zero, Nat.cast_zero, zero_div] at positive
        exact absurd positive (lt_irrefl 0)

end Canonical

end Binary64

end LtiPlatform
