import LtiPlatform.Proofs.Json.Numerals

namespace LtiPlatform

namespace Json.Reader

open LtiPlatform.Reader

@[simp]
theorem digitsValue_toDigits (n : Nat) : Text.digitsValue (Nat.toDigits 10 n) = n :=
  Nat.ofDigitChars_ten_toDigits

theorem toText_integer (value : Int) :
    (JsonNumber.integer value).toText.toList = signChars (decide (value < 0)) ++ Nat.toDigits 10 value.natAbs := by
  rw [JsonNumber.toText, Int.toString_eq_repr, Int.repr_eq_if]
  split
  · next natural =>
    rw [Nat.toList_repr, signChars, if_neg (by simp [natural]), show value.toNat = value.natAbs by omega]
    rfl
  · next negative =>
    rw [String.toList_append, Nat.toList_repr, signChars, if_pos (by simpa using negative),
      show (-value).toNat = value.natAbs by omega]
    rfl

theorem readsAs_toDigits (negative : Bool) (n : Nat) :
    ReadsAs scalar (signChars negative ++ Nat.toDigits 10 n)
      (.number (numberOf negative (Nat.toDigits 10 n) [] none)) :=
  IsNumeral.readsAs ⟨[], [], (List.append_nil _).symm, isWhole_toDigits n, .none, .none⟩ negative

/-- An exact whole number is read back from its digits. -/
theorem readsBack_integer {value : Int} (exact : JsonNumber.isExact value) :
    ReadsBack (.integer value) := by
  have signed : (if decide (value < 0) then -(value.natAbs : Int) else value.natAbs) = value := by
    split
    · next negative => simp only [decide_eq_true_eq] at negative; omega
    · next natural => simp only [decide_eq_true_eq] at natural; omega
  have number : numberOf (decide (value < 0)) (Nat.toDigits 10 value.natAbs) [] none =
      some (.integer value) := by
    simp only [numberOf, digitsValue_toDigits, signed]
    refine if_pos ⟨rfl, rfl, exact, fun minusZero => ?_⟩
    simp only [decide_eq_true_eq] at minusZero
    omega
  have reads := readsAs_toDigits (decide (value < 0)) value.natAbs
  rw [number, ← toText_integer] at reads
  exact reads

end Json.Reader

end LtiPlatform
