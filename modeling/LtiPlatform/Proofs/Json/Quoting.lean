import Mathlib.Tactic.Common
import LtiPlatform.Json.Parser
import LtiPlatform.Json.Printer

namespace LtiPlatform

namespace Json

namespace Reader

open LtiPlatform.Reader

theorem hexValue?_hexDigit {n : Nat} (bound : n < 16) : hexValue? (hexDigit n) = some n := by
  have all : ∀ value : Fin 16, hexValue? (hexDigit value) = some value.val := by decide
  exact all ⟨n, bound⟩

theorem codeUnit_control {n : Nat} (bound : n < 0x20) (rest : List Char) :
    codeUnit ('0' :: '0' :: hexDigit (n / 16) :: hexDigit (n % 16) :: rest) = some (n, rest) := by
  have zero : hexValue? '0' = some 0 := by decide
  have high := hexValue?_hexDigit (show n / 16 < 16 by omega)
  have low := hexValue?_hexDigit (show n % 16 < 16 by omega)
  simp only [codeUnit, hexDigits, zero, high, low, Option.bind_eq_bind, Option.bind_some,
    Option.map_some]
  congr 2
  omega

theorem stringBody_plain {c : Char} (noQuote : c ≠ '"') (noSlash : c ≠ '\\') (visible : ¬ c.toNat < 0x20)
    (steps : Nat) (read : List Nat) (rest : List Char) :
    stringBody (steps + 1) read (c :: rest) = stringBody steps (c.toNat :: read) rest := by
  rw [stringBody, if_neg noQuote, if_neg noSlash, if_neg visible]

/-- An escaped character is read in one step. -/
theorem stringBody_escapeChar (steps : Nat) (read : List Nat) (c : Char) (rest : List Char) :
    stringBody (steps + 1) read (escapeChar c ++ rest) = stringBody steps (c.toNat :: read) rest := by
  unfold escapeChar
  split
  case h_8 noQuote noSlash _ _ _ _ _ =>
    split
    · next control =>
      simp only [List.cons_append, List.nil_append, stringBody, escape, codeUnit_control control]
      rfl
    · next visible => exact stringBody_plain noQuote noSlash visible steps read rest
  all_goals rfl

/-- The codes of characters are never halves of surrogate pairs. -/
theorem not_surrogate (c : Char) : isHighSurrogate c.toNat = false ∧ isLowSurrogate c.toNat = false := by
  have valid : c.toNat < 0xD800 ∨ 0xDFFF < c.toNat ∧ c.toNat < 0x110000 := c.valid
  simp only [isHighSurrogate, isLowSurrogate, Bool.and_eq_false_iff, decide_eq_false_iff_not]
  omega

theorem characters?_toNat (chars : List Char) : characters? (chars.map Char.toNat) = some chars := by
  induction chars with
  | nil => rfl
  | cons c chars ih =>
    obtain ⟨high, low⟩ := not_surrogate c
    cases chars with
    | nil => simp [characters?, high, low, Char.ofNat_toNat]
    | cons next rest =>
      rw [List.map_cons] at ih
      simp [characters?, high, low, ih, Char.ofNat_toNat]

theorem stringBody_escaped (chars rest : List Char) (read : List Nat) {steps : Nat}
    (enough : chars.length < steps) :
    stringBody steps read (chars.flatMap escapeChar ++ '"' :: rest) =
      some ((characters? (read.reverse ++ chars.map Char.toNat)).map String.ofList, rest) := by
  induction chars generalizing read steps with
  | nil =>
    obtain ⟨steps, rfl⟩ := Nat.exists_eq_succ_of_ne_zero (Nat.ne_of_gt enough)
    simp [stringBody]
  | cons c chars ih =>
    obtain ⟨steps, rfl⟩ := Nat.exists_eq_succ_of_ne_zero (Nat.ne_of_gt (Nat.zero_lt_of_lt enough))
    rw [List.flatMap_cons, List.append_assoc, stringBody_escapeChar,
      ih _ (by simpa using Nat.lt_of_succ_lt_succ enough)]
    simp

theorem length_le_escaped (chars : List Char) : chars.length ≤ (chars.flatMap escapeChar).length := by
  have long : ∀ c, 1 ≤ (escapeChar c).length := by
    intro c
    unfold escapeChar
    split
    case h_8 => split <;> simp
    all_goals simp
  induction chars with
  | nil => simp
  | cons c chars ih =>
    have longer := long c
    simp only [List.flatMap_cons, List.length_cons, List.length_append]
    omega

theorem stringLiteral_quote (text : String) (rest : List Char) :
    stringLiteral ((quote text).toList ++ rest) = some (some text, rest) := by
  have chars : (quote text).toList ++ rest =
      '"' :: (text.toList.flatMap escapeChar ++ '"' :: rest) := by
    simp [quote]
  have bound := length_le_escaped text.toList
  rw [chars, stringLiteral, expect, if_pos rfl]
  simp only [Option.bind_eq_bind, Option.bind_some]
  rw [stringBody_escaped _ _ _ (by simp only [List.length_append]; omega), List.reverse_nil,
    List.nil_append, characters?_toNat, Option.map_some, String.ofList_toList]

end Reader

end Json

end LtiPlatform
