import Mathlib.Data.List.TakeDrop
import Mathlib.Data.List.TakeWhile
import Mathlib.Tactic.Common
import LtiPlatform.Proofs.Json.RoundTrip

namespace LtiPlatform

namespace Json.Reader

open LtiPlatform.Reader

/-- No further digit follows. -/
def Stops (rest : List Char) : Prop := ∀ c ∈ rest.head?, Text.isDigit c = false

/-- A lone zero, or digits that do not begin with one. -/
structure IsWhole (text : List Char) : Prop where
  digits : ∀ c ∈ text, Text.isDigit c
  nonempty : text ≠ []
  plain : ∀ c rest, text ≠ '0' :: c :: rest

/-- Nothing, or digits behind a point. -/
inductive IsFraction : List Char → List Char → Prop
  | none : IsFraction [] []
  | digits {found : List Char} (digits : ∀ c ∈ found, Text.isDigit c) (nonempty : found ≠ []) :
    IsFraction ('.' :: found) found

/-- Nothing, or a number with its sign. -/
inductive IsExponent : List Char → Option Int → Prop
  | none : IsExponent [] none
  | negative {found : List Char} (digits : ∀ c ∈ found, Text.isDigit c) (nonempty : found ≠ []) :
    IsExponent ('e' :: '-' :: found) (some (-(Text.digitsValue found : Int)))
  | positive {found : List Char} (digits : ∀ c ∈ found, Text.isDigit c) (nonempty : found ≠ []) :
    IsExponent ('e' :: '+' :: found) (some (Text.digitsValue found))

/-- The text of a number behind its sign, with the digits before and behind the point and with the exponent. -/
def IsNumeral (text whole fraction : List Char) (exponent : Option Int) : Prop :=
  ∃ pointed raised, text = whole ++ (pointed ++ raised) ∧ IsWhole whole ∧ IsFraction pointed fraction ∧
    IsExponent raised exponent

theorem Ends.stops {rest : List Char} (ends : Ends rest) : Stops rest := by
  intro c first
  rcases ends c first with rfl | rfl | rfl <;> decide

section Digits

variable {n : Nat} {c : Char} {text found rest : List Char}

theorem digits_append (all : ∀ c ∈ found, Text.isDigit c) (stops : Stops rest) :
    digits (found ++ rest) = (found, rest) := by
  have noDigit : rest.takeWhile Text.isDigit = [] ∧ rest.dropWhile Text.isDigit = rest := by
    cases rest with
    | nil => exact ⟨rfl, rfl⟩
    | cons c rest =>
      have stop := stops c rfl
      exact ⟨List.takeWhile_cons_of_neg (by simp [stop]), List.dropWhile_cons_of_neg (by simp [stop])⟩
  rw [digits, List.span_eq_takeWhile_dropWhile, List.takeWhile_append_of_pos all,
    List.dropWhile_append_of_pos all, noDigit.1, noDigit.2, List.append_nil]

theorem wholeDigits_append (isWhole : IsWhole found) (stops : Stops rest) :
    wholeDigits (found ++ rest) = some (found, rest) := by
  rw [wholeDigits, digits_append isWhole.digits stops]
  split
  · next none => exact absurd (Prod.mk.inj none).1 isWhole.nonempty
  · next leading => exact absurd (Prod.mk.inj leading).1 (isWhole.plain _ _)
  · rfl

theorem isDigit_of_mem_toDigits (member : c ∈ Nat.toDigits 10 n) : Text.isDigit c :=
  Nat.isDigit_of_mem_toDigits (by decide) (by decide) member

theorem head_toDigits (positive : 0 < n) : (Nat.toDigits 10 n).head? ≠ some '0' := by
  induction n using Nat.strongRecOn with
  | ind n ih =>
    rw [Nat.toDigits_eq_if (by decide)]
    split
    · next small =>
      simp only [List.head?_cons, ne_eq, Option.some.injEq, Nat.digitChar_eq_zero]
      omega
    · next large =>
      rw [List.head?_append_of_ne_nil _ Nat.toDigits_ne_nil]
      exact ih (n / 10) (by omega) (by omega)

theorem isWhole_of_head (digits : ∀ c ∈ text, Text.isDigit c) (nonempty : text ≠ [])
    (head : text.head? ≠ some '0') : IsWhole text := by
  refine ⟨digits, nonempty, ?_⟩
  rintro c rest rfl
  exact head rfl

theorem isDigit_zero (member : c ∈ ['0']) : Text.isDigit c := by
  rw [List.mem_singleton.mp member]
  rfl

theorem isWhole_zero : IsWhole ['0'] := ⟨fun _ => isDigit_zero, List.cons_ne_nil _ _, fun c rest => by simp⟩

theorem isWhole_toDigits (n : Nat) : IsWhole (Nat.toDigits 10 n) := by
  rcases Nat.eq_zero_or_pos n with rfl | positive
  · rw [Nat.toDigits_zero]
    exact isWhole_zero
  · exact isWhole_of_head (fun _ => isDigit_of_mem_toDigits) Nat.toDigits_ne_nil (head_toDigits positive)

end Digits

section Parts

variable {whole pointed fraction raised rest : List Char} {exponent : Option Int}

theorem IsExponent.stops (isExponent : IsExponent raised exponent) (ends : Ends rest) : Stops (raised ++ rest) := by
  cases isExponent with
  | none => exact ends.stops
  | negative _ _ | positive _ _ =>
    intro c first
    cases first
    decide

theorem IsFraction.stops (isFraction : IsFraction pointed fraction) (stops : Stops rest) :
    Stops (pointed ++ rest) := by
  cases isFraction with
  | none => exact stops
  | digits _ _ =>
    intro c first
    cases first
    decide

theorem exponentPart_append (isExponent : IsExponent raised exponent) (ends : Ends rest) :
    exponentPart (raised ++ rest) = some (exponent, rest) := by
  cases isExponent with
  | none =>
    cases rest with
    | nil => rfl
    | cons c rest => rcases ends c rfl with rfl | rfl | rfl <;> rfl
  | @negative found all nonempty | @positive found all nonempty =>
    obtain ⟨c, more, rfl⟩ := List.exists_cons_of_ne_nil nonempty
    have read : digits (c :: (more ++ rest)) = (c :: more, rest) := digits_append all ends.stops
    simp only [List.cons_append, exponentPart, signedExponent, read]
    rfl

theorem fractionDigits_append (isFraction : IsFraction pointed fraction) (isExponent : IsExponent raised exponent)
    (ends : Ends rest) :
    fractionDigits (pointed ++ (raised ++ rest)) = some (fraction, raised ++ rest) := by
  cases isFraction with
  | none =>
    cases isExponent with
    | none =>
      cases rest with
      | nil => rfl
      | cons c rest => rcases ends c rfl with rfl | rfl | rfl <;> rfl
    | negative _ _ | positive _ _ => rfl
  | digits all nonempty =>
    have read := digits_append all (isExponent.stops ends)
    obtain ⟨c, more, rfl⟩ := List.exists_cons_of_ne_nil nonempty
    simp only [List.cons_append, fractionDigits] at read ⊢
    rw [read]

theorem unsignedLiteral_append {text : List Char} (isNumeral : IsNumeral text whole fraction exponent)
    (ends : Ends rest) (negative : Bool) :
    unsignedLiteral negative (text ++ rest) = some (numberOf negative whole fraction exponent, rest) := by
  obtain ⟨pointed, raised, rfl, isWhole, isFraction, isExponent⟩ := isNumeral
  have stops := isFraction.stops (isExponent.stops ends)
  simp only [unsignedLiteral, List.append_assoc, wholeDigits_append isWhole stops,
    fractionDigits_append isFraction isExponent ends, exponentPart_append isExponent ends, Option.bind_eq_bind,
    Option.bind_some]

end Parts

theorem scalar_of_number {c : Char} (number : c ∉ ['"', 'n', 't', 'f']) (chars : List Char) :
    scalar (c :: chars) =
      (numberLiteral (c :: chars)).map fun (value, rest) => (.number value, rest) := by
  simp only [List.mem_cons, List.not_mem_nil, or_false, not_or] at number
  obtain ⟨noQuote, noNull, noTrue, noFalse⟩ := number
  rw [scalar] <;> assumption

theorem digit_starts {c : Char} (digit : Text.isDigit c) :
    isBetween c = false ∧ c ∉ ['"', 'n', 't', 'f'] ∧ c ≠ '-' := by
  have apart : ∀ other, Text.isDigit other = false → c ≠ other := by
    rintro other none rfl
    rw [none] at digit
    cases digit
  refine ⟨?_, ?_, apart _ (by decide)⟩
  · simp only [isBetween, isSpace, Bool.or_eq_false_iff, beq_eq_false_iff_ne]
    and_intros <;> exact apart _ (by decide)
  · simp only [List.mem_cons, List.not_mem_nil, or_false, not_or]
    and_intros <;> exact apart _ (by decide)

/-- The sign that is written before a number. -/
def signChars (negative : Bool) : List Char := if negative then ['-'] else []

/-- What is read behind the sign is read with the sign. -/
theorem readsAs_of_unsignedLiteral {text : List Char} {negative : Bool} {value? : Option JsonNumber}
    (starts : ∃ c rest, text = c :: rest ∧ Text.isDigit c)
    (reads : ∀ rest, Ends rest → unsignedLiteral negative (text ++ rest) = some (value?, rest)) :
    ReadsAs scalar (signChars negative ++ text) (.number value?) := by
  cases negative with
  | true =>
    refine ⟨⟨'-', text, rfl, by decide⟩, fun rest ends => ?_⟩
    have scalars : '-' ∉ ['"', 'n', 't', 'f'] := by decide
    show scalar ('-' :: (text ++ rest)) = _
    rw [scalar_of_number scalars, numberLiteral_negative, reads rest ends]
    rfl
  | false =>
    obtain ⟨c, more, rfl, digit⟩ := starts
    obtain ⟨between, scalars, noSign⟩ := digit_starts digit
    refine ⟨⟨c, more, rfl, between⟩, fun rest ends => ?_⟩
    show scalar (c :: (more ++ rest)) = _
    rw [scalar_of_number scalars, numberLiteral_positive noSign, ← List.cons_append, reads rest ends]
    rfl

/-- A numeral is read as the number that it writes, with or without a sign. -/
theorem IsNumeral.readsAs {text whole fraction : List Char} {exponent : Option Int}
    (isNumeral : IsNumeral text whole fraction exponent) (negative : Bool) :
    ReadsAs scalar (signChars negative ++ text) (.number (numberOf negative whole fraction exponent)) := by
  refine readsAs_of_unsignedLiteral ?_ fun rest ends => unsignedLiteral_append isNumeral ends negative
  obtain ⟨_, _, rfl, isWhole, _, _⟩ := isNumeral
  obtain ⟨c, more, rfl⟩ := List.exists_cons_of_ne_nil isWhole.nonempty
  exact ⟨c, _, rfl, isWhole.digits c (List.mem_cons_self ..)⟩

end Json.Reader

end LtiPlatform
