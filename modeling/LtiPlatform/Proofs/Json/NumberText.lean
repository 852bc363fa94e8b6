import LtiPlatform.Proofs.Binary64.Shortest
import LtiPlatform.Proofs.Json.Integers


namespace LtiPlatform

namespace Binary64

open Json.Reader

@[simp]
theorem zeros_toList (count : Nat) : (zeros count).toList = List.replicate count '0' := by
  simp [zeros]

theorem toString_toList (n : Nat) : (toString n).toList = Nat.toDigits 10 n := by
  rw [Nat.toString_eq_repr, Nat.toList_repr]

theorem isDigit_of_mem_replicate {c : Char} {count : Nat} (member : c ∈ List.replicate count '0') :
    Text.isDigit c := by
  rw [(List.mem_replicate.mp member).2]
  decide

theorem isFraction_zero : IsFraction ['.', '0'] ['0'] := .digits (fun _ => isDigit_zero) (List.cons_ne_nil _ _)

theorem digitsValue_append (digits more : List Char) :
    Text.digitsValue (digits ++ more) = Text.digitsValue digits * 10 ^ more.length + Text.digitsValue more := by
  induction more using List.reverseRecOn with
  | nil => simp [Text.digitsValue]
  | append_singleton more c ih =>
    have last : ∀ digits : List Char, Text.digitsValue (digits ++ [c]) =
        10 * Text.digitsValue digits + (c.toNat - '0'.toNat) := fun digits => by
      rw [Text.digitsValue, List.foldl_append]
      rfl
    rw [← List.append_assoc, last, last, ih, List.length_append, List.length_singleton]
    ring

theorem digitsValue_replicate (count : Nat) : Text.digitsValue (List.replicate count '0') = 0 := by
  induction count with
  | zero => rfl
  | succ count ih => rw [List.replicate_succ', digitsValue_append, ih, Nat.zero_mul, Nat.zero_add]; rfl

/-- The text of a number that is not a plain whole one, behind its sign, and the value that it writes. -/
def Writes (text : List Char) (value : ℚ) : Prop :=
  ∃ whole fraction exponent, IsNumeral text whole fraction exponent ∧ (fraction ≠ [] ∨ exponent.isSome) ∧
    (Text.digitsValue (whole ++ fraction) : ℚ) * 10 ^ (exponent.getD 0 - fraction.length) = value

/-- What is written with a point or an exponent is read as a number, though not always as the nearest one. -/
theorem Writes.readsAs {text : List Char} {value : ℚ} (writes : Writes text value) (negative : Bool) :
    ∃ value?, ReadsAs scalar (signChars negative ++ text) (.number value?) := by
  obtain ⟨whole, fraction, exponent, isNumeral, _, _⟩ := writes
  exact ⟨_, isNumeral.readsAs negative⟩

section Positional

variable {n count : Nat}

/-- Zeros are filled in between the point and the digits. -/
theorem writes_leading (n count : Nat) :
    Writes ('0' :: '.' :: (List.replicate count '0' ++ Nat.toDigits 10 n))
      (n * 10 ^ (-(count : Int) - (Nat.toDigits 10 n).length)) := by
  have isFraction : IsFraction ('.' :: (List.replicate count '0' ++ Nat.toDigits 10 n))
      (List.replicate count '0' ++ Nat.toDigits 10 n) := by
    refine .digits (fun c member => ?_) (by simp [Nat.toDigits_ne_nil])
    rcases List.mem_append.mp member with zero | digit
    · exact isDigit_of_mem_replicate zero
    · exact isDigit_of_mem_toDigits digit
  refine ⟨['0'], _, none, ⟨_, [], by simp, isWhole_zero, isFraction, .none⟩, .inl (by simp [Nat.toDigits_ne_nil]), ?_⟩
  have zeros : ['0'] ++ (List.replicate count '0' ++ Nat.toDigits 10 n) =
      List.replicate (count + 1) '0' ++ Nat.toDigits 10 n := by
    rw [List.replicate_succ]
    rfl
  rw [zeros, digitsValue_append, digitsValue_replicate, digitsValue_toDigits, List.length_append, List.length_replicate]
  congr 2
  · simp
  · push_cast
    simp only [Option.getD_none]
    ring

/-- Digits do not begin with a zero, and neither do they with zeros behind them, a plain zero apart. -/
theorem isWhole_trailing (plain : n = 0 → count = 0) :
    IsWhole (Nat.toDigits 10 n ++ List.replicate count '0') := by
  rcases Nat.eq_zero_or_pos n with rfl | positive
  · rw [plain rfl]
    exact isWhole_toDigits 0
  · refine isWhole_of_head (fun c member => ?_) (by simp [Nat.toDigits_ne_nil]) ?_
    · rcases List.mem_append.mp member with digit | zero
      · exact isDigit_of_mem_toDigits digit
      · exact isDigit_of_mem_replicate zero
    · rw [List.head?_append_of_ne_nil _ Nat.toDigits_ne_nil]
      exact head_toDigits positive

theorem digitsValue_trailing (n count : Nat) :
    Text.digitsValue (Nat.toDigits 10 n ++ List.replicate count '0') = n * 10 ^ count := by
  rw [digitsValue_append, digitsValue_replicate, digitsValue_toDigits, List.length_replicate, Nat.add_zero]

/-- Zeros are filled in between the digits and the point. -/
theorem writes_trailing (plain : n = 0 → count = 0) :
    Writes (Nat.toDigits 10 n ++ (List.replicate count '0' ++ ['.', '0'])) (n * 10 ^ (count : Int)) := by
  refine ⟨_, ['0'], none, ⟨['.', '0'], [], by simp, isWhole_trailing plain, isFraction_zero, .none⟩,
    .inl (List.cons_ne_nil _ _), ?_⟩
  have value : Text.digitsValue (Nat.toDigits 10 n ++ List.replicate count '0' ++ ['0']) = n * 10 ^ count * 10 := by
    rw [digitsValue_append, digitsValue_trailing]
    rfl
  rw [value]
  push_cast
  rw [zpow_natCast]
  norm_num
  ring

/-- The point is between two digits. -/
theorem writes_divided (inside : 0 < count) (short : count < (Nat.toDigits 10 n).length) :
    Writes ((Nat.toDigits 10 n).take count ++ '.' :: (Nat.toDigits 10 n).drop count)
      (n * 10 ^ ((count : Int) - (Nat.toDigits 10 n).length)) := by
  have positive : 0 < n := by
    rcases Nat.eq_zero_or_pos n with rfl | positive
    · rw [Nat.toDigits_zero, List.length_singleton] at short
      omega
    · exact positive
  have isWhole : IsWhole ((Nat.toDigits 10 n).take count) := by
    refine isWhole_of_head (fun c member => isDigit_of_mem_toDigits (List.mem_of_mem_take member)) ?_ ?_
    · simp only [ne_eq, List.take_eq_nil_iff, Nat.toDigits_ne_nil, or_false]
      omega
    · rw [List.head?_take, if_neg (by omega)]
      exact head_toDigits positive
  have more : (Nat.toDigits 10 n).drop count ≠ [] := by
    rw [ne_eq, List.drop_eq_nil_iff]
    omega
  have isFraction : IsFraction ('.' :: (Nat.toDigits 10 n).drop count) ((Nat.toDigits 10 n).drop count) :=
    .digits (fun c member => isDigit_of_mem_toDigits (List.mem_of_mem_drop member)) more
  refine ⟨_, _, none, ⟨_, [], by simp, isWhole, isFraction, .none⟩, .inl more, ?_⟩
  rw [List.take_append_drop, digitsValue_toDigits, List.length_drop, Option.getD_none]
  congr 2
  omega

theorem writes_positional {whole : Int} (plain : n = 0 → whole = 1) :
    Writes (positional (toString n) whole).toList (n * 10 ^ (whole - (Nat.toDigits 10 n).length)) := by
  have length : (toString n).length = (Nat.toDigits 10 n).length := by
    rw [← String.length_toList, toString_toList]
  rw [positional, length]
  simp only
  split
  · next small =>
    rw [String.toList_append, String.toList_append, zeros_toList, toString_toList]
    have writes := writes_leading n (-whole).toNat
    rwa [show -((-whole).toNat : Int) = whole by omega] at writes
  · split
    · next great =>
      rw [String.toList_append, String.toList_append, zeros_toList, toString_toList, List.append_assoc]
      have writes := @writes_trailing n (whole - (Nat.toDigits 10 n).length).toNat (by
        rintro rfl
        rw [plain rfl]
        rfl)
      rwa [show (((whole - (Nat.toDigits 10 n).length).toNat : Nat) : Int) = whole - (Nat.toDigits 10 n).length by
        omega] at writes
    · simp only [String.toList_append, String.toList_ofList, toString_toList, List.append_assoc]
      have writes := @writes_divided n whole.toNat (by omega) (by omega)
      rwa [show (whole.toNat : Int) = whole by omega] at writes

end Positional

/-- An exponent is written with its sign, whichever it is. -/
theorem exists_sign (exponent : Int) : ∃ sign, (if exponent < 0 then "-" else "+") = String.singleton sign ∧
    IsExponent ('e' :: sign :: Nat.toDigits 10 exponent.natAbs) (some exponent) := by
  have written := digitsValue_toDigits exponent.natAbs
  have digits : ∀ c ∈ Nat.toDigits 10 exponent.natAbs, Text.isDigit c := fun _ => isDigit_of_mem_toDigits
  split
  · refine ⟨'-', rfl, ?_⟩
    have isExponent := IsExponent.negative digits Nat.toDigits_ne_nil
    rwa [written, show -(exponent.natAbs : Int) = exponent by omega] at isExponent
  · refine ⟨'+', rfl, ?_⟩
    have isExponent := IsExponent.positive digits Nat.toDigits_ne_nil
    rwa [written, show (exponent.natAbs : Int) = exponent by omega] at isExponent

theorem writes_scientific (n : Nat) (exponent : Int) :
    Writes (scientific "+" (toString n) exponent).toList (n * 10 ^ (exponent - ((Nat.toDigits 10 n).length - 1))) := by
  have all : ∀ c ∈ Nat.toDigits 10 n, Text.isDigit c := fun _ => isDigit_of_mem_toDigits
  have chars := toString_toList n
  have value := digitsValue_toDigits n
  obtain ⟨c, more, digits⟩ := List.exists_cons_of_ne_nil (@Nat.toDigits_ne_nil n 10)
  rw [digits] at all chars value ⊢
  obtain ⟨sign, same, isExponent⟩ := exists_sign exponent
  have isWhole : IsWhole [c] := by
    refine ⟨fun d member => ?_, by simp, by simp⟩
    rw [List.mem_singleton.mp member]
    exact all c (List.mem_cons_self ..)
  rw [scientific, chars]
  simp only [same]
  refine ⟨[c], more, some exponent, ?_, .inr rfl, ?_⟩
  · cases more with
    | nil => exact ⟨[], _, by simp, isWhole, .none, isExponent⟩
    | cons next more =>
      exact ⟨'.' :: next :: more, _, by simp, isWhole,
        .digits (fun d member => all d (List.mem_cons_of_mem _ member)) (by simp), isExponent⟩
  · rw [List.singleton_append, value, Option.getD_some, List.length_cons]
    push_cast
    rw [add_sub_cancel_right]

@[simp]
theorem signText_toList (x : Binary64) : x.signText.toList = signChars x.negative := by
  rw [signText, signChars]
  split <;> rfl

/-- The value that is written for a double, sign apart. -/
def writtenValue (x : Binary64) : ℚ := if x.isZero then 0 else x.shortest.digits * 10 ^ x.shortest.exponent

/-- The text of a double is its sign and that of the shortest decimal. -/
theorem exists_writes (x : Binary64) : ∃ text, (x.withExponent "+").toList = signChars x.negative ++ text ∧
    Writes text x.writtenValue := by
  rw [withExponent, writtenValue]
  by_cases zero : x.isZero
  · rw [if_pos zero, if_pos zero]
    refine ⟨"0.0".toList, by simp, ['0'], ['0'], none,
      ⟨_, [], rfl, isWhole_zero, isFraction_zero, .none⟩, .inl (List.cons_ne_nil _ _), ?_⟩
    rw [show Text.digitsValue (['0'] ++ ['0']) = 0 by rfl, Nat.cast_zero, zero_mul]
  · rw [if_neg zero, if_neg zero]
    simp only
    have length : ((toString x.shortest.digits).length : Int) = (Nat.toDigits 10 x.shortest.digits).length := by
      rw [← String.length_toList, toString_toList]
    refine ⟨_, by rw [String.toList_append, signText_toList], ?_⟩
    rw [length]
    split
    · have writes := @writes_positional x.shortest.digits
        (x.shortest.exponent + (Nat.toDigits 10 x.shortest.digits).length - 1 + 1) (by
          intro none
          rw [exponent_shortest none, none]
          rfl)
      rw [sub_add_cancel] at writes ⊢
      rwa [add_sub_cancel_right] at writes
    · have writes := writes_scientific x.shortest.digits
        (x.shortest.exponent + (Nat.toDigits 10 x.shortest.digits).length - 1)
      rwa [sub_sub_sub_cancel_right, add_sub_cancel_right] at writes

/-- A decimal of the value that is written for a double is rounded to that double. -/
theorem IsCanonical.ofDecimal_eq {x : Binary64} (canonical : x.IsCanonical) {digits : Nat} {exponent : Int}
    (isValue : digits * 10 ^ exponent = x.writtenValue) : ofDecimal x.negative digits exponent = some x := by
  rw [writtenValue] at isValue
  by_cases zero : x.significand = 0
  · have isZero : x.isZero := by rw [Binary64.isZero, zero]; rfl
    rw [if_pos isZero, mul_eq_zero, Nat.cast_eq_zero] at isValue
    have noDigits : digits = 0 := isValue.resolve_right (zpow_ne_zero exponent (by norm_num))
    have least : x.exponent = leastExponent := canonical.normal.resolve_left (by rw [zero]; decide)
    rw [ofDecimal, if_pos noDigits, Binary64.zero, ← zero, ← least]
  · have notZero : ¬ x.isZero := by simpa [Binary64.isZero] using zero
    rw [if_neg notZero] at isValue
    refine ofDecimal_of_rounds canonical zero ?_
    rw [isValue]
    exact rounds_shortest canonical zero

end Binary64

namespace JsonNumber

open Json.Reader

theorem exists_readsAs_toText (number : JsonNumber) :
    ∃ value?, ReadsAs scalar number.toText.toList (.number value?) := by
  cases number with
  | integer value =>
    rw [toText_integer]
    exact ⟨_, readsAs_toDigits _ _⟩
  | double value =>
    obtain ⟨text, chars, writes⟩ := value.exists_writes
    rw [toText, chars]
    exact writes.readsAs value.negative

/-- Numbers in the form in which they are read. -/
def IsCanonical : JsonNumber → Prop
  | integer value => isExact value
  | double value => value.IsCanonical

def value : JsonNumber → ℚ
  | integer value => value
  | double value => value.value

/-- Numbers as they are read: whole ones that are kept exact, and doubles of at most 53 bits. -/
def IsRead : JsonNumber → Prop
  | integer value => isExact value
  | double value => value.significand < 2 ^ 53

theorem IsCanonical.isRead {number : JsonNumber} (canonical : number.IsCanonical) : number.IsRead := by
  cases number with
  | integer => exact canonical
  | double => exact canonical.bits

end JsonNumber

namespace Json.Reader

open LtiPlatform.Reader

theorem isCanonical_numberOf {negative : Bool} {whole fraction : List Char} {exponent : Option Int}
    {number : JsonNumber} (found : numberOf negative whole fraction exponent = some number) : number.IsCanonical := by
  simp only [numberOf] at found
  generalize (if negative then -(Text.digitsValue whole : Int) else Text.digitsValue whole) = signed at found
  split at found
  · next exact =>
    cases found
    exact exact.2.2.1
  · obtain ⟨double, isDouble, rfl⟩ := Option.map_eq_some_iff.mp found
    exact Binary64.isCanonical_scaled? isDouble

theorem isCanonical_unsignedLiteral {negative : Bool} {chars rest : List Char} {number : JsonNumber}
    (found : unsignedLiteral negative chars = some (some number, rest)) : number.IsCanonical := by
  obtain ⟨⟨whole, _⟩, _, found⟩ := Option.bind_eq_some_iff.mp found
  obtain ⟨⟨fraction, _⟩, _, found⟩ := Option.bind_eq_some_iff.mp found
  obtain ⟨⟨exponent, _⟩, _, found⟩ := Option.bind_eq_some_iff.mp found
  exact isCanonical_numberOf (Prod.mk.inj (Option.some.inj found)).1

theorem isCanonical_numberLiteral {chars rest : List Char} {number : JsonNumber}
    (found : numberLiteral chars = some (some number, rest)) : number.IsCanonical := by
  cases chars with
  | nil => cases found
  | cons c chars =>
    by_cases sign : c = '-'
    · rw [sign, numberLiteral_negative] at found
      exact isCanonical_unsignedLiteral found
    · rw [numberLiteral_positive sign] at found
      exact isCanonical_unsignedLiteral found

end Json.Reader

end LtiPlatform
