import LtiPlatform.Settings.Value
import LtiPlatform.Proofs.Json.NumberText
import LtiPlatform.Proofs.Settings.Layers

namespace LtiPlatform

namespace Json.Reader

open LtiPlatform.Reader

variable {text found whole fraction : List Char} {exponent : Option Int}

theorem isDigit_bounds {c : Char} (digit : Text.isDigit c) : 48 ≤ c.toNat ∧ c.toNat ≤ 57 := by
  simp only [Text.isDigit, Bool.and_eq_true, decide_eq_true_eq] at digit
  exact digit

theorem digit_lt_ten {c : Char} (digit : Text.isDigit c) : c.toNat - '0'.toNat < 10 := by
  have bounds := isDigit_bounds digit
  rw [show '0'.toNat = 48 from rfl]
  omega

/-- A digit is written for its value. -/
theorem toDigits_digit {c : Char} (digit : Text.isDigit c) : Nat.toDigits 10 (c.toNat - '0'.toNat) = [c] := by
  have bounds := isDigit_bounds digit
  have zero : '0'.toNat = 48 := rfl
  have small := digit_lt_ten digit
  have same : Nat.digitChar (c.toNat - '0'.toNat) = c := by
    apply Char.toNat_inj.mp
    rw [Nat.toNat_digitChar_of_lt_ten small]
    omega
  rw [Nat.toDigits_of_lt_base small, same]

theorem toDigits_foldl (digits : ∀ c ∈ text, Text.isDigit c) {value : Nat} (positive : 0 < value) :
    Nat.toDigits 10 (text.foldl (fun value c => 10 * value + (c.toNat - '0'.toNat)) value) =
      Nat.toDigits 10 value ++ text := by
  induction text generalizing value with
  | nil => rw [List.foldl_nil, List.append_nil]
  | cons c text ih =>
    obtain ⟨digit, digits⟩ := List.forall_mem_cons.mp digits
    rw [List.foldl_cons, ih digits (by omega),
      ← Nat.toDigits_append_toDigits (by decide) positive (digit_lt_ten digit), toDigits_digit digit,
      List.append_assoc, List.singleton_append]

/-- Digits without a needless zero are the digits of their value. -/
theorem IsWhole.toDigits_digitsValue (isWhole : IsWhole text) : Nat.toDigits 10 (Text.digitsValue text) = text := by
  cases text with
  | nil => exact absurd rfl isWhole.nonempty
  | cons c text =>
    obtain ⟨digit, digits⟩ := List.forall_mem_cons.mp isWhole.digits
    by_cases zero : c = '0'
    · subst zero
      cases text with
      | nil => rfl
      | cons next text => exact absurd rfl (isWhole.plain next text)
    · have written := toDigits_digit digit
      have positive : 0 < c.toNat - '0'.toNat := by
        refine Nat.pos_of_ne_zero fun none => zero ?_
        rw [none] at written
        exact (List.cons.inj written).1.symm
      rw [Text.digitsValue, List.foldl_cons, Nat.mul_zero, Nat.zero_add, toDigits_foldl digits positive, written,
        List.singleton_append]

/-- What is written with a point or an exponent is not all digits. -/
theorem IsNumeral.not_all_digits (isNumeral : IsNumeral found whole fraction exponent)
    (notWhole : fraction ≠ [] ∨ exponent.isSome) : found.all Text.isDigit = false := by
  obtain ⟨pointed, raised, rfl, _, isFraction, isExponent⟩ := isNumeral
  have mark : ∃ c ∈ pointed ++ raised, Text.isDigit c = false := by
    cases isFraction with
    | digits _ _ => exact ⟨'.', by simp, by decide⟩
    | none =>
      cases isExponent with
      | none => simp at notWhole
      | negative _ _ | positive _ _ => exact ⟨'e', by simp, by decide⟩
  obtain ⟨c, member, noDigit⟩ := mark
  rw [List.all_eq_false]
  exact ⟨c, List.mem_append_right _ member, by simp [noDigit]⟩

theorem IsNumeral.starts (isNumeral : IsNumeral found whole fraction exponent) :
    ∃ c rest, found = c :: rest ∧ Text.isDigit c := by
  obtain ⟨_, _, rfl, isWhole, _, _⟩ := isNumeral
  obtain ⟨c, more, rfl⟩ := List.exists_cons_of_ne_nil isWhole.nonempty
  exact ⟨c, _, rfl, isWhole.digits c (List.mem_cons_self ..)⟩

theorem IsWhole.isNumeral (isWhole : IsWhole found) : IsNumeral found found [] none :=
  ⟨[], [], (List.append_nil _).symm, isWhole, .none, .none⟩

theorem toLower_of_isDigit {c : Char} (digit : Text.isDigit c) : c.toLower = c := by
  have bounds := isDigit_bounds digit
  refine dif_neg fun upper => ?_
  have above : 65 ≤ c.toNat := UInt32.le_iff_toNat_le.mp upper.1
  omega

/-- No word begins like a number. -/
theorem asciiLowercase_ne_word {text : String} {negative : Bool} (chars : text.toList = signChars negative ++ found)
    (starts : ∃ c rest, found = c :: rest ∧ Text.isDigit c) {word : String}
    (isWord : ∃ letter rest, word.toList = letter :: rest ∧ Text.isDigit letter = false ∧ letter ≠ '-') :
    Text.asciiLowercase text ≠ word := by
  rintro rfl
  obtain ⟨letter, _, isWord, noDigit, noSign⟩ := isWord
  rw [Text.asciiLowercase, String.toList_ofList, chars, List.map_append, signChars] at isWord
  cases negative with
  | true => exact noSign (List.cons.inj isWord).1.symm
  | false =>
    obtain ⟨c, rest, rfl, digit⟩ := starts
    have same : c.toLower = letter := (List.cons.inj isWord).1
    rw [← same, toLower_of_isDigit digit, digit] at noDigit
    cases noDigit

end Json.Reader

namespace Double

open Json.Reader

variable {found whole fraction : List Char} {exponent : Option Int} {negative : Bool}

/-- A double in the form in which one is read. -/
def IsCanonical : Double → Prop
  | finite value => value.IsCanonical
  | infinite _ | undefined => True

theorem isCanonical_ofDecimal (negative : Bool) (digits : Nat) (exponent : Int) :
    (ofDecimal negative digits exponent).IsCanonical := by
  rw [ofDecimal]
  split
  · next isFinite => exact Binary64.isCanonical_ofDecimal isFinite
  · trivial

theorem isCanonical_of_ofText? {text : String} {value : Double} (read : ofText? text = some value) :
    value.IsCanonical := by
  simp only [ofText?] at read
  split at read
  · cases read; trivial
  · split at read
    · cases read; trivial
    · obtain ⟨⟨_, rest⟩, _, read⟩ := Option.bind_eq_some_iff.mp read
      obtain ⟨_, same⟩ := Option.ite_none_left_eq_some.mp read
      rw [← Option.some.inj same]
      exact isCanonical_ofDecimal ..

theorem ofDigits?_of_isNumeral (isNumeral : IsNumeral found whole fraction exponent) (negative : Bool) :
    ofDigits? negative found = some (ofDecimal negative (Text.digitsValue (whole ++ fraction))
      (exponent.getD 0 - fraction.length)) := by
  obtain ⟨pointed, raised, rfl, isWhole, isFraction, isExponent⟩ := isNumeral
  have ended := exponentPart_append isExponent ends_nil
  have stops := isExponent.stops ends_nil
  rw [List.append_nil] at ended stops
  have start := digits_append isWhole.digits (isFraction.stops stops)
  cases isFraction with
  | none =>
    have noPoint : ∀ rest, raised ≠ '.' :: rest := by
      rintro rest rfl
      cases isExponent
    rw [List.nil_append] at start ⊢
    simp only [ofDigits?, start]
    simp [ended, isWhole.nonempty]
  | digits all _ =>
    have behind := digits_append all stops
    rw [List.cons_append] at start ⊢
    simp only [ofDigits?, start, behind]
    simp [ended, isWhole.nonempty]

theorem signed_signChars (starts : ∃ c rest, found = c :: rest ∧ Text.isDigit c) (negative : Bool) :
    signed (signChars negative ++ found) = (negative, found) := by
  cases negative with
  | true => rfl
  | false =>
    obtain ⟨c, rest, rfl, digit⟩ := starts
    have apart : c ≠ '-' ∧ c ≠ '+' := by
      constructor <;> (rintro rfl; cases digit)
    unfold signed signChars
    split
    · next same => exact absurd (List.cons.inj same).1 apart.1
    · next same => exact absurd (List.cons.inj same).1 apart.2
    · rfl

/-- A text in the form of a number is read as the double that its decimal is rounded to. -/
theorem ofText?_of_isNumeral {text : String} (chars : text.toList = signChars negative ++ found)
    (isNumeral : IsNumeral found whole fraction exponent) :
    ofText? text = some (ofDecimal negative (Text.digitsValue (whole ++ fraction))
      (exponent.getD 0 - fraction.length)) := by
  have unsigned : (String.ofList found).toList = signChars false ++ found := String.toList_ofList
  have noInfinity : ¬ (Text.asciiLowercase (.ofList found) = "inf" ∨
      Text.asciiLowercase (.ofList found) = "infinity") :=
    not_or.mpr ⟨asciiLowercase_ne_word unsigned isNumeral.starts ⟨_, _, rfl, by decide⟩,
      asciiLowercase_ne_word unsigned isNumeral.starts ⟨_, _, rfl, by decide⟩⟩
  have defined : Text.asciiLowercase (.ofList found) ≠ "nan" :=
    asciiLowercase_ne_word unsigned isNumeral.starts ⟨_, _, rfl, by decide⟩
  simp only [ofText?, chars, signed_signChars isNumeral.starts, if_neg noInfinity, if_neg defined,
    ofDigits?_of_isNumeral isNumeral]

end Double

namespace Binary64

open Json.Reader

/-- The plain text of a double is its sign and the shortest decimal, as a whole number or with a point. -/
theorem exists_plain (x : Binary64) : ∃ found, x.plain.toList = signChars x.negative ++ found ∧
    (Writes found x.writtenValue ∨ IsWhole found ∧ Text.digitsValue found = x.writtenValue) := by
  rw [plain, writtenValue]
  by_cases zero : x.isZero
  · rw [if_pos zero, if_pos zero]
    refine ⟨['0'], by rw [String.toList_append, signText_toList]; rfl, .inr ⟨isWhole_zero, ?_⟩⟩
    rw [show Text.digitsValue ['0'] = 0 from rfl, Nat.cast_zero]
  · rw [if_neg zero, if_neg zero]
    simp only
    refine ⟨_, by rw [String.toList_append, signText_toList], ?_⟩
    have length : ((toString x.shortest.digits).length : Int) = (Nat.toDigits 10 x.shortest.digits).length := by
      rw [← String.length_toList, toString_toList]
    split
    · next natural =>
      right
      rw [String.toList_append, zeros_toList, toString_toList, digitsValue_trailing]
      refine ⟨isWhole_trailing fun none => ?_, ?_⟩
      · rw [exponent_shortest none]
        rfl
      · push_cast
        rw [← zpow_natCast, Int.toNat_of_nonneg natural]
    · next negative =>
      left
      have writes := @writes_positional x.shortest.digits
        (x.shortest.exponent + (Nat.toDigits 10 x.shortest.digits).length)
        fun none => absurd (exponent_shortest none) (by omega)
      rw [add_sub_cancel_right] at writes
      rwa [length]

theorem IsCanonical.eq_zero {x : Binary64} (canonical : x.IsCanonical) (isZero : x.isZero)
    {negative : Bool} (sign : x.negative = negative) : x = zero negative := by
  have significand : x.significand = 0 := beq_iff_eq.mp isZero
  have least : x.exponent = leastExponent := canonical.normal.resolve_left (by rw [significand]; decide)
  cases x
  cases significand
  cases least
  cases sign
  rfl

/-- A double other than zero has another decimal than zero. -/
theorem IsCanonical.isZero_of_writtenValue {x : Binary64} (canonical : x.IsCanonical)
    (zero : x.writtenValue = 0) : x.isZero := by
  by_contra nonzero
  rw [writtenValue, if_neg nonzero] at zero
  have significand : x.significand ≠ 0 := by simpa [isZero] using nonzero
  have positive := (rounds_shortest canonical significand).pos significand
  rw [zero] at positive
  exact absurd positive (lt_irrefl 0)

end Binary64

namespace Setting

open Json.Reader

variable {found : List Char} {negative : Bool} {text : String}

/-- The integer that whole digits write with a sign. -/
theorem integerOfText?_of_isWhole (chars : text.toList = signChars negative ++ found) (isWhole : IsWhole found) :
    integerOfText? text =
      let value : Int := if negative then -Text.digitsValue found else Text.digitsValue found
      if isInteger value then some value else none := by
  have all : found.all Text.isDigit = true := List.all_eq_true.mpr isWhole.digits
  have nonempty : found.isEmpty = false := by simp [isWhole.nonempty]
  simp only [integerOfText?, chars, Double.signed_signChars isWhole.isNumeral.starts, all, nonempty]
  simp

theorem toString_toList (value : Int) :
    (toString value).toList = signChars (decide (value < 0)) ++ Nat.toDigits 10 value.natAbs :=
  toText_integer value

/-- An integer is printed as it was written, if it was not written as zero with a minus. -/
theorem toString_of_isWhole (chars : text.toList = signChars negative ++ found) (isWhole : IsWhole found)
    (noMinusZero : ¬ (negative ∧ Text.digitsValue found = 0)) :
    toString (if negative then -(Text.digitsValue found : Int) else Text.digitsValue found) = text := by
  rw [← String.toList_inj, toString_toList, chars]
  cases negative with
  | true =>
    have positive : Text.digitsValue found ≠ 0 := fun zero => noMinusZero ⟨rfl, zero⟩
    rw [if_pos rfl, Int.natAbs_neg, Int.natAbs_natCast, isWhole.toDigits_digitsValue,
      decide_eq_true (by omega : -(Text.digitsValue found : Int) < 0)]
  | false =>
    rw [if_neg Bool.false_ne_true, Int.natAbs_natCast, isWhole.toDigits_digitsValue,
      decide_eq_false (by omega : ¬ (Text.digitsValue found : Int) < 0)]

theorem integerOfText?_eq_none (chars : text.toList = signChars negative ++ found)
    (starts : ∃ c rest, found = c :: rest ∧ Text.isDigit c) (notDigits : found.all Text.isDigit = false) :
    integerOfText? text = none := by
  simp only [integerOfText?, chars, Double.signed_signChars starts, notDigits]
  simp

section Number

variable (chars : text.toList = signChars negative ++ found)
  (starts : ∃ c rest, found = c :: rest ∧ Text.isDigit c)

include chars starts

/-- What begins like a number is no truth value. -/
theorem not_truth_value : Text.asciiLowercase text ≠ "true" ∧ Text.asciiLowercase text ≠ "false" :=
  ⟨asciiLowercase_ne_word chars starts ⟨_, _, rfl, by decide⟩,
    asciiLowercase_ne_word chars starts ⟨_, _, rfl, by decide⟩⟩

theorem ofText_integer {value : Int} (read : integerOfText? text = some value) :
    ofText text = integer value := by
  obtain ⟨notTrue, notFalse⟩ := not_truth_value chars starts
  simp only [ofText, if_neg notTrue, if_neg notFalse, read]

theorem ofText_decimal {value : Double} (noInteger : integerOfText? text = none)
    (read : Double.ofText? text = some value) : ofText text = decimal value := by
  obtain ⟨notTrue, notFalse⟩ := not_truth_value chars starts
  simp only [ofText, if_neg notTrue, if_neg notFalse, noInteger, read]

end Number

theorem ofText_toString {value : Int} (small : isInteger value) : ofText (toString value) = integer value := by
  have chars := toString_toList value
  have isWhole := isWhole_toDigits value.natAbs
  have read := integerOfText?_of_isWhole chars isWhole
  have signed : (if decide (value < 0) then -(value.natAbs : Int) else value.natAbs) = value := by
    split
    · next negative => simp only [decide_eq_true_eq] at negative; omega
    · next natural => simp only [decide_eq_true_eq] at natural; omega
  rw [digitsValue_toDigits, signed, if_pos small] at read
  exact ofText_integer chars isWhole.isNumeral.starts read

/-- The plain text of a double is kept, be it read as an integer or as that double. -/
theorem asText?_ofText_plain {value : Binary64} (canonical : value.IsCanonical)
    (noMinusZero : value ≠ .zero true) : (ofText value.plain).asText? = some value.plain := by
  obtain ⟨found, chars, written⟩ := value.exists_plain
  rcases written with ⟨whole, fraction, exponent, isNumeral, notWhole, isValue⟩ | ⟨isWhole, isValue⟩
  · have noInteger := integerOfText?_eq_none chars isNumeral.starts (isNumeral.not_all_digits notWhole)
    have read := Double.ofText?_of_isNumeral chars isNumeral
    rw [Double.ofDecimal, canonical.ofDecimal_eq isValue] at read
    rw [ofText_decimal chars isNumeral.starts noInteger read]
    rfl
  · have starts := isWhole.isNumeral.starts
    have integer := integerOfText?_of_isWhole chars isWhole
    by_cases small : isInteger (if value.negative then -(Text.digitsValue found : Int) else Text.digitsValue found)
    · rw [if_pos small] at integer
      have noMinus : ¬ (value.negative ∧ Text.digitsValue found = 0) := by
        rintro ⟨negative, zero⟩
        rw [zero, Nat.cast_zero] at isValue
        exact noMinusZero (canonical.eq_zero (canonical.isZero_of_writtenValue isValue.symm) negative)
      rw [ofText_integer chars starts integer, asText?, toString_of_isWhole chars isWhole noMinus]
    · rw [if_neg small] at integer
      have read := Double.ofText?_of_isNumeral chars isWhole.isNumeral
      rw [Double.ofDecimal, canonical.ofDecimal_eq (by simpa using isValue)] at read
      rw [ofText_decimal chars starts integer read]
      rfl

/-- The texts that are printed for something: for a truth value, for an integer of 64 bits, for a number, or
for a text that stands for nothing else. The number minus zero is printed as an integer is written that has no
sign of its own. -/
inductive IsPrinted : String → Prop
  | switch (value : Bool) : IsPrinted (if value then "true" else "false")
  | integer {value : Int} (small : isInteger value) : IsPrinted (toString value)
  | decimal {value : Double} (canonical : value.IsCanonical) (noMinusZero : value ≠ .finite (.zero true)) :
    IsPrinted value.toText
  | text {text : String} (plain : ofText text = .text text) : IsPrinted text

theorem isInteger_of_integerOfText? {value : Int} (read : integerOfText? text = some value) : isInteger value := by
  simp only [integerOfText?] at read
  obtain ⟨fits, same⟩ := Option.ite_none_right_eq_some.mp read
  rw [← Option.some.inj same]
  simp only [Bool.and_eq_true] at fits
  exact fits.2

/-- The values that the text of a variable can stand for. -/
inductive IsReadAs (text : String) : Setting → Prop
  | switch (value : Bool) : IsReadAs text (switch value)
  | integer {value : Int} (small : isInteger value) : IsReadAs text (integer value)
  | decimal {value : Double} (canonical : value.IsCanonical) : IsReadAs text (decimal value)
  | text : IsReadAs text (.text text)

theorem isReadAs_ofText (text : String) : IsReadAs text (ofText text) := by
  by_cases isTrue : Text.asciiLowercase text = "true"
  · simp only [ofText, isTrue, if_true]
    exact .switch true
  · by_cases isFalse : Text.asciiLowercase text = "false"
    · simp only [ofText, if_neg isTrue, if_pos isFalse]
      exact .switch false
    · simp only [ofText, if_neg isTrue, if_neg isFalse]
      split
      · next found => exact .integer (isInteger_of_integerOfText? found)
      · next _ found => exact .decimal (Double.isCanonical_of_ofText? found)
      · exact .text

theorem isSimple_ofText (text : String) : (ofText text).IsSimple := by
  have reads := isReadAs_ofText text
  generalize ofText text = setting at reads
  cases reads <;> trivial

/-- A setting that is a text is the text of its variable iff that is one that is printed. -/
theorem asText?_ofText_eq_iff (text : String) : (ofText text).asText? = some text ↔ IsPrinted text := by
  constructor
  · intro kept
    have reads := isReadAs_ofText text
    generalize read : ofText text = setting at kept reads
    cases reads with
    | switch value =>
      cases kept
      exact .switch value
    | integer small =>
      cases kept
      exact .integer small
    | decimal canonical =>
      cases kept
      refine .decimal canonical ?_
      rintro rfl
      cases (show ofText "-0" = integer 0 from rfl).symm.trans read
    | text => exact .text read
  · intro printed
    cases printed with
    | switch value => cases value <;> decide
    | integer small => rw [ofText_toString small]; rfl
    | @decimal value canonical noMinusZero =>
      cases value with
      | finite value => exact asText?_ofText_plain canonical fun zero => noMinusZero (congrArg _ zero)
      | infinite negative => cases negative <;> decide
      | undefined => decide
    | text plain => rw [plain]; rfl

end Setting

end LtiPlatform
