import Mathlib.Tactic.Common
import LtiPlatform.Signature.Base64

namespace LtiPlatform

namespace Bytes

theorem toList_loop (bytes : ByteArray) (position : Nat) (read : List UInt8) :
    ByteArray.toList.loop bytes position read = read.reverse ++ bytes.data.toList.drop position := by
  induction position, read using ByteArray.toList.loop.induct bytes with
  | case1 position read inside ih =>
    have bound : position < bytes.data.toList.length := inside
    have here : bytes.get! position = bytes.data.toList[position] := getElem!_pos bytes.data position inside
    rw [ByteArray.toList.loop, if_pos inside, ih, List.drop_eq_getElem_cons bound, here,
      List.reverse_cons, List.append_assoc, List.singleton_append]
  | case2 position read outside =>
    have bound : bytes.data.toList.length ≤ position := Nat.le_of_not_lt outside
    rw [ByteArray.toList.loop, if_neg outside, List.drop_eq_nil_of_le bound, List.append_nil]

theorem ofText_eq (text : String) : ofText text = text.toByteArray.data.toList := by
  rw [ofText, ByteArray.toList, toList_loop]
  rfl

/-- The bytes of a text are those of that text. -/
@[simp]
theorem toText?_ofText (text : String) : toText? (ofText text) = some text := by
  have back : (⟨(ofText text).toArray⟩ : ByteArray) = text.toByteArray := by
    rw [ofText_eq, Array.toArray_toList]
  rw [toText?, back, String.fromUTF8?, dif_pos text.isValidUTF8]
  rfl

end Bytes

namespace Base64

@[simp]
theorem value?_digit {n : Nat} (bound : n < 64) : value? url (digit url n) = some n := by
  have all : ∀ value : Fin 64, value? url (digit url value) = some value.val := by decide
  exact all ⟨n, bound⟩

theorem decodeChars_encodeChars (bytes : Bytes) : decodeChars url (encodeChars url bytes) = some bytes := by
  induction bytes using encodeChars.induct with
  | case1 a b c rest ih =>
    have boundA := a.toNat_lt
    have boundB := b.toNat_lt
    have boundC := c.toNat_lt
    simp only [encodeChars]
    generalize word : (a.toNat * 256 + b.toNat) * 256 + c.toNat = value
    have whole : ((value / 262144 * 64 + value / 4096 % 64) * 64 + value / 64 % 64) * 64 + value % 64 =
        value := by omega
    have first : UInt8.ofNat (value / 65536) = a := UInt8.toNat_inj.mp (by simp; omega)
    have second : UInt8.ofNat (value / 256 % 256) = b := UInt8.toNat_inj.mp (by simp; omega)
    have third : UInt8.ofNat (value % 256) = c := UInt8.toNat_inj.mp (by simp; omega)
    simp only [decodeChars, value?_digit (show value / 262144 < 64 by omega),
      value?_digit (show value / 4096 % 64 < 64 by omega),
      value?_digit (show value / 64 % 64 < 64 by omega), value?_digit (show value % 64 < 64 by omega),
      Option.bind_eq_bind, Option.bind_some, whole, ih, first, second, third]
  | case2 a b =>
    have boundA := a.toNat_lt
    have boundB := b.toNat_lt
    simp only [encodeChars]
    generalize word : (a.toNat * 256 + b.toNat) * 4 = value
    have whole : (value / 4096 * 64 + value / 64 % 64) * 64 + value % 64 = value := by omega
    have first : UInt8.ofNat (value / 1024) = a := UInt8.toNat_inj.mp (by simp; omega)
    have second : UInt8.ofNat (value / 4 % 256) = b := UInt8.toNat_inj.mp (by simp; omega)
    simp only [decodeChars, value?_digit (show value / 4096 < 64 by omega),
      value?_digit (show value / 64 % 64 < 64 by omega), value?_digit (show value % 64 < 64 by omega),
      Option.bind_eq_bind, Option.bind_some, whole, first, second, if_pos (show value % 4 = 0 by omega)]
  | case3 a =>
    have boundA := a.toNat_lt
    simp only [encodeChars]
    generalize word : a.toNat * 16 = value
    have whole : value / 64 * 64 + value % 64 = value := by omega
    have first : UInt8.ofNat (value / 16) = a := UInt8.toNat_inj.mp (by simp; omega)
    simp only [decodeChars, value?_digit (show value / 64 < 64 by omega),
      value?_digit (show value % 64 < 64 by omega), Option.bind_eq_bind, Option.bind_some, whole, first,
      if_pos (show value % 16 = 0 by omega)]
  | case4 => rfl

@[simp]
theorem decodeUrl?_encodeUrl (bytes : Bytes) : decodeUrl? (encodeUrl bytes) = some bytes := by
  rw [decodeUrl?, encodeUrl, String.toList_ofList, decodeChars_encodeChars]

theorem digit_ne_dot (n : Nat) : digit url n ≠ '.' := by
  have all : ∀ value : Fin 64, digit url value ≠ '.' := by decide
  by_cases bound : n < 64
  · exact all ⟨n, bound⟩
  · have last : digit url n = '_' := by
      simp only [digit, if_neg (show ¬ n < 26 by omega), if_neg (show ¬ n < 52 by omega),
        if_neg (show ¬ n < 62 by omega), if_neg (show ¬ n = 62 by omega), url]
    rw [last]
    decide

theorem dot_not_mem_encodeUrl (bytes : Bytes) : '.' ∉ (encodeUrl bytes).toList := by
  rw [encodeUrl, String.toList_ofList]
  induction bytes using encodeChars.induct with
  | case1 a b c rest ih => simp [encodeChars, Ne.symm (digit_ne_dot _), ih]
  | case2 a b => simp [encodeChars, Ne.symm (digit_ne_dot _)]
  | case3 a => simp [encodeChars, Ne.symm (digit_ne_dot _)]
  | case4 => simp [encodeChars]

end Base64

end LtiPlatform
