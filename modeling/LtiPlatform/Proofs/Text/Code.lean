import Mathlib.Tactic.Common
import LtiPlatform.Text

namespace LtiPlatform.Text

/-- The bytes as digits from 1 to 256, the first one least. -/
def digitsCode (bytes : List UInt8) : Nat :=
  bytes.foldr (fun byte code => code * 256 + byte.toNat + 1) 0

/-- The bytes of a text in UTF-8. -/
def bytes (text : String) : List UInt8 := text.toByteArray.data.toList

def code (text : String) : Nat := digitsCode (bytes text)

theorem digitsCode_injective {left right : List UInt8} (same : digitsCode left = digitsCode right) :
    left = right := by
  induction left generalizing right with
  | nil =>
    cases right with
    | nil => rfl
    | cons => simp [digitsCode] at same
  | cons byte rest ih =>
    cases right with
    | nil => simp [digitsCode] at same
    | cons byte' rest' =>
      simp only [digitsCode, List.foldr_cons] at same
      have bound := byte.toNat_lt
      have bound' := byte'.toNat_lt
      have sameByte : byte = byte' := UInt8.toNat_inj.mp (by omega)
      have sameRest : digitsCode rest = digitsCode rest' := by
        simp only [digitsCode]
        omega
      rw [sameByte, ih sameRest]

theorem code_injective {left right : String} (same : code left = code right) : left = right := by
  have sameBytes := digitsCode_injective same
  rw [bytes, bytes, Array.toList_inj] at sameBytes
  exact String.toByteArray_inj.mp (ByteArray.ext sameBytes)

theorem nodup_of_code {texts : List String} (distinct : (texts.map code).Nodup) : texts.Nodup :=
  List.Pairwise.of_map code (fun _ _ different same => different (congrArg code same)) distinct

theorem bytes_eq_flatMap (text : String) : bytes text = text.toList.flatMap String.utf8EncodeChar := by
  rw [bytes, ← String.utf8Encode_toList, List.utf8Encode, List.toList_data_toByteArray]

theorem bytes_isPrefixOf {start text : String} (begins : isPrefix start text) :
    (bytes start).isPrefixOf (bytes text) := by
  rw [isPrefix, List.isPrefixOf_iff_prefix] at begins
  obtain ⟨rest, whole⟩ := begins
  rw [List.isPrefixOf_iff_prefix, bytes_eq_flatMap, bytes_eq_flatMap, ← whole, List.flatMap_append]
  exact List.prefix_append ..

/-- Bytes that stand for visible characters other than the comma. -/
def isPlainByte (byte : UInt8) : Bool :=
  33 ≤ byte.toNat && byte.toNat ≤ 126 && byte.toNat != 44

def isPlain (text : String) : Bool := !(bytes text).isEmpty && (bytes text).all isPlainByte

theorem toNat_of_plain_bytes {c : Char} (plain : ∀ byte ∈ String.utf8EncodeChar c, isPlainByte byte) :
    33 ≤ c.toNat ∧ c.toNat ≤ 126 ∧ c.toNat ≠ 44 := by
  have first : ∀ lead, UInt8.ofNat lead ∈ String.utf8EncodeChar c → lead < 256 →
      33 ≤ lead ∧ lead ≤ 126 ∧ lead ≠ 44 := by
    intro lead member bound
    simpa [isPlainByte, Nat.mod_eq_of_lt bound, and_assoc] using plain _ member
  have value : c.toNat = c.val.toNat := rfl
  -- Only a single byte is below 128; longer encodings begin with one that is not plain.
  simp only [String.utf8EncodeChar] at first
  split at first
  · exact value ▸ first _ (List.mem_singleton_self _) (by omega)
  · exfalso
    split at first
    · have lead := first _ (List.mem_cons_self ..) (by omega)
      omega
    · split at first
      · have lead := first _ (List.mem_cons_self ..) (by omega)
        omega
      · have lead := first _ (List.mem_cons_self ..) (by omega)
        omega

theorem toNat_of_isPlain {text : String} (plain : isPlain text) {c : Char} (member : c ∈ text.toList) :
    33 ≤ c.toNat ∧ c.toNat ≤ 126 ∧ c.toNat ≠ 44 := by
  refine toNat_of_plain_bytes fun byte encoded => ?_
  simp only [isPlain, Bool.and_eq_true, List.all_eq_true] at plain
  refine plain.2 byte ?_
  rw [bytes_eq_flatMap]
  exact List.mem_flatMap.mpr ⟨c, member, encoded⟩

end LtiPlatform.Text
