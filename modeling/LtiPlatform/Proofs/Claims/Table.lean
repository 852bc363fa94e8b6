import Mathlib.Data.List.Nodup
import Mathlib.Tactic.Common
import LtiPlatform.Claims.Conversion
import LtiPlatform.Proofs.Text.Code

namespace LtiPlatform

namespace Rule

set_option maxRecDepth 100000 in
theorem parameters_nodup : (table.map Rule.parameter).Nodup :=
  Text.nodup_of_code (by decide)

/-- Where a rule's claim and member stand among all texts, by their codes. -/
def placeCode (rule : Rule) : Nat × Option Nat :=
  (Text.code rule.claimName, rule.member?.map Text.code)

set_option maxRecDepth 100000 in
theorem placeCodes_nodup : (table.map placeCode).Nodup := by decide

/-- The codes of the claims with a rule of their own. -/
def directCodes : List Nat := ((table.map placeCode).filter (·.2.isNone)).map Prod.fst

/-- The codes of the claims with rules for their members. -/
def groupCodes : List Nat := ((table.map placeCode).filter (·.2.isSome)).map Prod.fst

set_option maxRecDepth 100000 in
theorem directCodes_not_grouped : ∀ code ∈ directCodes, code ∉ groupCodes := by decide

set_option maxRecDepth 100000 in
theorem open_not_mapped :
    ∀ claim ∈ [OpenGroup.custom.claim, OpenGroup.ext.claim],
      Text.code claim ∉ directCodes ∧ Text.code claim ∉ groupCodes := by decide

set_option maxRecDepth 100000 in
theorem parameter_of_contentItems : ∀ rule ∈ table, rule.kind = .contentItems →
    rule.parameter = "content_items" := by decide

theorem exists_contentItems : ∃ rule ∈ table, rule.parameter = "content_items" ∧ rule.kind = .contentItems := by
  decide

variable {rule other : Rule}

theorem parameter_injective (member : rule ∈ table) (member' : other ∈ table)
    (same : rule.parameter = other.parameter) : rule = other :=
  List.inj_on_of_nodup_map parameters_nodup member member' same

theorem place_injective (member : rule ∈ table) (member' : other ∈ table)
    (same : rule.place = other.place) : rule = other := by
  refine List.inj_on_of_nodup_map placeCodes_nodup member member' ?_
  obtain ⟨sameClaim, sameMember⟩ := Place.mk.inj same
  rw [placeCode, placeCode, sameClaim, sameMember]

theorem mem_directCodes (member : rule ∈ table) (alone : rule.member? = none) :
    Text.code rule.claimName ∈ directCodes := by
  have listed : rule.placeCode ∈ table.map placeCode := List.mem_map_of_mem member
  refine List.mem_map.mpr ⟨_, List.mem_filter.mpr ⟨listed, ?_⟩, rfl⟩
  simp only [placeCode, alone, Option.map_none, Option.isNone_none]

theorem mem_groupCodes (member : rule ∈ table) {name : String} (named : rule.member? = some name) :
    Text.code rule.claimName ∈ groupCodes := by
  have listed : rule.placeCode ∈ table.map placeCode := List.mem_map_of_mem member
  refine List.mem_map.mpr ⟨_, List.mem_filter.mpr ⟨listed, ?_⟩, rfl⟩
  simp only [placeCode, named, Option.map_some, Option.isSome_some]

/-- A claim is either a value of its own or a group of members, never both. -/
theorem member?_eq_none_of_claimName (member : rule ∈ table) (member' : other ∈ table)
    (same : rule.claimName = other.claimName) (alone : rule.member? = none) :
    other.member? = none := by
  cases named : other.member? with
  | none => rfl
  | some name =>
    have grouped := mem_groupCodes member' named
    rw [← same] at grouped
    exact absurd grouped (directCodes_not_grouped _ (mem_directCodes member alone))

theorem claimName_ne_open (member : rule ∈ table) (group : OpenGroup) :
    rule.claimName ≠ group.claim := by
  intro same
  have listed : group.claim ∈ [OpenGroup.custom.claim, OpenGroup.ext.claim] := by cases group <;> simp
  obtain ⟨notDirect, notGrouped⟩ := open_not_mapped _ listed
  rw [← same] at notDirect notGrouped
  cases named : rule.member? with
  | none => exact notDirect (mem_directCodes member named)
  | some name => exact notGrouped (mem_groupCodes member named)

theorem ofParameter?_eq_some_iff {parameter : String} :
    ofParameter? parameter = some rule ↔ rule ∈ table ∧ rule.parameter = parameter := by
  constructor
  · intro found
    exact ⟨List.mem_of_find?_eq_some found, by simpa using List.find?_some found⟩
  · rintro ⟨member, rfl⟩
    have isSome : (ofParameter? rule.parameter).isSome :=
      List.find?_isSome.mpr ⟨rule, member, by simp⟩
    obtain ⟨first, found⟩ := Option.isSome_iff_exists.mp isSome
    have same : first.parameter = rule.parameter := by simpa using List.find?_some found
    rw [found, parameter_injective (List.mem_of_find?_eq_some found) member same]

theorem ofParameter?_eq_none_iff {parameter : String} :
    ofParameter? parameter = none ↔ ∀ rule ∈ table, rule.parameter ≠ parameter := by
  simp [ofParameter?]

theorem ofPlace?_eq_some_iff {place : Place} :
    ofPlace? place = some rule ↔ rule ∈ table ∧ rule.place = place := by
  have sound : ∀ found : Place × Rule, placedTable.find? (·.1 == place) = some found →
      found.2 ∈ table ∧ found.2.place = place := by
    intro found first
    obtain ⟨entry, member, rfl⟩ := List.mem_map.mp (List.mem_of_find?_eq_some first)
    exact ⟨member, by simpa using List.find?_some first⟩
  simp only [ofPlace?, Option.map_eq_some_iff]
  constructor
  · rintro ⟨found, first, rfl⟩
    exact sound found first
  · rintro ⟨member, rfl⟩
    have isSome : (placedTable.find? (·.1 == rule.place)).isSome :=
      List.find?_isSome.mpr ⟨(rule.place, rule), List.mem_map_of_mem member, by simp⟩
    obtain ⟨found, first⟩ := Option.isSome_iff_exists.mp isSome
    obtain ⟨member', same⟩ := sound found first
    exact ⟨found, first, place_injective member' member same⟩

end Rule

namespace OpenGroup

variable {group : OpenGroup} {parameter name claim : String}

theorem claim_injective {other : OpenGroup} (same : group.claim = other.claim) : group = other := by
  have apart : Text.code custom.claim ≠ Text.code ext.claim := by decide +kernel
  cases group <;> cases other
  · rfl
  · exact absurd (congrArg Text.code same) apart
  · exact absurd (congrArg Text.code same).symm apart
  · rfl

theorem ofClaim?_eq_some_iff : ofClaim? claim = some group ↔ group.claim = claim := by
  have apart : custom.claim ≠ ext.claim := fun same => by cases claim_injective same
  unfold ofClaim?
  cases group <;> split <;> rename_i isCustom
  · simp [isCustom]
  · split <;> simp [Ne.symm isCustom]
  · simp [isCustom, Ne.symm apart]
  · split <;> rename_i isExt
    · simp [isExt]
    · simp [Ne.symm isExt]

theorem member?_eq_some_iff :
    group.member? parameter = some name ↔ name ≠ "" ∧ group.parameter name = parameter := by
  simp only [member?, Text.dropPrefix?, Option.filter_eq_some_iff, Option.map_eq_some_iff,
    List.isPrefixOf?_eq_some_iff_append_eq, Bool.not_eq_eq_eq_not, Bool.not_true,
    String.isEmpty_eq_false_iff]
  constructor
  · rintro ⟨⟨rest, split, rfl⟩, nonempty⟩
    refine ⟨nonempty, String.toList_inj.mp ?_⟩
    rw [OpenGroup.parameter, String.toList_append, String.toList_ofList, split]
  · rintro ⟨nonempty, rfl⟩
    refine ⟨⟨name.toList, ?_, String.ofList_toList⟩, nonempty⟩
    rw [OpenGroup.parameter, String.toList_append]

theorem parameter_injective {other : OpenGroup} {rest : String}
    (same : group.parameter name = other.parameter rest) : group = other ∧ name = rest := by
  have chars := congrArg String.toList same
  simp only [OpenGroup.parameter, String.toList_append] at chars
  cases group <;> cases other
  · exact ⟨rfl, String.toList_inj.mp (List.append_cancel_left chars)⟩
  · simp [start] at chars
  · simp [start] at chars
  · exact ⟨rfl, String.toList_inj.mp (List.append_cancel_left chars)⟩

end OpenGroup

end LtiPlatform
