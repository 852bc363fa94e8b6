import LtiPlatform.Proofs.Claims.Slot
import LtiPlatform.Proofs.Json.Parsed
import LtiPlatform.Proofs.Token.RoundTrip

namespace LtiPlatform

open Json (rawName)

theorem ValueKind.isPlain_of_read? {kind : ValueKind} {text : String} {value : Json}
    (read : kind.read? text = some value) : value.isPlain := by
  cases kind with
  | text | messageType | flag =>
    cases read
    rfl
  | list | roles | contextTypes =>
    cases read
    exact Json.isPlain_ofStrings _
  | contentItems =>
    simp only [read?, contentItemArray?] at read
    split at read
    · next parsed =>
      cases read
      exact Json.isPlain_of_parse? parsed
    · cases read

set_option maxRecDepth 100000 in
theorem Rule.member?_ne_rawName : ∀ rule ∈ table, rule.member? ≠ some rawName := by decide

namespace Slot

variable {slot : Slot} {text : String} {value : Json}

theorem isPlain_of_read? (read : slot.read? text = some value) : value.isPlain := by
  cases slot with
  | ruled rule member => exact ValueKind.isPlain_of_read? read
  | free group name unmapped =>
    simp only [read?, Option.ite_none_left_eq_some, Option.some.injEq] at read
    rw [← read.2]
    rfl

/-- Only a custom or extension parameter can have the name for texts. -/
theorem exists_group_of_member (named : slot.place.member = some rawName) :
    ∃ group : OpenGroup, slot.place.claim = group.claim ∧ slot.parameter = group.parameter rawName := by
  cases slot with
  | ruled rule member => exact absurd named (Rule.member?_ne_rawName rule member)
  | free group name unmapped =>
    cases named
    exact ⟨group, rfl, rfl⟩

end Slot

namespace Claims

variable {claims : Claims} {name : String} {value : Json}

namespace IsPlainAt

theorem empty (name : String) : IsPlainAt ∅ name := fun _ found => by cases found

theorem insert {other : String} (plain : claims.IsPlainAt name) (held : other = name → value.isPlain) :
    IsPlainAt (claims.insert other value) name := by
  intro found isFound
  rw [OrderedMap.get?_insert] at isFound
  split at isFound
  · next same =>
    cases isFound
    exact held same
  · exact plain found isFound

theorem erase (plain : claims.IsPlainAt name) (other : String) : IsPlainAt (claims.erase other) name := by
  intro found isFound
  rw [OrderedMap.get?_erase, Option.ite_none_left_eq_some] at isFound
  exact plain found isFound.2

/-- The members of a plain claim, none if it is no object. -/
theorem members (plain : claims.IsPlainAt name) :
    (Json.ofMap (((claims.get? name).bind Json.object?).getD ∅)).isPlain := by
  rw [IsPlainAt] at plain
  cases found : OrderedMap.get? claims name with
  | none => rfl
  | some value =>
    rw [Option.bind_some]
    cases isObject : value.object? with
    | none => rfl
    | some members => exact Json.isPlain_of_object? (plain value found) isObject

theorem put {slot : Slot} (plain : claims.IsPlainAt name) (held : value.isPlain)
    (ordinary : slot.place.claim = name → slot.place.member ≠ some rawName) :
    IsPlainAt (claims.put slot.place value) name := by
  cases named : slot.place.member with
  | none =>
    simp only [Claims.put, named]
    exact plain.insert fun _ => held
  | some member =>
    simp only [Claims.put, named]
    refine plain.insert fun same => ?_
    subst same
    exact Json.isPlain_insert plain.members (fun raw => ordinary rfl (named.trans (congrArg some raw))) held

end IsPlainAt

/-- A claim that parameters stand for is plain, unless a custom or extension parameter has the name for texts. -/
theorem isPlainAt_ofParameters {parameters : Parameters}
    (unnamed : ∀ group : OpenGroup, group.claim = name → parameters.get? (group.parameter rawName) = none) :
    (ofParameters parameters).IsPlainAt name := by
  have ordinary : ∀ entry ∈ parameters.entries, ∀ group : OpenGroup, group.claim = name →
      entry.1 ≠ group.parameter rawName := by
    intro entry member group claimed named
    have found := OrderedMap.mem_entries_iff.mp member
    rw [named, unnamed group claimed] at found
    cases found
  rw [ofParameters_eq_foldl]
  generalize parameters.entries = entries at ordinary
  induction entries using List.reverseRecOn with
  | nil => exact .empty name
  | append_singleton before entry ih =>
    rw [List.foldl_append, List.foldl_cons, List.foldl_nil, add]
    have earlier := ih fun entry member => ordinary entry (List.mem_append_left _ member)
    split
    · exact earlier
    · next place value read =>
      obtain ⟨slot, same, rfl, reads⟩ := Slot.exists_of_ofParameter? read
      refine earlier.put (Slot.isPlain_of_read? reads) fun claimed named => ?_
      obtain ⟨group, isGroup, parameter⟩ := Slot.exists_group_of_member named
      exact ordinary entry (by simp) group (isGroup.symm.trans claimed) (same.symm.trans parameter)

/-- What parameters make of an open group is an object of texts. -/
theorem exists_texts_of_ofParameters {parameters : Parameters} {group : OpenGroup}
    (found : (ofParameters parameters).get? group.claim = some value) :
    ∃ members : OrderedMap Json, value = .ofMap members ∧
      ∀ name held, members.get? name = some held → ∃ text, held = .string text := by
  rw [ofParameters_eq_foldl] at found
  generalize parameters.entries = entries at found
  induction entries using List.reverseRecOn generalizing value with
  | nil => cases found
  | append_singleton before entry ih =>
    rw [List.foldl_append, List.foldl_cons, List.foldl_nil, add] at found
    split at found
    · exact ih found
    next place added read =>
    obtain ⟨slot, _, rfl, reads⟩ := Slot.exists_of_ofParameter? read
    by_cases here : slot.place.claim = group.claim
    · obtain ⟨name, unmapped, rfl⟩ := slot.eq_free here
      simp only [Slot.read?, Option.ite_none_left_eq_some, Option.some.injEq] at reads
      obtain ⟨_, rfl⟩ := reads
      simp only [Claims.put, Slot.place] at found
      rw [OrderedMap.get?_insert_self] at found
      cases found
      refine ⟨_, rfl, fun other held inside => ?_⟩
      rw [OrderedMap.get?_insert] at inside
      split at inside
      · exact ⟨_, (Option.some.inj inside).symm⟩
      · cases earlier : OrderedMap.get? (before.foldl add ∅) group.claim with
        | none =>
          rw [earlier] at inside
          cases inside
        | some existing =>
          obtain ⟨members, rfl, texts⟩ := ih earlier
          rw [earlier, Option.bind_some, Json.object?_ofMap, Option.getD_some] at inside
          exact texts other held inside
    · rw [get?_put, if_neg here] at found
      exact ih found

end Claims

end LtiPlatform
