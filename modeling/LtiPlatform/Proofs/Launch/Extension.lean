import LtiPlatform.Proofs.Claims.Places
import LtiPlatform.Proofs.Launch.Merge
import LtiPlatform.Proofs.Launch.Parameters

namespace LtiPlatform

namespace Parameters

/-- Content items, where there are any, are a JSON array. -/
def HasItemArray (parameters : Parameters) : Prop :=
  ∀ text, parameters.get? "content_items" = some text → ∃ items, Json.parse? text = some (.array items)

end Parameters

namespace Slot

variable {slot : Slot} {text : String}

/-- Where a slot does not take over a text, it takes over none, but for content items. -/
theorem read?_eq_none (array : slot.parameter = "content_items" → ∃ items, Json.parse? text = some (.array items))
    (unread : slot.read? text = none) (other : String) : slot.read? other = none := by
  cases slot with
  | ruled rule member =>
    have means : ∃ value, rule.kind.Means text value :=
      ValueKind.exists_means_iff.mpr fun kind => array (Rule.parameter_of_contentItems rule member kind)
    obtain ⟨value, means⟩ := means
    cases (ValueKind.read?_eq_some_iff.mpr means).symm.trans unread
  | free group name unmapped =>
    simp only [read?, ite_eq_left_iff, reduceCtorEq, imp_false, not_not] at unread
    exact if_pos unread

end Slot

namespace Claims

open Parameters (HasItemArray)

variable {parameters incoming : Parameters}

/-- In each slot the merged claims say what the added parameter says, or else what the other one did. -/
theorem at?_merge_ofParameters (parameters incoming : Parameters) (slot : Slot) :
    ((ofParameters parameters).merge (ofParameters incoming)).at? slot.place =
      ((incoming.get? slot.parameter).bind slot.read?).or ((parameters.get? slot.parameter).bind slot.read?) := by
  have plain : ∀ slot : Slot, ∀ value, slot.place.member = none →
      (ofParameters incoming).at? slot.place = some value → value.object? = none :=
    fun _ _ alone held => object?_eq_none_of_alone alone held
  simp [at?_merge (shaped_ofParameters _) (shaped_ofParameters _) plain]

theorem at?_ofParameters_extend (parameters incoming : Parameters) (slot : Slot) :
    (ofParameters (parameters.extend incoming)).at? slot.place =
      ((incoming.get? slot.parameter).or (parameters.get? slot.parameter)).bind slot.read? := by
  simp

theorem merge_ofParameters_same (array : incoming.HasItemArray) (parameters : Parameters) :
    ((ofParameters parameters).merge (ofParameters incoming)).Same
      (ofParameters (parameters.extend incoming)) := by
  refine ((shaped_ofParameters _).merge (shaped_ofParameters _)).same (shaped_ofParameters _) fun slot => ?_
  have agree : ((ofParameters parameters).merge (ofParameters incoming)).at? slot.place =
      (ofParameters (parameters.extend incoming)).at? slot.place := by
    rw [at?_merge_ofParameters, at?_ofParameters_extend]
    cases added : incoming.get? slot.parameter with
    | none => rfl
    | some text =>
      rw [Option.bind_some, Option.some_or, Option.bind_some]
      cases read : slot.read? text with
      | some value => rfl
      | none =>
        -- What was there before was not taken over either.
        have unread := slot.read?_eq_none (fun items => array text (by rw [← items, added])) read
        cases parameters.get? slot.parameter with
        | none => rfl
        | some before => rw [Option.bind_some, unread before, Option.none_or]
  rw [agree]
  exact Json.Same.rel_refl _

/-- Content items in another form are not taken over, and so leave an array that was there before. -/
theorem hasItemArray_of_merge {items : String} {value : Json} (held : parameters.get? "content_items" = some items)
    (read : Slot.contentItems.read? items = some value)
    (same : ((ofParameters parameters).merge (ofParameters incoming)).Same
      (ofParameters (parameters.extend incoming))) : incoming.HasItemArray := by
  intro text added
  cases reads : Slot.contentItems.read? text with
  | some value =>
    obtain ⟨items, _, parsed⟩ := ValueKind.exists_array_of_contentItems reads
    exact ⟨items, parsed⟩
  | none =>
    have merged := at?_merge_ofParameters parameters incoming .contentItems
    have extended := at?_ofParameters_extend parameters incoming .contentItems
    have claim := same Slot.contentItems.place.claim
    rw [show Slot.contentItems.parameter = "content_items" from rfl, added, held] at merged extended
    rw [Option.bind_some, reads, Option.none_or, Option.bind_some, read] at merged
    rw [Option.some_or, Option.bind_some, reads] at extended
    -- A claim of its own is what stands in its place.
    rw [show ((ofParameters parameters).merge (ofParameters incoming)).get? _ = _ from merged,
      show (ofParameters (parameters.extend incoming)).get? _ = _ from extended] at claim
    cases claim

theorem hasItemArray_identity (tool : ToolRegistration) (user : User) :
    Parameters.HasItemArray (.ofList (presentParameters (tool.identityParameters user))) := by
  intro text given
  have distinct := tool.identityParameters_nodup user
  have unknown : Entries.get? (tool.identityParameters user) "content_items" = none :=
    Entries.get?_eq_none_iff.mpr fun known => absurd ((tool.keys_identityParameters user).subset known) (by decide)
  rw [OrderedMap.get?_ofList_of_nodup (keys_presentParameters.nodup distinct), get?_presentParameters distinct,
    unknown] at given
  cases given

/-- Converting parameters apart and merging their claims is converting them together, the added ones over the others.
It is so for any parameters that are added, as long as content items among them are an array, and so for the parameters
of a user. -/
theorem merge_ofParameters (incoming : Parameters) :
    ((∀ parameters : Parameters, ((ofParameters parameters).merge (ofParameters incoming)).Same
        (ofParameters (parameters.extend incoming))) ↔ incoming.HasItemArray) ∧
    ∀ (parameters : Parameters) (tool : ToolRegistration) (user : User),
      ((ofParameters parameters).merge (identity tool user)).Same
        (ofParameters (parameters.extend (.ofList (presentParameters (tool.identityParameters user))))) := by
  refine ⟨⟨fun same => ?_, merge_ofParameters_same⟩, fun parameters tool user => ?_⟩
  · let noItems : Parameters := .ofList [("content_items", "[]")]
    have held : noItems.get? "content_items" = some "[]" := rfl
    have read : Slot.contentItems.read? "[]" = some (.array []) := by rfl
    exact hasItemArray_of_merge held read (same noItems)
  · exact merge_ofParameters_same (hasItemArray_identity tool user) parameters

end Claims

end LtiPlatform
