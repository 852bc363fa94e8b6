import LtiPlatform.Proofs.Claims.Settling
import LtiPlatform.Proofs.Launch.Merge

namespace LtiPlatform

namespace OpenGroup

/-- A member comes back if it has a name and no rule has taken its parameter. -/
def Keeps (group : OpenGroup) (name : String) : Prop :=
  name ≠ "" ∧ ∀ rule ∈ Rule.table, rule.parameter ≠ group.parameter name

instance (group : OpenGroup) (name : String) : Decidable (group.Keeps name) :=
  inferInstanceAs (Decidable (_ ∧ _))

/-- The members that come back, in their order, as flat texts. Null has none. -/
def kept (group : OpenGroup) (members : Entries Json) : Entries Json :=
  members.changed fun name value => if group.Keeps name then value.flatText?.map .string else none

variable {group : OpenGroup}

theorem keeps_iff {name : String} :
    group.Keeps name ↔ name ≠ "" ∧ Rule.ofParameter? (group.parameter name) = none := by
  rw [Keeps, Rule.ofParameter?_eq_none_iff]

theorem ofPlace?_claim (group : OpenGroup) : Rule.ofPlace? ⟨group.claim, none⟩ = none := by
  cases found : Rule.ofPlace? ⟨group.claim, none⟩ with
  | none => rfl
  | some rule =>
    obtain ⟨member, placed⟩ := Rule.ofPlace?_eq_some_iff.mp found
    exact absurd (congrArg Place.claim placed) (Rule.claimName_ne_open member group)

end OpenGroup

namespace Parameters

open OpenGroup (keeps_iff)

variable {group : OpenGroup} {name : String}

theorem reread?_free (unmapped : Rule.ofParameter? (group.parameter name) = none) (value : Json) :
    (Slot.free group name unmapped).reread? value =
      if name = "" then none else value.flatText?.map .string := by
  rw [Slot.reread?, Slot.write?]
  cases value.flatText? with
  | none => exact (ite_self none).symm
  | some text => rfl

/-- A member is reread for itself, and only if it is kept. -/
theorem rereadAt?_member (group : OpenGroup) (name : String) (value : Json) :
    rereadAt? ⟨group.claim, some name⟩ value =
      if group.Keeps name then value.flatText?.map .string else none := by
  cases mapped : Rule.ofParameter? (group.parameter name) with
  | none =>
    have here : (Slot.free group name mapped).place = ⟨group.claim, some name⟩ := rfl
    rw [← here, rereadAt?_place, reread?_free]
    by_cases empty : name = ""
    · rw [if_pos empty, if_neg fun keeps => keeps.1 empty]
    · rw [if_neg empty, if_pos (keeps_iff.mpr ⟨empty, mapped⟩)]
  | some rule =>
    -- No slot has this place, for a slot of an open group is one without a rule.
    have unwritten : writtenAt? ⟨group.claim, some name⟩ value = none := by
      refine Option.eq_none_iff_forall_ne_some.mpr fun ⟨parameter, text⟩ written => ?_
      obtain ⟨slot, placed, _⟩ := writtenAt?_eq_some_iff.mp written
      obtain ⟨other, unmapped, rfl⟩ := slot.eq_free (congrArg Place.claim placed)
      cases Option.some.inj (congrArg Place.member placed)
      cases unmapped.symm.trans mapped
    have taken : ¬ group.Keeps name := by
      rw [keeps_iff, mapped]
      exact fun keeps => nomatch keeps.2
    rw [rereadAt?, unwritten, Option.bind_none, if_neg taken]

theorem rereadMembers_group (group : OpenGroup) (members : Entries Json) :
    rereadMembers group.claim members = group.kept members := by
  rw [rereadMembers, OpenGroup.kept]
  exact congrArg (fun change => Entries.changed change members)
    (funext fun name => funext fun value => rereadAt?_member group name value)

end Parameters

namespace Claims

variable {claims others : Claims}

/-- What a claim becomes on the trip depends on that claim alone. -/
theorem get?_throughParameters (claims : Claims) (name : String) :
    claims.throughParameters.get? name = (claims.get? name).bind (Parameters.rereadClaim? name) := by
  show Entries.get? claims.throughParameters.entries name = _
  rw [throughParameters, entries_reread, Entries.get?_changed _ claims.distinct]
  rfl

theorem AgreeOff.throughParameters {names : List String} (agree : claims.AgreeOff names others) :
    claims.throughParameters.AgreeOff names others.throughParameters := by
  intro name apart
  rw [get?_throughParameters, get?_throughParameters, agree name apart]

theorem get?_throughParameters_group (claims : Claims) (group : OpenGroup) :
    claims.throughParameters.get? group.claim =
      match group.kept (claims.members group.claim).entries with
      | [] => none
      | members => some (.object members) := by
  rw [get?_throughParameters, members]
  cases claims.get? group.claim with
  | none => rfl
  | some value =>
    rw [Option.bind_some, Option.bind_some, Parameters.rereadClaim?_of_group group.ofPlace?_claim,
      Parameters.rereadMembers_group]
    have distinct : (group.kept (value.object?.getD ∅).entries).keys.Nodup :=
      (Entries.keys_changed _ _).nodup (value.object?.getD ∅).distinct
    cases kept : group.kept (value.object?.getD ∅).entries with
    | nil => rfl
    | cons member rest =>
      exact congrArg (fun members => some (Json.object members)) (OrderedMap.entries_ofList (kept ▸ distinct))

/-- On the trip through the parameters the custom and the extension claim say nothing to any other claim, and of
their own they keep as texts the members that no rule has taken. -/
theorem openGroups_separate (claims : Claims) :
    (∀ others, claims.AgreeOff [OpenGroup.custom.claim, OpenGroup.ext.claim] others →
      claims.throughParameters.AgreeOff [OpenGroup.custom.claim, OpenGroup.ext.claim] others.throughParameters) ∧
    ∀ group : OpenGroup, claims.throughParameters.get? group.claim =
      match group.kept (claims.members group.claim).entries with
      | [] => none
      | members => some (.object members) :=
  ⟨fun _ agree => agree.throughParameters, claims.get?_throughParameters_group⟩

/-- A custom member named like the parameter for line items does not come back as their address. -/
example :
    let custom := Json.object [("lineitems_url", .string "elsewhere"), ("section", .bool true), ("week", .null)]
    (throughParameters (.ofList [(OpenGroup.custom.claim, custom)])).entries =
      [(OpenGroup.custom.claim, .object [("section", .string "true")])] := by
  cbv

end Claims

end LtiPlatform
