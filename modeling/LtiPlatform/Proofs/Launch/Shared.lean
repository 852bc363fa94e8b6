import LtiPlatform.Launch.Platform
import LtiPlatform.Proofs.Claims.Slot

namespace LtiPlatform

namespace Claims

/-- The claims that a token has of itself. -/
def tokenNames : List String := ["iss", "aud", "azp", "nonce", "iat", "exp", "jti"]

/-- The claims that only a flat launch can have, for the picture and the sourced id of its user. -/
def flatNames : List String := ["picture", Rule.claimRoot "" ++ "lis"]

/-- The claims that a flat launch and a launch with claims need not share. -/
def unshared : List String :=
  [Rule.claimRoot "" ++ "version", Rule.claimRoot "" ++ "deployment_id",
    Rule.claimRoot "" ++ "target_link_uri"] ++ flatNames ++ tokenNames

end Claims

namespace Rule

/-- The parameters that a flat launch and a message hint do not share. -/
def unsharedParameters : List String :=
  ["lti_version"] ++ ["deployment_id", "target_link_uri"] ++ ["user_image", "lis_person_sourcedid"]

theorem unsharedParameters_mapped : ∀ parameter ∈ unsharedParameters,
    (ofParameter? parameter).any fun rule => Claims.unshared.contains rule.claimName := by
  decide

theorem claimName_ne_registrationId : ∀ rule ∈ table, rule.claimName ≠ Claims.registrationId := by
  decide

end Rule

theorem OpenGroup.claim_shared (group : OpenGroup) : group.claim ∉ Claims.unshared := by
  cases group <;> decide

namespace Slot

variable {slot : Slot}

theorem parameter_shared (shared : slot.place.claim ∉ Claims.unshared) :
    slot.parameter ≠ "lti_version" ∧ slot.parameter ∉ ["deployment_id", "target_link_uri"] ∧
      slot.parameter ∉ ["user_image", "lis_person_sourcedid"] := by
  have unlisted : slot.parameter ∉ Rule.unsharedParameters := by
    intro listed
    obtain ⟨rule, found, unshared⟩ := (Option.any_eq_true ..).mp (Rule.unsharedParameters_mapped _ listed)
    obtain ⟨member, same⟩ := Rule.ofParameter?_eq_some_iff.mp found
    have ruled : slot = .ruled rule member := parameter_injective same.symm
    subst ruled
    exact shared (List.contains_iff_mem.mp unshared)
  rw [Rule.unsharedParameters, List.mem_append, List.mem_append, List.mem_singleton, not_or, not_or] at unlisted
  exact ⟨unlisted.1.1, unlisted.1.2, unlisted.2⟩

theorem claim_ne_registrationId (slot : Slot) : slot.place.claim ≠ Claims.registrationId := by
  have apart : ∀ group : OpenGroup, group.claim ≠ Claims.registrationId := by
    intro group
    cases group <;> decide
  cases slot with
  | ruled rule member => exact Rule.claimName_ne_registrationId rule member
  | free group name unmapped => exact apart group

end Slot

end LtiPlatform
