import LtiPlatform.Proofs.Launch.IdToken

namespace LtiPlatform

/-- The target that was set last. -/
def LaunchSetting.lastTarget? : List LaunchSetting → Option String
  | [] => none
  | .targetLinkUri uri :: rest => (lastTarget? rest).or (some uri)
  | _ :: rest => lastTarget? rest

open LaunchSetting (lastTarget?)

/-- The claims of a hint by which its platform finds the launch again: who issued it, when, for which tool and for
which target. -/
structure Claims.IsAddressed (platform : Platform) (tool : ToolRegistration) (target : String) (stamp : TokenStamp)
    (hint : Claims) : Prop where
  registration : hint.get? "tool_registration_id" = some (.string tool.id)
  issuer : hint.get? "iss" = some (.string platform.issuer)
  audience : hint.get? "aud" = some (.string tool.clientId)
  issuedAt : hint.get? "iat" = some (.ofInt stamp.time)
  expiry : hint.get? "exp" = some (.ofInt (min (stamp.time + platform.hintLifetime) TokenStamp.latest : Nat))
  id : hint.get? "jti" = some (.string stamp.id)
  deployment : hint.get? (Rule.claimRoot "" ++ "deployment_id") = some (.string tool.deploymentId)
  target : hint.get? (Rule.claimRoot "" ++ "target_link_uri") = some (.string target)

namespace ToolRegistration

/-- What a flat launch tells of its user besides the id, as far as the user has it. -/
def told (tool : ToolRegistration) (user : User) : List (String × Option String) :=
  [("user_image", user.picture), ("lis_person_sourcedid", user.sourcedId),
    ("lis_person_name_given", tool.sendName.shown? user.givenName),
    ("lis_person_name_family", tool.sendName.shown? user.familyName),
    ("lis_person_name_full", tool.sendName.shown? user.displayName),
    ("ext_user_username", tool.sendName.shown? user.username),
    ("lis_person_contact_email_primary", tool.sendEmail.shown? user.email)]

theorem presentParameters_userParameters (tool : ToolRegistration) (user : User) :
    presentParameters (tool.userParameters user) = ("user_id", user.id) :: presentParameters (tool.told user) := by
  simp only [userParameters, disclosedParameters, told, DisclosurePolicy.shown?]
  split <;> split <;> rfl

end ToolRegistration

namespace LaunchDraft

variable {draft : LaunchDraft} {platform : Platform} {tool : ToolRegistration} {substitutor : Substitutor}
  {stamp : TokenStamp}

theorem targetLinkUri_foldl_set (draft : LaunchDraft) (settings : List LaunchSetting) :
    (settings.foldl set draft).targetLinkUri = (lastTarget? settings).or draft.targetLinkUri := by
  induction settings generalizing draft with
  | nil => rfl
  | cons setting rest ih =>
    rw [List.foldl_cons, ih]
    cases setting with
    | targetLinkUri uri =>
      rw [lastTarget?]
      cases lastTarget? rest <;> rfl
    | _ => rfl

theorem target_ofSettings (settings : List LaunchSetting) (tool : ToolRegistration) :
    (ofSettings settings).target tool = (lastTarget? settings).getD tool.targetLinkUri := by
  rw [target, ofSettings, targetLinkUri_foldl_set, Option.or_none]

/-- What a hint says in a claim of its own comes from the parameter of that name. -/
theorem get?_hintClaims_of_core {name : String} (direct : Rule.core name ∈ Rule.table)
    (apart : Rule.claimRoot "" ++ name ∉ Claims.hintNames) :
    (draft.hintClaims platform tool substitutor stamp).get? (Rule.claimRoot "" ++ name) =
      ((draft.hintParameters platform tool substitutor).get? name).map .string := by
  rw [get?_hintClaims, Entries.get?_eq_none_iff.mpr apart, Option.none_or]
  refine (Claims.at?_ofParameters _ (.ruled _ direct)).trans ?_
  show Option.bind ((draft.hintParameters platform tool substitutor).get? name) _ = _
  cases (draft.hintParameters platform tool substitutor).get? name <;> rfl

@[simp]
theorem get?_hintParameters_deployment :
    (draft.hintParameters platform tool substitutor).get? "deployment_id" = some tool.deploymentId := by
  rw [hintParameters, Parameters.get?_substituted_of_not_custom (by decide),
    OrderedMap.get?_insert_of_ne (by decide), OrderedMap.get?_insert_self]

@[simp]
theorem get?_hintParameters_target :
    (draft.hintParameters platform tool substitutor).get? "target_link_uri" = some (draft.target tool) := by
  rw [hintParameters, Parameters.get?_substituted_of_not_custom (by decide), OrderedMap.get?_insert_self]

theorem isAddressed_hintClaims :
    (draft.hintClaims platform tool substitutor stamp).IsAddressed platform tool (draft.target tool) stamp where
  registration := get?_hintClaims_registrationId
  issuer := get?_hintClaims_issuer
  audience := by rw [get?_hintClaims]; rfl
  issuedAt := by rw [get?_hintClaims]; rfl
  expiry := by rw [get?_hintClaims]; rfl
  id := by rw [get?_hintClaims]; rfl
  deployment := by rw [get?_hintClaims_of_core (by decide) (by decide), get?_hintParameters_deployment]; rfl
  target := by rw [get?_hintClaims_of_core (by decide) (by decide), get?_hintParameters_target]; rfl

theorem hintClaims_agreeOff (stamp stamp' : TokenStamp) :
    (draft.hintClaims platform tool substitutor stamp).AgreeOff ["iat", "exp", "jti"]
      (draft.hintClaims platform tool substitutor stamp') := by
  rw [hintClaims_eq, hintClaims_eq]
  exact (Claims.AgreeOff.stamped (List.Subset.refl _) stamp _).trans
    (Claims.AgreeOff.stamped (List.Subset.refl _) stamp' _).symm

/-- What a flat launch tells of its user takes the place of what was set under that name. -/
theorem get?_flatParameters_of_mem {user : User} {name value : String}
    (member : (name, value) ∈ presentParameters (tool.userParameters user)) :
    (draft.flatParameters platform tool substitutor user).get? name = some value := by
  have distinct := tool.userParameters_nodup user
  have named : name ∈ ToolRegistration.userNames :=
    (tool.keys_userParameters user).subset (keys_presentParameters.subset (List.mem_map_of_mem member))
  rw [get?_flatParameters _ _ _ _ _ (ToolRegistration.userNames_not_custom name named),
    ← get?_presentParameters distinct, Entries.get?_of_mem (keys_presentParameters.nodup distinct) member,
    Option.some_or]

/-- Whatever was set, the claims that a hint is addressed by have the values of the platform, the tool, the clock and
the target. Two hints of one launch only differ in their stamps, whoever the users are. A flat launch gives the id of
its user, and all that the tool may be told of the user. -/
theorem build_outranks_settings (settings : List LaunchSetting) (scheme : SignatureScheme) (platform : Platform)
    (tool : ToolRegistration) (substitutors : ToolRegistration → Substitutor) :
    (tool.version.usesClaims →
      (∀ stamp user request,
        (ofSettings settings).build scheme platform tool substitutors stamp user = .ok request →
        ∃ login, request = .login login ∧
          TokenCodec.issue scheme platform.key
            ((ofSettings settings).hintClaims platform tool (substitutors tool) stamp) = .ok login.messageHint) ∧
      (∀ stamp, ((ofSettings settings).hintClaims platform tool (substitutors tool) stamp).IsAddressed platform tool
        ((lastTarget? settings).getD tool.targetLinkUri) stamp) ∧
      ∀ stamp stamp', ((ofSettings settings).hintClaims platform tool (substitutors tool) stamp).AgreeOff
        ["iat", "exp", "jti"] ((ofSettings settings).hintClaims platform tool (substitutors tool) stamp')) ∧
    (¬ tool.version.usesClaims → ∀ stamp user, ∃ parameters,
      (ofSettings settings).build scheme platform tool substitutors stamp user =
        .ok (.flat ((lastTarget? settings).getD tool.targetLinkUri) parameters) ∧
      parameters.get? "user_id" = some user.id ∧
      ∀ name value, (name, some value) ∈ tool.told user → parameters.get? name = some value) := by
  rw [← target_ofSettings]
  constructor
  · intro usesClaims
    refine ⟨fun stamp user request built => ?_, fun stamp => isAddressed_hintClaims, hintClaims_agreeOff⟩
    obtain ⟨login, rfl⟩ := exists_login_of_build usesClaims built
    exact ⟨login, rfl, (login_of_build built).1⟩
  · intro flat stamp user
    have told : ∀ name value, (name, value) ∈ ("user_id", user.id) :: presentParameters (tool.told user) →
        ((ofSettings settings).flatParameters platform tool (substitutors tool) user).get? name = some value := by
      intro name value member
      rw [← ToolRegistration.presentParameters_userParameters] at member
      exact get?_flatParameters_of_mem member
    refine ⟨_, if_neg flat, told _ _ (List.mem_cons_self ..), fun name value shown => ?_⟩
    exact told name value (List.mem_cons_of_mem _ (mem_presentParameters_iff.mpr shown))

/-- An id that was set by name is not the one that is sent. -/
example :
    ((ofSettings [.parameter "user_id" "u-2"]).flatParameters .beforeRotation .quiz Substitution.standard
      .learner).get? "user_id" = some "u-1" := by
  decide +kernel

end LaunchDraft

end LtiPlatform
