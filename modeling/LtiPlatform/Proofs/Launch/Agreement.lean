import LtiPlatform.Proofs.Launch.IdToken

namespace LtiPlatform

open Substitution

namespace Claims

/-- The claims for a user say what the parameters for one say, but for those only of flat launches. -/
theorem at?_identity (tool : ToolRegistration) (user : User) {slot : Slot}
    (shared : slot.parameter ∉ ["user_image", "lis_person_sourcedid"]) :
    (identity tool user).at? slot.place =
      (Entries.get? (tool.userParameters user) slot.parameter).join.bind slot.read? := by
  rw [at?_identity_eq, tool.get?_userParameters user shared]

end Claims

namespace LaunchDraft

variable {draft : LaunchDraft} {platform : Platform} {slot : Slot}

/-- The claims of an id token before they are addressed: those of the hint with the user's data. -/
def told (draft : LaunchDraft) (platform : Platform) (tool : ToolRegistration) (user : User) : Claims :=
  Claims.merge
    (Claims.substituted (.ofParameters (draft.hintParameters platform tool standard)) standard user)
    (Claims.identity tool user)

theorem shaped_told (draft : LaunchDraft) (platform : Platform) (tool : ToolRegistration) (user : User) :
    (draft.told platform tool user).Shaped :=
  ((Claims.shaped_ofParameters _).substituted user).merge (Claims.shaped_ofParameters _)

theorem at?_told (draft : LaunchDraft) (platform : Platform) (tool : ToolRegistration) (user : User)
    (slot : Slot) :
    (draft.told platform tool user).at? slot.place = ((Claims.identity tool user).at? slot.place).or
      ((Claims.substituted (.ofParameters (draft.hintParameters platform tool standard)) standard
        user).at? slot.place) := by
  refine Claims.at?_merge ((Claims.shaped_ofParameters _).substituted user)
    (Claims.shaped_ofParameters _) (fun slot value alone found => ?_) slot
  rw [Claims.at?_ofParameters] at found
  obtain ⟨text, _, read⟩ := Option.bind_eq_some_iff.mp found
  exact slot.object?_of_read? alone read

/-- Nothing was set by name, no custom parameter has a rule of its own, and no datum of the launch
looks like a placeholder. -/
structure IsPlain (draft : LaunchDraft) (platform : Platform) : Prop where
  noExtra : ∀ name, draft.extra.get? name = none
  free : ∀ name, (Rule.ofParameter? (OpenGroup.custom.parameter name)).isSome →
    draft.custom.get? name = none
  data : ∀ datum value, PlatformDatum.value? (draft.context platform) datum = some value →
    ¬ isPlaceholder value

theorem get?_ownParameters_version (draft : LaunchDraft) (platform : Platform) (tool : ToolRegistration)
    (version : LtiVersion) {name : String} (other : name ≠ "lti_version") :
    Entries.get? (draft.ownParameters platform { tool with version }) name =
      Entries.get? (draft.ownParameters platform tool) name := by
  simp only [ownParameters, List.cons_append, Entries.get?_cons, if_neg (Ne.symm other)]

/-- A datum that the launch does not have is not in the claims of its hint either. -/
theorem value?_ofClaims_hint (plain : draft.IsPlain platform) (tool : ToolRegistration)
    {datum : PlatformDatum} (unknown : datum.value? (draft.context platform) = none) :
    datum.value? (LaunchContext.ofClaims
      (.ofParameters (draft.hintParameters platform tool standard))) = none := by
  rw [← Option.not_isSome_iff_eq_none, Option.isSome_iff_exists]
  rintro ⟨value, known⟩
  have present := PlatformDatum.isSome_at?_of_value? known
  obtain ⟨slot, named, placed⟩ := datum.exists_slot
  have noCustom : ¬ Text.isPrefix OpenGroup.custom.start datum.parameter := by
    cases datum <;> decide
  have general : datum.parameter ∉ ["deployment_id", "target_link_uri"] := by
    cases datum <;> decide
  rw [← placed, Claims.at?_ofParameters, named, get?_hintParameters _ _ _ _ noCustom general,
    plain.noExtra, Option.none_or, PlatformDatum.get?_ownParameters, unknown] at present
  cases present

/-- A custom value with the data of the user says the same, whether they were put in at once or only
after the value had become a claim. -/
theorem at?_told_custom (plain : draft.IsPlain platform) (tool : ToolRegistration) (version : LtiVersion)
    (user : User) (name : String) (unmapped : Rule.ofParameter? (OpenGroup.custom.parameter name) = none) :
    (Claims.ofParameters (draft.flatParameters platform { tool with version } standard user)).at?
        (Slot.free .custom name unmapped).place =
      (draft.told platform tool user).at? (Slot.free .custom name unmapped).place := by
  obtain ⟨_, _, ofUser⟩ := (Slot.free .custom name unmapped).parameter_shared OpenGroup.custom.claim_shared
  have noUser : (Claims.identity tool user).at? (Slot.free .custom name unmapped).place = none := by
    rw [Claims.at?_identity tool user ofUser, Slot.parameter, tool.get?_userParameters_custom]
    rfl
  rw [at?_told, noUser, Option.none_or, Claims.at?_ofParameters]
  refine Eq.trans ?_ (Claims.at?_substituted_custom ..).symm
  rw [show Place.mk OpenGroup.custom.claim (some name) = (Slot.free .custom name unmapped).place from rfl,
    Claims.at?_ofParameters, Slot.parameter, get?_flatParameters_custom, get?_hintParameters_custom,
    plain.noExtra, Option.or_none]
  cases draft.custom.get? name with
  | none => rfl
  | some text =>
    simp only [Option.map_some, Option.bind_some, Slot.read?]
    split
    · rfl
    · rw [Option.map_some, Json.replaced_string, replace_replace rfl plain.data
        fun datum unknown => value?_ofClaims_hint plain tool unknown]

/-- Both launches say the same of their user and of themselves. -/
theorem at?_told_of_not_custom (plain : draft.IsPlain platform) (tool : ToolRegistration)
    (version : LtiVersion) (user : User) (noCustom : ¬ Text.isPrefix OpenGroup.custom.start slot.parameter)
    (shared : slot.place.claim ∉ Claims.unshared) :
    (Claims.ofParameters (draft.flatParameters platform { tool with version } standard user)).at?
        slot.place = (draft.told platform tool user).at? slot.place := by
  obtain ⟨notVersion, general, ofUser⟩ := slot.parameter_shared shared
  have apart : OpenGroup.custom.claim ≠ slot.place.claim := by
    intro same
    obtain ⟨name, unmapped, rfl⟩ := slot.eq_free same.symm
    exact noCustom (OpenGroup.isPrefix_start_iff.mpr ⟨name, rfl⟩)
  rw [at?_told, Claims.at?_substituted_of_ne standard user apart, Claims.at?_ofParameters,
    Claims.at?_ofParameters, get?_flatParameters _ _ _ _ _ noCustom, plain.noExtra, Option.none_or,
    get?_ownParameters_version _ _ _ _ notVersion, get?_hintParameters _ _ _ _ noCustom general,
    plain.noExtra, Option.none_or, Claims.at?_identity tool user ofUser]
  show ((Entries.get? (tool.userParameters user) slot.parameter).join.or _).bind slot.read? = _
  -- No parameter is both the user's and the launch's own.
  cases known : (Entries.get? (tool.userParameters user) slot.parameter).join with
  | none => rfl
  | some text =>
    have named : slot.parameter ∈ ToolRegistration.userNames := by
      refine (tool.keys_userParameters user).subset (Entries.get?_isSome_iff.mp ?_)
      rw [Option.join_eq_some_iff.mp known, Option.isSome_some]
    have notOwn := ToolRegistration.userNames_not_own _ named
    rw [get?_ownParameters_eq_none _ _ _ notOwn, Option.join_none, Option.or_none, Option.bind_none, Option.or_none]

/-- Slot by slot, a flat launch says what the claims of the other launch say. -/
theorem at?_told_eq (plain : draft.IsPlain platform) (tool : ToolRegistration) (version : LtiVersion)
    (user : User) (shared : slot.place.claim ∉ Claims.unshared) :
    (Claims.ofParameters (draft.flatParameters platform { tool with version } standard user)).at?
        slot.place = (draft.told platform tool user).at? slot.place := by
  by_cases custom : Text.isPrefix OpenGroup.custom.start slot.parameter
  · obtain ⟨name, named⟩ := OpenGroup.isPrefix_start_iff.mp custom
    rcases slot.of_custom_parameter named.symm with ⟨unmapped, rfl⟩ | ⟨mapped, apart⟩
    · exact at?_told_custom plain tool version user name unmapped
    -- A custom parameter with a rule was not set.
    · obtain ⟨_, _, ofUser⟩ := slot.parameter_shared shared
      rw [at?_told, Claims.at?_substituted_of_ne standard user apart.symm, Claims.at?_ofParameters,
        Claims.at?_ofParameters, Claims.at?_identity tool user ofUser, ← named,
        get?_flatParameters_custom, get?_hintParameters_custom, tool.get?_userParameters_custom,
        plain.noExtra, plain.free name mapped]
      rfl
  · exact at?_told_of_not_custom plain tool version user custom shared

/-- What is told to the tool reaches it, but for the claims that address the token. -/
theorem agreeOff_idTokenClaims (draft : LaunchDraft) (platform : Platform) (tool : ToolRegistration)
    (user : User) (stamp now : TokenStamp) (nonce : String) :
    Claims.AgreeOff (Claims.registrationId :: Claims.tokenNames)
      (platform.idTokenClaims standard tool user nonce now (draft.hintClaims platform tool standard stamp))
      (draft.told platform tool user) := by
  have stamps : ["iat", "exp", "jti"] ⊆ Claims.registrationId :: Claims.tokenNames := by decide
  have hintAddress :
      [Claims.registrationId, "iss", "aud"] ⊆ Claims.registrationId :: Claims.tokenNames := by
    decide
  have hint : Claims.AgreeOff (Claims.registrationId :: Claims.tokenNames)
      (draft.hintClaims platform tool standard stamp)
      (.ofParameters (draft.hintParameters platform tool standard)) := by
    rw [hintClaims_eq]
    exact (Claims.AgreeOff.stamped stamps stamp _).trans (Claims.AgreeOff.insertAll hintAddress)
  have assembled := (hint.substituted (by decide) standard user).merge (Claims.identity tool user)
  exact (platform.agreeOff_idTokenClaims standard tool user nonce now _).trans assembled

/-- Claim by claim, the flat launch and the id token say the same. -/
theorem flat_agrees (plain : draft.IsPlain platform) (tool : ToolRegistration) (version : LtiVersion)
    (user : User) (stamp now : TokenStamp) (nonce : String) {name : String}
    (shared : name ∉ Claims.unshared) :
    Option.Rel Json.Same
      ((Claims.ofParameters (draft.flatParameters platform { tool with version } standard user)).get? name)
      ((platform.idTokenClaims standard tool user nonce now
        (draft.hintClaims platform tool standard stamp)).get? name) := by
  have shaped := Claims.shaped_ofParameters
    (draft.flatParameters platform { tool with version } standard user)
  by_cases registration : name = Claims.registrationId
  · subst registration
    rw [platform.get?_idTokenClaims_registrationId]
    rw [shaped.get?_eq_none fun slot same => absurd same slot.claim_ne_registrationId]
    exact .none
  · have apart : name ∉ Claims.registrationId :: Claims.tokenNames := by
      rw [List.mem_cons, not_or]
      exact ⟨registration, fun token => shared (List.mem_append_right _ token)⟩
    rw [agreeOff_idTokenClaims draft platform tool user stamp now nonce name apart]
    refine shaped.rel_get? (shaped_told draft platform tool user) fun slot same => ?_
    rw [at?_told_eq plain tool version user (by rwa [same])]
    cases (draft.told platform tool user).at? slot.place with
    | none => exact .none
    | some value => exact .some (.refl value)

theorem isPlain_ofSettings {settings : List LaunchSetting}
    (noExtra : ∀ name value, .parameter name value ∉ settings)
    (free : ∀ name value, .custom name value ∈ settings →
      Rule.ofParameter? (OpenGroup.custom.parameter name) = none)
    (data : ∀ datum value,
      PlatformDatum.value? ((ofSettings settings).context platform) datum = some value →
        ¬ isPlaceholder value) :
    (ofSettings settings).IsPlain platform where
  noExtra name := extra_get?_eq_none (noExtra name)
  free name mapped := by
    refine custom_get?_eq_none fun value member => ?_
    rw [free name value member] at mapped
    cases mapped
  data := data

section Launches

variable {scheme : SignatureScheme} {settings : List LaunchSetting} {tool : ToolRegistration}
  {older : LtiVersion}

/-- A tool that is moved to the version with claims is told the same as before. The flat launch of
the one and the id token for the other have the same claims, but for the unshared ones. -/
theorem flat_and_signed_launch_agree (flatVersion : older.usesClaims = false)
    (claimsVersion : tool.version.usesClaims = true) {url : String}
    (address : tool.initiateLoginUrl = some url) (canSign : scheme.CanSign platform.key)
    (noExtra : ∀ name value, .parameter name value ∉ settings)
    (free : ∀ name value, .custom name value ∈ settings →
      Rule.ofParameter? (OpenGroup.custom.parameter name) = none)
    (data : ∀ datum value,
      PlatformDatum.value? ((ofSettings settings).context platform) datum = some value →
        ¬ isPlaceholder value)
    (stamp : TokenStamp) (user : User) :
    ∃ flat login,
      (ofSettings settings).build scheme platform { tool with version := older }
          (fun _ => standard) stamp user = .ok (.flat ((ofSettings settings).target tool) flat) ∧
      (ofSettings settings).build scheme platform tool (fun _ => standard) stamp user =
          .ok (.login login) ∧
      ∀ (collaborators : Collaborators) (now : TokenStamp) (request : AuthenticationRequest),
        TokenCodec.verify scheme platform.codec platform.keys now.time login.messageHint =
            .ok ((ofSettings settings).hintClaims platform tool standard stamp) →
        request.Continues login tool → collaborators.Know tool login.loginHint user →
        collaborators.substitutor tool = standard →
        ∃ response claims, platform.authenticate scheme collaborators now request = .ok response ∧
          claims = platform.idTokenClaims standard tool user (AuthenticationRequest.text request.nonce)
            now ((ofSettings settings).hintClaims platform tool standard stamp) ∧
          TokenCodec.issue scheme platform.key claims = .ok response.idToken ∧
          ∀ name ∉ Claims.unshared,
            Option.Rel Json.Same ((Claims.ofParameters flat).get? name) (claims.get? name) := by
  have plain := isPlain_ofSettings noExtra free data
  obtain ⟨hint, issued⟩ := TokenCodec.exists_issue_of_canSign canSign
    ((ofSettings settings).hintClaims platform tool standard stamp)
  have flatBuilt : (ofSettings settings).build scheme platform { tool with version := older }
      (fun _ => standard) stamp user = .ok (.flat ((ofSettings settings).target tool)
        ((ofSettings settings).flatParameters platform { tool with version := older } standard user)) := by
    rw [build, if_neg (by simp [flatVersion])]
    rfl
  refine ⟨_, _, flatBuilt, build_of_issue claimsVersion address issued, ?_⟩
  intro collaborators now request verified continues known substitutes
  obtain ⟨token, signed⟩ := TokenCodec.exists_issue_of_canSign canSign
    (platform.idTokenClaims standard tool user (AuthenticationRequest.text request.nonce) now
      ((ofSettings settings).hintClaims platform tool standard stamp))
  refine ⟨⟨AuthenticationRequest.text request.redirectUri, token, request.state⟩, _, ?_, rfl, signed,
    fun name shared => flat_agrees plain tool older user stamp now _ shared⟩
  have accepted : LaunchAttempt.hintResult ⟨scheme, platform, collaborators, now, request⟩ =
      .ok ((ofSettings settings).hintClaims platform tool standard stamp) := by
    rw [LaunchAttempt.hintResult, continues.messageHint]
    exact verified
  refine LaunchAttempt.answer_of_continues ⟨scheme, platform, collaborators, now, request⟩ continues
    rfl known accepted get?_hintClaims_issuer get?_hintClaims_registrationId ?_
  rw [substitutes]
  exact signed

/-- A quiz in a course, whose link has a custom value with the course in it and one with the user. -/
theorem quiz_launches_agree :
    ∃ flat login response claims,
      (ofSettings quizInCourse).build .standard .beforeRotation { ToolRegistration.quiz with version := .v11 }
          (fun _ => standard) ⟨1700000000, "j-1"⟩ .learner =
        .ok (.flat "https://quiz.example/launch" flat) ∧
      (ofSettings quizInCourse).build .standard .beforeRotation .quiz (fun _ => standard)
          ⟨1700000000, "j-1"⟩ .learner = .ok (.login login) ∧
      Platform.beforeRotation.authenticate .standard .ofQuiz ⟨1700000100, "j-2"⟩ (.ofLogin login) =
        .ok response ∧
      TokenCodec.issue .standard Platform.beforeRotation.key claims = .ok response.idToken ∧
      ∀ name ∉ Claims.unshared,
        Option.Rel Json.Same ((Claims.ofParameters flat).get? name) (claims.get? name) := by
  have sound := Rsa.PrivateKey.sample_isSound
  have canSign : SignatureScheme.standard.CanSign Platform.beforeRotation.key :=
    SignatureScheme.standard_canSign_ofRsa sound.usable "2023"
  obtain ⟨flat, login, flatBuilt, built, agree⟩ :=
    @flat_and_signed_launch_agree .beforeRotation .standard quizInCourse .quiz .v11 rfl rfl _ rfl canSign
      quizInCourse_noExtra quizInCourse_free quizInCourse_data ⟨1700000000, "j-1"⟩ .learner
  obtain ⟨issued, _, loginHint, _⟩ := login_of_build built
  have verified := Platform.verify_quizHint (quizInCourse_noExtra "content_items") quizInCourse_plain issued
  have known : Collaborators.ofQuiz.Know .quiz login.loginHint .learner := by
    rw [loginHint]
    exact ⟨rfl, rfl⟩
  obtain ⟨response, claims, answered, _, signed, same⟩ := agree .ofQuiz ⟨1700000100, "j-2"⟩ _ verified
    (AuthenticationRequest.ofLogin_continues login) known rfl
  exact ⟨flat, login, response, claims, flatBuilt, built, answered, signed, same⟩

end Launches

end LaunchDraft

end LtiPlatform
