import LtiPlatform.Proofs.Launch.Completion
import LtiPlatform.Proofs.Launch.Context
import LtiPlatform.Proofs.Launch.Shared

namespace LtiPlatform

open Substitution

/-- The datum, where the policy shows it. -/
def DisclosurePolicy.shown? (policy : DisclosurePolicy) (datum? : Option String) : Option String :=
  if policy = .always then datum? else none

namespace ToolRegistration

/-- What the tool is shown of a user, parameter by parameter. -/
theorem get?_identityParameters (tool : ToolRegistration) (user : User) :
    (Entries.get? (tool.identityParameters user) "user_id").join = some user.id ∧
    (Entries.get? (tool.identityParameters user) "lis_person_name_full").join =
      tool.sendName.shown? user.displayName ∧
    (Entries.get? (tool.identityParameters user) "lis_person_name_given").join =
      tool.sendName.shown? user.givenName ∧
    (Entries.get? (tool.identityParameters user) "lis_person_name_family").join =
      tool.sendName.shown? user.familyName ∧
    (Entries.get? (tool.identityParameters user) "ext_user_username").join =
      tool.sendName.shown? user.username ∧
    (Entries.get? (tool.identityParameters user) "lis_person_contact_email_primary").join =
      tool.sendEmail.shown? user.email := by
  simp only [identityParameters, disclosedParameters, DisclosurePolicy.shown?]
  by_cases names : tool.sendName = .always <;> by_cases email : tool.sendEmail = .always <;>
    simp [names, email, Entries.get?_cons]

end ToolRegistration

namespace Claims

/-- The claims that are each one datum of the user. -/
def personNames : List String := ["sub", "name", "given_name", "family_name", "email"]

theorem ext_not_person : OpenGroup.ext.claim ∉ personNames := by decide

theorem person_apart : ∀ name ∈ personNames, name ∉ registrationId :: tokenNames ∧
    OpenGroup.custom.claim ≠ name := by
  decide

/-- Each parameter for a user has a claim of its own, but for the username. -/
theorem place_of_disclosed {slot : Slot} (known : slot.parameter ∈ "user_id" :: ToolRegistration.disclosedNames) :
    slot.place.claim ∈ personNames ∨ slot.place = ⟨OpenGroup.ext.claim, some "user_username"⟩ := by
  have placed : ∀ parameter ∈ "user_id" :: ToolRegistration.disclosedNames,
      (ofParameter? parameter "").any fun said =>
        said.1.claim ∈ personNames ∨ said.1 = ⟨OpenGroup.ext.claim, some "user_username"⟩ := by
    decide
  have here := placed _ known
  rw [Slot.ofParameter?_parameter, Option.any_map] at here
  obtain ⟨_, _, place⟩ := (Option.any_eq_true ..).mp here
  exact of_decide_eq_true place

theorem at?_identity_eq (tool : ToolRegistration) (user : User) (slot : Slot) :
    (identity tool user).at? slot.place =
      (Entries.get? (tool.identityParameters user) slot.parameter).join.bind slot.read? := by
  have distinct := tool.identityParameters_nodup user
  rw [← get?_presentParameters distinct,
    ← OrderedMap.get?_ofList_of_nodup (keys_presentParameters.nodup distinct), ← at?_ofParameters]
  rfl

section Identity

variable (tool : ToolRegistration) (user : User)

theorem shaped_identity : (identity tool user).Shaped := shaped_ofParameters _

theorem place_of_identity {slot : Slot} (said : ((identity tool user).at? slot.place).isSome) :
    slot.place.claim ∈ personNames ∨ slot.place = ⟨OpenGroup.ext.claim, some "user_username"⟩ := by
  refine place_of_disclosed ((tool.keys_identityParameters user).subset ?_)
  rw [at?_identity_eq] at said
  refine Entries.get?_isSome_iff.mp ?_
  cases known : Entries.get? (tool.identityParameters user) slot.parameter with
  | none =>
    rw [known] at said
    cases said
  | some text => rfl

theorem get?_identity_of_bare {parameter claim : String} (direct : Rule.bare parameter claim ∈ Rule.table) :
    (identity tool user).get? claim =
      (Entries.get? (tool.identityParameters user) parameter).join.map .string := by
  refine (at?_identity_eq tool user (.ruled _ direct)).trans ?_
  show Option.bind (Entries.get? (tool.identityParameters user) parameter).join _ = _
  cases (Entries.get? (tool.identityParameters user) parameter).join <;> rfl

theorem get?_identity_eq_none {name : String} (noDatum : name ∉ personNames)
    (other : name ≠ OpenGroup.ext.claim) : (identity tool user).get? name = none := by
  refine (shaped_identity tool user).get?_eq_none fun slot same => ?_
  rw [← Option.not_isSome_iff_eq_none]
  intro said
  rcases place_of_identity tool user said with datum | username
  · exact noDatum (same ▸ datum)
  · exact other (by rw [← same, username])

theorem at?_identity_username : (identity tool user).at? ⟨OpenGroup.ext.claim, some "user_username"⟩ =
    (tool.sendName.shown? user.username).map .string := by
  obtain ⟨_, _, _, _, username, _⟩ := tool.get?_identityParameters user
  rw [← username]
  refine (at?_identity_eq tool user (.free .ext "user_username" (by decide))).trans ?_
  show Option.bind (Entries.get? (tool.identityParameters user) "ext_user_username").join _ = _
  cases (Entries.get? (tool.identityParameters user) "ext_user_username").join <;> rfl

theorem get?_identity_ext_eq_none (untold : tool.sendName.shown? user.username = none) :
    (identity tool user).get? OpenGroup.ext.claim = none := by
  refine (shaped_identity tool user).get?_eq_none fun slot same => ?_
  rw [← Option.not_isSome_iff_eq_none]
  intro said
  rcases place_of_identity tool user said with datum | username
  · rw [same] at datum
    exact ext_not_person datum
  · rw [username, at?_identity_username, untold] at said
    cases said

/-- The extension claim for a user has the username and nothing else. -/
theorem get?_identity_ext {username : String} (told : tool.sendName.shown? user.username = some username) :
    ∃ value members, (identity tool user).get? OpenGroup.ext.claim = some value ∧
      value.object? = some members ∧
      ∀ name, members.get? name = if name = "user_username" then some (.string username) else none := by
  have said := at?_identity_username tool user
  rw [told] at said
  obtain ⟨value, found, inside⟩ := Option.bind_eq_some_iff.mp said
  obtain ⟨members, isObject, member⟩ := Option.bind_eq_some_iff.mp inside
  refine ⟨value, members, found, isObject, fun name => ?_⟩
  split
  · next same => rw [same, member]
  · next other =>
    rw [← Option.not_isSome_iff_eq_none]
    intro present
    have here : ((identity tool user).at? ⟨OpenGroup.ext.claim, some name⟩).isSome := by
      simpa only [at?, found, Option.bind_some, Json.member?, isObject] using present
    rcases shaped_identity tool user _ value found with ⟨slot, placed⟩ | ⟨members', isMembers, _, known⟩
    · have sameClaim : slot.place.claim = (Slot.free .ext "user_username" (by decide)).place.claim := by
        rw [placed]
        rfl
      have alone := Slot.member_eq_none_of_claim sameClaim (by rw [placed])
      cases alone
    · cases isObject.symm.trans isMembers
      obtain ⟨slot, placed⟩ := known name present
      rw [← placed] at here
      rcases place_of_identity tool user here with datum | place
      · rw [placed] at datum
        exact ext_not_person datum
      · rw [placed] at place
        exact other (Option.some.inj (congrArg Place.member place))

end Identity

theorem mem_customPlaceholders_iff {members : OrderedMap Json} {name text : String} :
    (name, text) ∈ customPlaceholders members ↔
      members.get? name = some (.string text) ∧ isPlaceholder text := by
  rw [customPlaceholders, List.mem_filterMap, ← OrderedMap.mem_entries_iff]
  constructor
  · rintro ⟨⟨first, value⟩, member, pending⟩
    obtain ⟨_, filtered, same⟩ := Option.map_eq_some_iff.mp pending
    obtain ⟨isText, placeholder⟩ := Option.filter_eq_some_iff.mp filtered
    cases same
    cases value with
    | string text' =>
      cases isText
      exact ⟨member, placeholder⟩
    | _ => cases isText
  · rintro ⟨member, placeholder⟩
    exact ⟨_, member, by rw [Json.string?, Option.filter_some, if_pos placeholder, Option.map_some]⟩

theorem keys_customPlaceholders (members : OrderedMap Json) :
    (Entries.keys (customPlaceholders members)).Sublist members.keys := by
  have changed : customPlaceholders members =
      Entries.changed (fun _ value => value.string?.filter isPlaceholder) members.entries := rfl
  rw [changed]
  exact Entries.keys_changed _ _

/-- The members with each placeholder among them replaced by the text that is returned at its position.
The placeholders are asked for in the order of the members. -/
structure IsFilled (members filled : OrderedMap Json) (results : List String) : Prop where
  asked : ∀ name text, (name, text) ∈ customPlaceholders members ↔
    members.get? name = some (.string text) ∧ isPlaceholder text
  inOrder : (Entries.keys (customPlaceholders members)).Sublist members.keys
  sameNames : filled.keys = members.keys
  placeholder : ∀ (i : Nat) (name text : String), (customPlaceholders members)[i]? = some (name, text) →
    filled.get? name = some (.string (results[i]?.getD text))
  other : ∀ name, (∀ text, members.get? name = some (.string text) → ¬ isPlaceholder text) →
    filled.get? name = members.get? name

/-- Whatever the substitutor, each of its answers goes to the member that was asked for there. -/
theorem exists_isFilled_custom {hint : Claims} {members : OrderedMap Json} (substitutor : Substitutor)
    (user : User) (custom : (hint.get? OpenGroup.custom.claim).bind Json.object? = some members) :
    ∃ filled : OrderedMap Json,
      (hint.substituted substitutor user).get? OpenGroup.custom.claim = some (.ofMap filled) ∧
      IsFilled members filled (substitutor ((LaunchContext.ofClaims hint).withUser user)
        ((customPlaceholders members).map Prod.snd)) := by
  let answers := filled substitutor ((LaunchContext.ofClaims hint).withUser user) (customPlaceholders members)
  have replaced : (hint.substituted substitutor user).get? OpenGroup.custom.claim =
      some (.ofMap (members.insertAll (answers.map fun entry => (entry.1, .string entry.2)))) := by
    simp only [substituted, custom, OrderedMap.get?_insert_self, answers]
  have asked := keys_customPlaceholders members
  have names : (Entries.keys answers).Sublist (Entries.keys (customPlaceholders members)) :=
    keys_filled _ _ _
  have each : ∀ name, (members.insertAll (answers.map fun entry => (entry.1, Json.string entry.2))).get? name =
      ((Entries.get? answers name).map .string).or (members.get? name) := by
    intro name
    rw [OrderedMap.get?_insertAll_of_nodup, Entries.get?_map]
    simpa using (names.trans asked).nodup members.distinct
  refine ⟨_, replaced, fun _ _ => mem_customPlaceholders_iff, asked, ?_, fun i name text here => ?_,
    fun name plain => ?_⟩
  · exact OrderedMap.keys_insertAll_of_subset (by simpa using (names.trans asked).subset)
  · have held := (mem_customPlaceholders_iff.mp (List.mem_of_getElem? here)).1
    rw [each, get?_filled (asked.nodup members.distinct) here, held]
    cases (substitutor ((LaunchContext.ofClaims hint).withUser user)
      ((customPlaceholders members).map Prod.snd))[i]? <;> rfl
  · have unasked : Entries.get? answers name = none := by
      refine Entries.get?_eq_none_iff.mpr fun known => ?_
      obtain ⟨⟨_, text⟩, pending, rfl⟩ := List.mem_map.mp (names.subset known)
      obtain ⟨held, placeholder⟩ := mem_customPlaceholders_iff.mp pending
      exact plain text held placeholder
    rw [each, unasked, Option.map_none, Option.none_or]

/-- The claims that an id token says of its user, of itself and of its launch, given those of the hint. -/
structure IsIdToken (platform : Platform) (substitutor : Substitutor) (tool : ToolRegistration) (user : User)
    (nonce : String) (stamp : TokenStamp) (hint claims : Claims) : Prop where
  registration : claims.get? "tool_registration_id" = none
  issuer : claims.get? "iss" = some (.string platform.issuer)
  audience : claims.get? "aud" = some (.string tool.clientId)
  authorizedParty : claims.get? "azp" = some (.string tool.clientId)
  nonce : claims.get? "nonce" = some (.string nonce)
  issuedAt : claims.get? "iat" = some (.ofInt stamp.time)
  expiry : claims.get? "exp" = some (.ofInt (min (stamp.time + platform.idTokenLifetime) TokenStamp.latest : Nat))
  id : claims.get? "jti" = some (.string stamp.id)
  subject : claims.get? "sub" = some (.string user.id)
  fullName : claims.get? "name" =
    ((tool.sendName.shown? user.displayName).map .string).or (hint.get? "name")
  givenName : claims.get? "given_name" =
    ((tool.sendName.shown? user.givenName).map .string).or (hint.get? "given_name")
  familyName : claims.get? "family_name" =
    ((tool.sendName.shown? user.familyName).map .string).or (hint.get? "family_name")
  email : claims.get? "email" = ((tool.sendEmail.shown? user.email).map .string).or (hint.get? "email")
  username : ∀ username, tool.sendName.shown? user.username = some username →
    ∃ extension, (claims.get? OpenGroup.ext.claim).bind Json.object? = some extension ∧
      ∀ name, extension.get? name =
        if name = "user_username" then some (.string username)
        else (hint.members OpenGroup.ext.claim).get? name
  noUsername : tool.sendName.shown? user.username = none →
    claims.get? OpenGroup.ext.claim = hint.get? OpenGroup.ext.claim
  custom : ∀ members, (hint.get? OpenGroup.custom.claim).bind Json.object? = some members →
    ∃ filled : OrderedMap Json, claims.get? OpenGroup.custom.claim = some (.ofMap filled) ∧
      IsFilled members filled (substitutor ((LaunchContext.ofClaims hint).withUser user)
        ((customPlaceholders members).map Prod.snd))
  noCustom : (hint.get? OpenGroup.custom.claim).bind Json.object? = none →
    claims.get? OpenGroup.custom.claim = hint.get? OpenGroup.custom.claim
  other : ∀ name ∉ registrationId :: tokenNames ++ personNames ++
    [OpenGroup.ext.claim, OpenGroup.custom.claim], claims.get? name = hint.get? name

end Claims

namespace Platform

section IdToken

variable (platform : Platform) (substitutor : Substitutor) (tool : ToolRegistration) (user : User)
  (nonce : String) (stamp : TokenStamp) (hint : Claims) {name : String}

/-- What a token says of itself. -/
def tokenEntries : Entries Json :=
  [("iss", .string platform.issuer), ("aud", .string tool.clientId), ("azp", .string tool.clientId),
    ("nonce", .string nonce), ("iat", .ofInt stamp.time),
    ("exp", .ofInt (stamp.expiry platform.idTokenLifetime)), ("jti", .string stamp.id)]

@[simp]
theorem keys_tokenEntries : Entries.keys (platform.tokenEntries tool nonce stamp) = Claims.tokenNames := rfl

/-- The token's own claims come last, whatever the others are. -/
theorem get?_idTokenClaims (name : String) :
    (platform.idTokenClaims substitutor tool user nonce stamp hint).get? name =
      (Entries.get? (platform.tokenEntries tool nonce stamp) name).or
        (if Claims.registrationId = name then none
        else ((hint.substituted substitutor user).merge (Claims.identity tool user)).get? name) := by
  have entered : platform.idTokenClaims substitutor tool user nonce stamp hint =
      (((hint.substituted substitutor user).merge (Claims.identity tool user)).erase
        Claims.registrationId).insertAll (platform.tokenEntries tool nonce stamp) := rfl
  have distinct : (Entries.keys (platform.tokenEntries tool nonce stamp)).Nodup := by
    rw [keys_tokenEntries]
    decide
  rw [entered, OrderedMap.get?_insertAll_of_nodup distinct, OrderedMap.get?_erase]

@[simp]
theorem get?_idTokenClaims_registrationId :
    (platform.idTokenClaims substitutor tool user nonce stamp hint).get? Claims.registrationId = none := by
  rw [get?_idTokenClaims, if_pos rfl]
  rfl

/-- What is told to the tool reaches it, but for the claims that address the token. -/
theorem agreeOff_idTokenClaims :
    Claims.AgreeOff (Claims.registrationId :: Claims.tokenNames)
      (platform.idTokenClaims substitutor tool user nonce stamp hint)
      ((hint.substituted substitutor user).merge (Claims.identity tool user)) := by
  intro name apart
  obtain ⟨notId, notToken⟩ := not_or.mp (mt List.mem_cons.mpr apart)
  rw [get?_idTokenClaims, Entries.get?_eq_none_iff.mpr notToken, if_neg (Ne.symm notId), Option.none_or]

variable {platform substitutor tool user nonce stamp hint}

theorem get?_idTokenClaims_of_bare {parameter claim : String} (direct : Rule.bare parameter claim ∈ Rule.table)
    (person : claim ∈ Claims.personNames) :
    (platform.idTokenClaims substitutor tool user nonce stamp hint).get? claim =
      ((Entries.get? (tool.identityParameters user) parameter).join.map .string).or (hint.get? claim) := by
  obtain ⟨apart, notCustom⟩ := Claims.person_apart claim person
  rw [agreeOff_idTokenClaims platform substitutor tool user nonce stamp hint claim apart, Claims.get?_merge,
    Claims.get?_identity_of_bare tool user direct, Claims.get?_substituted_of_ne substitutor user notCustom]
  cases (Entries.get? (tool.identityParameters user) parameter).join <;> rfl

/-- A claim that has nothing to do with the user stays as the substitution leaves it. -/
theorem get?_idTokenClaims_of_noDatum (apart : name ∉ Claims.registrationId :: Claims.tokenNames)
    (undisclosed : (Claims.identity tool user).get? name = none) :
    (platform.idTokenClaims substitutor tool user nonce stamp hint).get? name =
      (hint.substituted substitutor user).get? name := by
  rw [agreeOff_idTokenClaims platform substitutor tool user nonce stamp hint name apart, Claims.get?_merge,
    undisclosed, Option.map_none, Option.none_or]

theorem ext_idTokenClaims {username : String} (told : tool.sendName.shown? user.username = some username) :
    ∃ extension, ((platform.idTokenClaims substitutor tool user nonce stamp hint).get?
        OpenGroup.ext.claim).bind Json.object? = some extension ∧
      ∀ name, extension.get? name =
        if name = "user_username" then some (.string username)
        else (hint.members OpenGroup.ext.claim).get? name := by
  obtain ⟨value, fields, found, isObject, each⟩ := Claims.get?_identity_ext tool user told
  have apart : OpenGroup.ext.claim ∉ Claims.registrationId :: Claims.tokenNames := by decide
  have notCustom : OpenGroup.custom.claim ≠ OpenGroup.ext.claim := by decide
  rw [agreeOff_idTokenClaims platform substitutor tool user nonce stamp hint _ apart, Claims.get?_merge, found,
    Claims.get?_substituted_of_ne substitutor user notCustom, Option.map_some, Option.some_or, Option.bind_some]
  simp only [Json.joined, isObject, Claims.members]
  cases (hint.get? OpenGroup.ext.claim).bind Json.object? with
  | none =>
    refine ⟨fields, isObject, fun name => ?_⟩
    rw [each, Option.getD_none]
    rfl
  | some existing =>
    refine ⟨_, Json.object?_ofMap _, fun name => ?_⟩
    rw [OrderedMap.get?_extend, each, Option.getD_some]
    split <;> rfl

theorem isIdToken_idTokenClaims : Claims.IsIdToken platform substitutor tool user nonce stamp hint
    (platform.idTokenClaims substitutor tool user nonce stamp hint) := by
  obtain ⟨id, full, given, family, _, email⟩ := tool.get?_identityParameters user
  have token : ∀ name value, Entries.get? (platform.tokenEntries tool nonce stamp) name = some value →
      (platform.idTokenClaims substitutor tool user nonce stamp hint).get? name = some value := by
    intro name value own
    rw [get?_idTokenClaims, own, Option.some_or]
  have subject : Rule.bare "user_id" "sub" ∈ Rule.table := by decide
  have extApart : OpenGroup.ext.claim ∉ Claims.registrationId :: Claims.tokenNames := by decide
  have customApart : OpenGroup.custom.claim ∉ Claims.registrationId :: Claims.tokenNames := by decide
  have customTold : (platform.idTokenClaims substitutor tool user nonce stamp hint).get? OpenGroup.custom.claim =
      (hint.substituted substitutor user).get? OpenGroup.custom.claim :=
    get?_idTokenClaims_of_noDatum customApart (Claims.get?_identity_eq_none tool user (by decide) (by decide))
  constructor
  case registration => exact platform.get?_idTokenClaims_registrationId substitutor tool user nonce stamp hint
  case issuer => exact token _ _ rfl
  case audience => exact token _ _ rfl
  case authorizedParty => exact token _ _ rfl
  case nonce => exact token _ _ rfl
  case issuedAt => exact token _ _ rfl
  case expiry => exact token _ _ rfl
  case id => exact token _ _ rfl
  case subject =>
    rw [get?_idTokenClaims_of_bare subject (by decide), id, Option.map_some, Option.some_or]
  case fullName =>
    rw [← full]
    exact get?_idTokenClaims_of_bare (by decide) (by decide)
  case givenName =>
    rw [← given]
    exact get?_idTokenClaims_of_bare (by decide) (by decide)
  case familyName =>
    rw [← family]
    exact get?_idTokenClaims_of_bare (by decide) (by decide)
  case email =>
    rw [← email]
    exact get?_idTokenClaims_of_bare (by decide) (by decide)
  case username => exact fun username told => ext_idTokenClaims told
  case noUsername =>
    intro untold
    rw [get?_idTokenClaims_of_noDatum extApart (Claims.get?_identity_ext_eq_none tool user untold),
      Claims.get?_substituted_of_ne substitutor user (by decide)]
  case custom =>
    intro members custom
    rw [customTold]
    exact Claims.exists_isFilled_custom substitutor user custom
  case noCustom =>
    intro custom
    rw [customTold]
    simp only [Claims.substituted, custom]
  case other =>
    intro name unlisted
    rw [List.mem_append, List.mem_append, List.mem_pair, not_or, not_or, not_or] at unlisted
    obtain ⟨⟨apart, noDatum⟩, notExt, notCustom⟩ := unlisted
    rw [get?_idTokenClaims_of_noDatum apart (Claims.get?_identity_eq_none tool user noDatum notExt),
      Claims.get?_substituted_of_ne substitutor user (Ne.symm notCustom)]

end IdToken

end Platform

namespace LaunchAttempt

/-- The token of an answer is signed for the claims that the hint, the tool and the user determine. -/
theorem answer_is_idToken (attempt : LaunchAttempt) {response : AuthenticationResponse}
    (answered : attempt.answer = .ok response) :
    ∃ hint tool user claims, attempt.hintResult = .ok hint ∧ attempt.Registered tool ∧
      attempt.LoggedIn user ∧
      Claims.IsIdToken attempt.platform (attempt.collaborators.substitutor tool) tool user
        (AuthenticationRequest.text attempt.request.nonce) attempt.stamp hint claims ∧
      TokenCodec.issue attempt.scheme attempt.platform.key claims = .ok response.idToken := by
  obtain ⟨hint, tool, user, verified, registered, loggedIn, issued⟩ := signs_of_answer answered
  exact ⟨hint, tool, user, _, verified, registered, loggedIn,
    Platform.isIdToken_idTokenClaims, issued⟩

/-- A quiz gets such a token when its learner logs in. -/
theorem quiz_answer_is_idToken :
    ∃ login response, (ofQuiz .ofQuiz login).answer = .ok response ∧
      ∃ hint tool user claims, (ofQuiz .ofQuiz login).hintResult = .ok hint ∧
        (ofQuiz .ofQuiz login).Registered tool ∧ (ofQuiz .ofQuiz login).LoggedIn user ∧
        Claims.IsIdToken .beforeRotation standard tool user "n-1" ⟨1700000100, "j-2"⟩ hint claims ∧
        TokenCodec.issue .standard Platform.beforeRotation.key claims = .ok response.idToken := by
  obtain ⟨login, _, _, answered⟩ := exists_ofQuiz_answered
  obtain ⟨response, answer⟩ := answered .ofQuiz .learner ⟨rfl, rfl⟩
  exact ⟨login, response, answer, answer_is_idToken (ofQuiz .ofQuiz login) answer⟩

end LaunchAttempt

end LtiPlatform
