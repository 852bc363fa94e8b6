import LtiPlatform.Proofs.Launch.Handover

namespace LtiPlatform

open Substitution

namespace Substitution

variable {context : LaunchContext} {text : String}

/-- The text names no variable for which something else is known. -/
def Settled (context : LaunchContext) (text : String) : Prop :=
  ∀ meant, Variable.ofText? text = some meant → ∀ value, meant.value? context = some value → value = text

theorem replace_eq_self_iff : replace context text = text ↔ Settled context text := by
  constructor
  · intro same meant named value known
    rwa [replace_of_ofText? named, known, Option.getD_some] at same
  · intro settled
    cases named : Variable.ofText? text with
    | none => rw [replace_eq, named, Option.bind_none, Option.getD_none]
    | some meant =>
      rw [replace_of_ofText? named]
      cases known : meant.value? context with
      | none => rfl
      | some value => exact settled meant named value known

end Substitution

section Places

/-- The claims of an id token that do not have just what the hint said. -/
def Claims.assembledNames : List String :=
  registrationId :: tokenNames ++ personNames ++ [OpenGroup.ext.claim, OpenGroup.custom.claim]

set_option maxRecDepth 100000 in
theorem Rule.service_of_custom : ∀ rule ∈ Rule.table,
    (Text.bytes OpenGroup.custom.start).isPrefixOf (Text.bytes rule.parameter) →
    (rule.service, rule.placement) ∈ [("nrps", .group "namesroleservice"), ("ags", .group "endpoint")] := by
  decide

/-- Custom parameters with a rule become claims of two services. They come from the parameters alone, and go into the
id token untouched. -/
theorem Rule.custom_apart {rule : Rule} (member : rule ∈ Rule.table)
    (custom : Text.isPrefix OpenGroup.custom.start rule.parameter) :
    rule.claimName ∉ Claims.hintNames ∧ rule.claimName ∉ Claims.assembledNames := by
  have apart : ∀ claim ∈ [Rule.claimRoot "nrps" ++ "namesroleservice", Rule.claimRoot "ags" ++ "endpoint"],
      claim ∉ Claims.hintNames ∧ claim ∉ Claims.assembledNames := by
    decide
  have served := Rule.service_of_custom rule member (Text.bytes_isPrefixOf custom)
  simp only [List.mem_cons, Prod.mk.injEq, List.not_mem_nil, or_false] at served
  refine apart _ ?_
  rcases served with ⟨service, placement⟩ | ⟨service, placement⟩ <;>
    simp [Rule.claimName, service, placement]

theorem Slot.exists_of_custom (name : String) : ∃ slot : Slot, slot.parameter = OpenGroup.custom.parameter name := by
  cases found : Rule.ofParameter? (OpenGroup.custom.parameter name) with
  | none => exact ⟨.free .custom name found, rfl⟩
  | some rule =>
    obtain ⟨member, same⟩ := Rule.ofParameter?_eq_some_iff.mp found
    exact ⟨.ruled rule member, same⟩

theorem Slot.apart_of_custom {slot : Slot} {name : String} (custom : slot.parameter = OpenGroup.custom.parameter name) :
    slot.place.claim ∉ Claims.hintNames ∧ slot.parameter ≠ "content_items" := by
  have start : Text.isPrefix OpenGroup.custom.start slot.parameter :=
    OpenGroup.isPrefix_start_iff.mpr ⟨name, custom.symm⟩
  constructor
  · cases slot with
    | ruled rule member => exact (Rule.custom_apart member start).1
    | free group other unmapped => exact group.claim_not_hintName
  · intro items
    rw [items] at start
    revert start
    decide

end Places

namespace Platform

variable {platform : Platform} {tool : ToolRegistration} {user : User} {nonce : String} {stamp : TokenStamp}
  {hint : Claims}

/-- The second phase goes through every member of the custom claim. -/
theorem at?_idTokenClaims_custom (name : String) :
    (platform.idTokenClaims standard tool user nonce stamp hint).at? ⟨OpenGroup.custom.claim, some name⟩ =
      (hint.at? ⟨OpenGroup.custom.claim, some name⟩).map
        (Json.replaced ((LaunchContext.ofClaims hint).withUser user)) := by
  have told : (platform.idTokenClaims standard tool user nonce stamp hint).get? OpenGroup.custom.claim =
      (hint.substituted standard user).get? OpenGroup.custom.claim :=
    get?_idTokenClaims_of_noDatum (by decide) (Claims.get?_identity_eq_none tool user (by decide) (by decide))
  rw [Claims.at?_eq_bind, told, ← Claims.at?_substituted_custom, Claims.at?_eq_bind]

/-- The second phase goes through no other claim. -/
theorem at?_idTokenClaims_of_apart (substitutor : Substitutor) {place : Place}
    (apart : place.claim ∉ Claims.assembledNames) :
    (platform.idTokenClaims substitutor tool user nonce stamp hint).at? place = hint.at? place := by
  rw [Claims.at?_eq_bind, isIdToken_idTokenClaims.other _ apart, ← Claims.at?_eq_bind]

end Platform

/-- What two phases leave of the custom values: the members of the custom claim have been through both, and the
claims that some custom parameters have a rule for only through the first. -/
structure Claims.IsStaged (custom : Parameters) (first second : LaunchContext) (claims : Claims) : Prop where
  free : ∀ name unmapped value, custom.get? name = some value →
    claims.at? (Slot.free .custom name unmapped).place =
      (Slot.free .custom name unmapped).read? (replace second (replace first value))
  ruled : ∀ rule ∈ Rule.table, ∀ name value, rule.parameter = OpenGroup.custom.parameter name →
    custom.get? name = some value → claims.at? rule.place = rule.kind.read? (replace first value)

namespace LaunchDraft

/-- What the second phase knows: the user, and what the claims of the hint tell of the surroundings. -/
def rereadContext (draft : LaunchDraft) (platform : Platform) (tool : ToolRegistration) (stamp : TokenStamp)
    (caller : User) : LaunchContext :=
  (LaunchContext.ofClaims (draft.hintClaims platform tool standard stamp)).withUser caller

variable {draft : LaunchDraft} {platform : Platform} {tool : ToolRegistration} {stamp : TokenStamp} {hint : Claims}
  {slot : Slot} {name value : String}

theorem hintParameters_of_custom (custom : slot.parameter = OpenGroup.custom.parameter name)
    (set : draft.custom.get? name = some value) :
    (draft.hintParameters platform tool standard).get? slot.parameter =
      some (replace (draft.context platform) value) := by
  rw [custom, get?_hintParameters_custom, set, Option.some_or, Option.map_some]

/-- A flat launch has the custom value in its place after one phase, in which the user is known. -/
theorem at?_flat_custom (custom : slot.parameter = OpenGroup.custom.parameter name)
    (set : draft.custom.get? name = some value) (user : User) :
    (Claims.ofParameters (draft.flatParameters platform tool standard user)).at? slot.place =
      slot.read? (replace ((draft.context platform).withUser user) value) := by
  rw [Claims.at?_ofParameters, custom, get?_flatParameters_custom, set, Option.some_or, Option.map_some,
    Option.bind_some]

/-- The hint tells of a custom value what the first phase made of it, if its claim is plain. -/
theorem at?_of_custom (slot : Slot) (alike : (draft.hintClaims platform tool standard stamp).Alike hint)
    (plain : (draft.hintClaims platform tool standard stamp).IsPlainAt slot.place.claim)
    (custom : slot.parameter = OpenGroup.custom.parameter name) (set : draft.custom.get? name = some value) :
    hint.at? slot.place = slot.read? (replace (draft.context platform) value) := by
  obtain ⟨apart, convertible⟩ := slot.apart_of_custom custom
  rw [at?_of_alike_hintClaims alike plain apart convertible, hintParameters_of_custom custom set, Option.bind_some]

section IdToken

variable (answering : Platform) (found : ToolRegistration) (caller : User) (nonce : String) (now : TokenStamp)

/-- A member of the custom claim has been through both phases. -/
theorem at?_idTokenClaims_free (alike : (draft.hintClaims platform tool standard stamp).Alike hint)
    (plain : (draft.hintClaims platform tool standard stamp).IsPlainAt OpenGroup.custom.claim)
    (unmapped : Rule.ofParameter? (OpenGroup.custom.parameter name) = none)
    (set : draft.custom.get? name = some value) :
    (answering.idTokenClaims standard found caller nonce now hint).at? (Slot.free .custom name unmapped).place =
      (Slot.free .custom name unmapped).read?
        (replace (draft.rereadContext platform tool stamp caller) (replace (draft.context platform) value)) := by
  refine (Platform.at?_idTokenClaims_custom name).trans ?_
  refine (congrArg _ (at?_of_custom (.free .custom name unmapped) alike plain rfl set)).trans ?_
  rw [ofClaims_of_alike_hintClaims alike, Slot.read?, Slot.read?]
  split
  · rfl
  · rw [Option.map_some, Json.replaced_string]
    rfl

/-- A claim of a custom parameter with a rule of its own has been through the first phase only. It is always plain. -/
theorem at?_idTokenClaims_ruled (alike : (draft.hintClaims platform tool standard stamp).Alike hint) {rule : Rule}
    (member : rule ∈ Rule.table) (custom : rule.parameter = OpenGroup.custom.parameter name)
    (set : draft.custom.get? name = some value) :
    (answering.idTokenClaims standard found caller nonce now hint).at? rule.place =
      rule.kind.read? (replace (draft.context platform) value) := by
  have start : Text.isPrefix OpenGroup.custom.start rule.parameter :=
    OpenGroup.isPrefix_start_iff.mpr ⟨name, custom.symm⟩
  have plain : (draft.hintClaims platform tool standard stamp).IsPlainAt rule.claimName :=
    isPlainAt_hintClaims_of_apart fun group => (Rule.claimName_ne_open member group).symm
  rw [Platform.at?_idTokenClaims_of_apart standard (Rule.custom_apart member start).2]
  exact at?_of_custom (.ruled rule member) alike plain custom set

theorem isStaged_idTokenClaims (alike : (draft.hintClaims platform tool standard stamp).Alike hint)
    (plain : (draft.hintClaims platform tool standard stamp).IsPlainAt OpenGroup.custom.claim) :
    Claims.IsStaged draft.custom (draft.context platform) (draft.rereadContext platform tool stamp caller)
      (answering.idTokenClaims standard found caller nonce now hint) where
  free _ unmapped _ set := at?_idTokenClaims_free answering found caller nonce now alike plain unmapped set
  ruled _ member _ _ custom set := at?_idTokenClaims_ruled answering found caller nonce now alike member custom set

end IdToken

end LaunchDraft

namespace LaunchAttempt

open LaunchDraft

variable {attempt : LaunchAttempt} {scheme : SignatureScheme} {draft : LaunchDraft} {platform : Platform}
  {tool : ToolRegistration} {substitutors : ToolRegistration → Substitutor} {stamp : TokenStamp} {user : User}
  {login : LoginInitiation} {response : AuthenticationResponse} {name value text : String}

/-- The id token for a login has the custom values of its launch as two phases leave them. -/
theorem exists_isStaged (built : draft.build scheme platform tool substitutors stamp user = .ok (.login login))
    (substitutes : substitutors tool = standard)
    (plain : (draft.hintClaims platform tool standard stamp).IsPlainAt OpenGroup.custom.claim)
    (completes : attempt.Completes login) (answered : attempt.answer = .ok response) :
    ∃ claims caller, attempt.LoggedIn caller ∧
      TokenCodec.issue attempt.scheme attempt.platform.key claims = .ok response.idToken ∧
      claims.IsStaged draft.custom (draft.context platform) (draft.rereadContext platform tool stamp caller) := by
  obtain ⟨hint, found, caller, alike, _, loggedIn, issued⟩ := exists_idToken_of_login built completes answered
  rw [substitutes] at alike
  exact ⟨_, caller, loggedIn, issued, isStaged_idTokenClaims _ _ _ _ _ alike plain⟩

/-- Whatever is set for the quiz, its learner gets a token with the custom values as two phases leave them. -/
theorem exists_quiz_staged {settings : List LaunchSetting}
    (noItems : ∀ value, .parameter "content_items" value ∉ settings)
    (plain : ∀ group : OpenGroup, ((ofSettings settings).hintClaims .beforeRotation .quiz standard
      ⟨1700000000, "j-1"⟩).IsPlainAt group.claim) :
    ∃ login response claims, (ofSettings settings).build .standard .beforeRotation .quiz (fun _ => standard)
        ⟨1700000000, "j-1"⟩ .learner = .ok (.login login) ∧
      (ofQuiz .ofQuiz login).answer = .ok response ∧ (ofQuiz .ofQuiz login).LoggedIn .learner ∧
      TokenCodec.issue .standard Platform.beforeRotation.key claims = .ok response.idToken ∧
      claims.IsStaged (ofSettings settings).custom ((ofSettings settings).context .beforeRotation)
        ((ofSettings settings).rereadContext .beforeRotation .quiz ⟨1700000000, "j-1"⟩ .learner) := by
  obtain ⟨login, built, loginHint, _, answers⟩ := exists_login_answered noItems plain
  obtain ⟨response, answered⟩ := answers .ofQuiz .learner ⟨rfl, rfl⟩
  have learner : (ofQuiz .ofQuiz login).LoggedIn .learner := by
    show Collaborators.ofQuiz.user login.loginHint = _
    rw [loginHint]
    rfl
  have completes : (ofQuiz .ofQuiz login).Completes login := ⟨rfl, fun _ => rfl⟩
  obtain ⟨claims, caller, loggedIn, issued, staged⟩ := exists_isStaged built rfl (plain .custom) completes answered
  cases loggedIn.unique learner
  exact ⟨login, response, claims, built, answered, learner, issued, staged⟩

/-- A datum of the platform that the first phase put into a custom value stands in the hint as it is. The second
phase looks at it like at a text that was set, so it reaches the tool if it names no variable for which something
else is known by then, and otherwise that other thing reaches the tool. The custom claim has to be plain, for
else it is read as one text and not as its members. -/
theorem platform_datum_in_idToken
    (built : draft.build scheme platform tool substitutors stamp user = .ok (.login login))
    (substitutes : substitutors tool = standard)
    (plain : (draft.hintClaims platform tool standard stamp).IsPlainAt OpenGroup.custom.claim)
    (completes : attempt.Completes login)
    (answered : attempt.answer = .ok response) :
    ∃ claims caller, attempt.LoggedIn caller ∧
      TokenCodec.issue attempt.scheme attempt.platform.key claims = .ok response.idToken ∧
      ∀ name value datum text, name ≠ "" → Rule.ofParameter? (OpenGroup.custom.parameter name) = none →
        draft.custom.get? name = some value → Variable.ofText? value = some (.platform datum) →
        datum.value? (draft.context platform) = some text →
        (draft.hintClaims platform tool standard stamp).at? ⟨OpenGroup.custom.claim, some name⟩ =
          some (.string text) ∧
        claims.at? ⟨OpenGroup.custom.claim, some name⟩ =
          some (.string (replace (draft.rereadContext platform tool stamp caller) text)) ∧
        (claims.at? ⟨OpenGroup.custom.claim, some name⟩ = some (.string text) ↔
          Settled (draft.rereadContext platform tool stamp caller) text) := by
  obtain ⟨claims, caller, loggedIn, issued, staged⟩ := exists_isStaged built substitutes plain completes answered
  refine ⟨claims, caller, loggedIn, issued, fun name value datum text nonempty unmapped set named known => ?_⟩
  let slot : Slot := .free .custom name unmapped
  have read : ∀ said, slot.read? said = some (.string said) := fun said => if_neg nonempty
  have first : replace (draft.context platform) value = text := by
    rw [replace_of_ofText? named, Variable.value?, known, Option.getD_some]
  have handed : (draft.hintClaims platform tool standard stamp).at? slot.place = some (.string text) := by
    rw [at?_hintClaims (slot.apart_of_custom rfl).1, hintParameters_of_custom rfl set, first, Option.bind_some, read]
  have reached : claims.at? slot.place =
      some (.string (replace (draft.rereadContext platform tool stamp caller) text)) := by
    rw [staged.free name unmapped value set, first, read]
  refine ⟨handed, reached, ?_⟩
  rw [show claims.at? ⟨OpenGroup.custom.claim, some name⟩ = _ from reached, Option.some.injEq, Json.string.injEq,
    replace_eq_self_iff]

/-- The id of its course reaches the quiz. -/
theorem course_id_in_idToken :
    ∃ login response claims, (ofSettings quizInCourse).build .standard .beforeRotation .quiz (fun _ => standard)
        ⟨1700000000, "j-1"⟩ .learner = .ok (.login login) ∧
      (ofQuiz .ofQuiz login).answer = .ok response ∧
      TokenCodec.issue .standard Platform.beforeRotation.key claims = .ok response.idToken ∧
      claims.at? ⟨OpenGroup.custom.claim, some "course"⟩ = some (.string "c-1") := by
  obtain ⟨login, built, _, _, answers⟩ :=
    exists_login_answered (quizInCourse_noExtra "content_items") quizInCourse_plain
  obtain ⟨response, answered⟩ := answers .ofQuiz .learner ⟨rfl, rfl⟩
  have completes : (ofQuiz .ofQuiz login).Completes login := ⟨rfl, fun _ => rfl⟩
  obtain ⟨claims, caller, _, issued, each⟩ :=
    platform_datum_in_idToken built rfl (quizInCourse_plain .custom) completes answered
  obtain ⟨_, _, same⟩ := each "course" "$Context.id" .courseId "c-1" (by decide)
    (quizInCourse_free "course" "$Context.id" (by simp [quizInCourse])) rfl rfl rfl
  refine ⟨login, response, claims, built, answered, issued, same.mpr fun meant named => ?_⟩
  cases named

/-- A course whose title was written like a variable of the user, and a custom value with that title. -/
def quizInTitledCourse : List LaunchSetting :=
  [.course ⟨"c-1", some "$User.id", none, []⟩, .custom "title" "$Context.title"]

/-- In place of the title of the course, the id of the user reaches the tool. -/
theorem course_title_replaced :
    ∃ login response claims,
      (ofSettings quizInTitledCourse).build .standard .beforeRotation .quiz (fun _ => standard)
        ⟨1700000000, "j-1"⟩ .learner = .ok (.login login) ∧
      (ofQuiz .ofQuiz login).answer = .ok response ∧
      TokenCodec.issue .standard Platform.beforeRotation.key claims = .ok response.idToken ∧
      PlatformDatum.value? ((ofSettings quizInTitledCourse).context .beforeRotation) .courseTitle =
        some "$User.id" ∧
      claims.at? ⟨OpenGroup.custom.claim, some "title"⟩ = some (.string "u-1") := by
  have noItems : ∀ value, .parameter "content_items" value ∉ quizInTitledCourse := by simp [quizInTitledCourse]
  have unmapped : Rule.ofParameter? (OpenGroup.custom.parameter "title") = none := by decide
  obtain ⟨login, response, claims, built, answered, _, issued, staged⟩ := exists_quiz_staged noItems
    (isPlainAt_hintClaims_ofSettings (by simp [quizInTitledCourse, Json.rawName]) (by simp [quizInTitledCourse]))
  refine ⟨login, response, claims, built, answered, issued, rfl, ?_⟩
  have first : replace ((ofSettings quizInTitledCourse).context .beforeRotation) "$Context.title" = "$User.id" := rfl
  refine (staged.free "title" unmapped "$Context.title" rfl).trans ?_
  rw [first, rereadContext, replace_person rfl]
  rfl

/-- A variable of the user that is set as a custom value stands in the hint as it is, and the second phase puts the
datum in its place where the value is a member of the custom claim, as a flat launch does. Where a custom parameter
has a rule of its own, the second phase does not get to its claim, and the tool is told the name of the variable. A
custom parameter without a name is in no place, which is seen if the custom claim is plain. -/
theorem person_datum_in_idToken
    (built : draft.build scheme platform tool substitutors stamp user = .ok (.login login))
    (substitutes : substitutors tool = standard) (completes : attempt.Completes login)
    (answered : attempt.answer = .ok response) :
    ∃ claims caller, attempt.LoggedIn caller ∧
      TokenCodec.issue attempt.scheme attempt.platform.key claims = .ok response.idToken ∧
      ∀ name value datum text, draft.custom.get? name = some value →
        Variable.ofText? value = some (.person datum) → datum.value? caller = some text →
        ∃ slot : Slot, slot.parameter = OpenGroup.custom.parameter name ∧
          (∀ version, Claims.at? (.ofParameters (draft.flatParameters platform { tool with version } standard caller))
            slot.place = slot.read? text) ∧
          (Rule.ofParameter? (OpenGroup.custom.parameter name) = none →
            (name = "" → (draft.hintClaims platform tool standard stamp).IsPlainAt OpenGroup.custom.claim) →
            claims.at? slot.place = slot.read? text) ∧
          ((Rule.ofParameter? (OpenGroup.custom.parameter name)).isSome →
            claims.at? slot.place = slot.read? value) := by
  obtain ⟨hint, found, caller, alike, _, loggedIn, issued⟩ := exists_idToken_of_login built completes answered
  rw [substitutes] at alike
  refine ⟨_, caller, loggedIn, issued, fun name value datum text set named known => ?_⟩
  obtain ⟨slot, custom⟩ := Slot.exists_of_custom name
  have pending : replace (draft.context platform) value = value := replace_person_of_anonymous named rfl
  have resolved : ∀ context : LaunchContext, replace (context.withUser caller) value = text := by
    intro context
    rw [replace_person named, known, Option.getD_some]
  refine ⟨slot, custom, fun version => ?_, fun unmapped plain => ?_, fun mapped => ?_⟩
  · rw [at?_flat_custom custom set, resolved]
  · rcases slot.of_custom_parameter custom with ⟨_, rfl⟩ | ⟨mapped, _⟩
    · have plain' : (draft.hintClaims platform tool standard stamp).IsPlainAt OpenGroup.custom.claim := by
        by_cases unnamed : name = ""
        · exact plain unnamed
        have held : (draft.hintClaims platform tool standard stamp).at? (Slot.free .custom name unmapped).place =
            some (.string value) := by
          rw [at?_hintClaims (Slot.apart_of_custom rfl).1, hintParameters_of_custom rfl set, Option.bind_some, pending]
          exact if_neg unnamed
        exact isPlainAt_custom_of_pending alike (Variable.isPlaceholder_of_ofText? named) held
      rw [at?_idTokenClaims_free _ _ _ _ _ alike plain' unmapped set, pending, rereadContext, resolved]
    · rw [unmapped] at mapped
      cases mapped
  · cases slot with
    | ruled rule member =>
      refine (at?_idTokenClaims_ruled _ _ _ _ _ alike member custom set).trans ?_
      rw [pending]
      rfl
    | free group other unmapped =>
      obtain ⟨rfl, rfl⟩ := OpenGroup.parameter_injective custom
      rw [unmapped] at mapped
      cases mapped

/-- The id of its learner reaches the quiz. -/
theorem learner_id_in_idToken :
    ∃ login response claims, (ofSettings quizInCourse).build .standard .beforeRotation .quiz (fun _ => standard)
        ⟨1700000000, "j-1"⟩ .learner = .ok (.login login) ∧
      (ofQuiz .ofQuiz login).answer = .ok response ∧
      TokenCodec.issue .standard Platform.beforeRotation.key claims = .ok response.idToken ∧
      claims.at? ⟨OpenGroup.custom.claim, some "who"⟩ = some (.string "u-1") := by
  obtain ⟨login, response, _, built, answered, learner, _, _⟩ :=
    exists_quiz_staged (quizInCourse_noExtra "content_items") quizInCourse_plain
  have completes : (ofQuiz .ofQuiz login).Completes login := ⟨rfl, fun _ => rfl⟩
  obtain ⟨claims, caller, loggedIn, issued, each⟩ := person_datum_in_idToken built rfl completes answered
  cases loggedIn.unique learner
  have unmapped : Rule.ofParameter? (OpenGroup.custom.parameter "who") = none := by decide
  obtain ⟨slot, custom, _, free, _⟩ := each "who" "$User.id" .id "u-1" rfl rfl rfl
  have same : slot = .free .custom "who" unmapped := Slot.parameter_injective custom
  rw [same] at free
  exact ⟨login, response, claims, built, answered, issued, free unmapped (absurd · (by decide))⟩

/-- A custom value for which there is a claim besides the custom one. -/
def quizWithLineItem : List LaunchSetting := [.custom "lineitem_url" "$User.id"]

/-- The name of the variable reaches the tool, and not the id of the user. -/
theorem line_item_unresolved :
    ∃ login response claims,
      (ofSettings quizWithLineItem).build .standard .beforeRotation .quiz (fun _ => standard)
        ⟨1700000000, "j-1"⟩ .learner = .ok (.login login) ∧
      (ofQuiz .ofQuiz login).answer = .ok response ∧ (ofQuiz .ofQuiz login).LoggedIn .learner ∧
      TokenCodec.issue .standard Platform.beforeRotation.key claims = .ok response.idToken ∧
      PersonDatum.value? .learner .id = some "u-1" ∧
      claims.at? ⟨Rule.claimRoot "ags" ++ "endpoint", some "lineitem"⟩ = some (.string "$User.id") := by
  have noItems : ∀ value, .parameter "content_items" value ∉ quizWithLineItem := by simp [quizWithLineItem]
  have ruled : Rule.endpoint "custom_lineitem_url" "lineitem" ∈ Rule.table := by decide
  obtain ⟨login, response, claims, built, answered, learner, issued, staged⟩ := exists_quiz_staged noItems
    (isPlainAt_hintClaims_ofSettings (by simp [quizWithLineItem, Json.rawName]) (by simp [quizWithLineItem]))
  exact ⟨login, response, claims, built, answered, learner, issued, rfl,
    staged.ruled _ ruled "lineitem_url" "$User.id" rfl rfl⟩

end LaunchAttempt

end LtiPlatform
