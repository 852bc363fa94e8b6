import LtiPlatform.Proofs.Launch.IdToken

namespace LtiPlatform

open Substitution

/-- The placeholders for personal data other than the id. -/
def Substitution.personalPlaceholders : List String :=
  ["$User.username", "$User.image", "$Person.sourcedId", "$Person.name.full", "$Person.name.given",
    "$Person.name.family", "$Person.email.primary"]

/-- The same id, and the same names and email as far as the tool is shown them. -/
structure ToolRegistration.ShowsAlike (tool : ToolRegistration) (user other : User) : Prop where
  id : user.id = other.id
  names : tool.sendName = .always → user.username = other.username ∧ user.givenName = other.givenName ∧
    user.familyName = other.familyName ∧ user.fullName = other.fullName
  email : tool.sendEmail = .always → user.email = other.email

namespace Substitution

variable {user other : User} {text : String} {pending : List (String × String)}

/-- Of the placeholders for a person, all but the one for the id are personal. -/
theorem eq_id_of_not_personal {datum : PersonDatum} (impersonal : text ∉ personalPlaceholders)
    (meant : Variable.ofText? text = some (.person datum)) : datum = .id := by
  unfold Variable.ofText? at meant
  split at meant <;> cases meant
  · rfl
  all_goals exact absurd (by decide) impersonal

theorem replace_alike (context : LaunchContext) (sameId : user.id = other.id)
    (impersonal : text ∉ personalPlaceholders) :
    replace (context.withUser user) text = replace (context.withUser other) text := by
  have resolved : resolve? (context.withUser user) text = resolve? (context.withUser other) text := by
    rw [resolve?, resolve?]
    cases meant : Variable.ofText? text with
    | none => rfl
    | some meaning =>
      cases meaning with
      | person datum =>
        cases eq_id_of_not_personal impersonal meant
        exact congrArg some sameId
      | platform datum =>
        show datum.value? (context.withUser user) = datum.value? (context.withUser other)
        simp
  rw [replace, replace, resolved]

theorem filled_alike (context : LaunchContext) (sameId : user.id = other.id)
    (impersonal : ∀ entry ∈ pending, entry.2 ∉ personalPlaceholders) :
    filled standard (context.withUser user) pending = filled standard (context.withUser other) pending := by
  rw [filled_standard, filled_standard]
  refine List.map_congr_left fun entry member => ?_
  rw [replace_alike context sameId (impersonal entry member)]

end Substitution

namespace ToolRegistration.ShowsAlike

variable {tool : ToolRegistration} {user other : User}

theorem disclosedParameters (alike : tool.ShowsAlike user other) :
    tool.disclosedParameters user = tool.disclosedParameters other := by
  have names : tool.sendName = .always → user.displayName = other.displayName := by
    intro shown
    obtain ⟨_, given, family, full⟩ := alike.names shown
    rw [User.displayName, User.displayName, given, family, full]
  rw [ToolRegistration.disclosedParameters, ToolRegistration.disclosedParameters]
  congr 1
  · split
    · next shown =>
      obtain ⟨username, given, family, _⟩ := alike.names shown
      rw [username, given, family, names shown]
    · rfl
  · split
    · next shown => rw [alike.email shown]
    · rfl

theorem identity (alike : tool.ShowsAlike user other) :
    Claims.identity tool user = Claims.identity tool other := by
  rw [Claims.identity, Claims.identity, alike.id, alike.disclosedParameters]

theorem userParameters (alike : tool.ShowsAlike user other) (picture : user.picture = other.picture)
    (sourcedId : user.sourcedId = other.sourcedId) :
    tool.userParameters user = tool.userParameters other := by
  rw [ToolRegistration.userParameters, ToolRegistration.userParameters, alike.id, picture, sourcedId,
    alike.disclosedParameters]

end ToolRegistration.ShowsAlike

/-- No text among the custom members is a personal placeholder. -/
def Claims.IsImpersonal (claims : Claims) : Prop :=
  ∀ name text, claims.at? ⟨OpenGroup.custom.claim, some name⟩ = some (.string text) →
    text ∉ personalPlaceholders

theorem Claims.isImpersonal_of_all {claims : Claims}
    (each : (claims.members OpenGroup.custom.claim).entries.all fun entry =>
      entry.2.string?.all fun text => text ∉ personalPlaceholders) : claims.IsImpersonal := by
  intro name text held
  obtain ⟨whole, found, inside⟩ := Option.bind_eq_some_iff.mp held
  obtain ⟨members, isObject, member⟩ := Option.bind_eq_some_iff.mp inside
  rw [Claims.members, found, Option.bind_some, isObject, Option.getD_some] at each
  have here := List.all_eq_true.mp each _ (Entries.mem_of_get? member)
  exact of_decide_eq_true here

theorem Claims.substituted_alike {hint : Claims} {user other : User} (impersonal : hint.IsImpersonal)
    (sameId : user.id = other.id) :
    hint.substituted standard user = hint.substituted standard other := by
  cases custom : (hint.get? OpenGroup.custom.claim).bind Json.object? with
  | none => simp only [Claims.substituted, custom]
  | some members =>
    have asked : ∀ entry ∈ customPlaceholders members, entry.2 ∉ personalPlaceholders := by
      rintro ⟨name, text⟩ pending
      obtain ⟨held, _⟩ := mem_customPlaceholders_iff.mp pending
      refine impersonal name text ?_
      obtain ⟨whole, found, isObject⟩ := Option.bind_eq_some_iff.mp custom
      simpa only [at?, found, Option.bind_some, Json.member?, isObject] using held
    simp only [Claims.substituted, custom, filled_alike _ sameId asked]

theorem Platform.idTokenClaims_alike (platform : Platform) {tool : ToolRegistration} {user other : User}
    {hint : Claims} (alike : tool.ShowsAlike user other) (impersonal : hint.IsImpersonal) (nonce : String)
    (stamp : TokenStamp) :
    platform.idTokenClaims standard tool user nonce stamp hint =
      platform.idTokenClaims standard tool other nonce stamp hint := by
  rw [idTokenClaims, idTokenClaims, Claims.substituted_alike impersonal alike.id, alike.identity]

namespace LaunchDraft

/-- The parameters of a flat launch with their placeholders. -/
def unfilledParameters (draft : LaunchDraft) (platform : Platform) (tool : ToolRegistration) (user : User) :
    Parameters :=
  (draft.commonParameters platform tool).insertAll (presentParameters (tool.userParameters user))

theorem flatParameters_alike (draft : LaunchDraft) (platform : Platform) {tool : ToolRegistration}
    {user other : User} (alike : tool.ShowsAlike user other) (picture : user.picture = other.picture)
    (sourcedId : user.sourcedId = other.sourcedId)
    (impersonal : ∀ name text, Text.isPrefix OpenGroup.custom.start name →
      (draft.unfilledParameters platform tool user).get? name = some text → text ∉ personalPlaceholders) :
    draft.flatParameters platform tool standard user = draft.flatParameters platform tool standard other := by
  have unfilled : draft.unfilledParameters platform tool user = draft.unfilledParameters platform tool other := by
    rw [unfilledParameters, unfilledParameters, alike.userParameters picture sourcedId]
  have asked : ∀ entry ∈ Parameters.customPlaceholders (draft.unfilledParameters platform tool user),
      entry.2 ∉ personalPlaceholders := by
    rintro ⟨name, text⟩ pending
    obtain ⟨member, custom⟩ := List.mem_filter.mp pending
    rw [Bool.and_eq_true] at custom
    exact impersonal name text custom.1 (OrderedMap.mem_entries_iff.mp member)
  show Parameters.substituted (draft.unfilledParameters platform tool user) standard _ =
    Parameters.substituted (draft.unfilledParameters platform tool other) standard _
  rw [← unfilled, Parameters.substituted, Parameters.substituted, filled_alike _ alike.id asked]

end LaunchDraft

/-- The same attempt at a platform where others log in. -/
def LaunchAttempt.withLogin (attempt : LaunchAttempt) (login : String → Except String UserVerdict) :
    LaunchAttempt :=
  { attempt with collaborators := { attempt.collaborators with user := login } }

/-- The learner of the quiz, with an email. -/
def User.reachableLearner : User := { User.learner with email := some "ada@campus.example" }

/-- A platform that knows the email. -/
def Collaborators.ofReachableQuiz : Collaborators :=
  { Collaborators.ofQuiz with user := fun _ => .ok ⟨true, some .reachableLearner⟩ }

namespace ToolRegistration

variable {tool : ToolRegistration} {user other : User}

/-- Without personal placeholders a launch is the same for users whom its tool is shown alike. A flat
launch shows every tool the picture and the sourced id as well. -/
theorem launches_alike (alike : tool.ShowsAlike user other) :
    (∀ (attempt : LaunchAttempt) login hint response response', attempt.hintResult = .ok hint →
      attempt.Registered tool → attempt.LoggedIn user → (attempt.withLogin login).LoggedIn other →
      attempt.collaborators.substitutor tool = standard → hint.IsImpersonal →
      attempt.answer = .ok response → (attempt.withLogin login).answer = .ok response' →
      ∃ claims, TokenCodec.issue attempt.scheme attempt.platform.key claims = .ok response.idToken ∧
        TokenCodec.issue attempt.scheme attempt.platform.key claims = .ok response'.idToken) ∧
    (user.picture = other.picture → user.sourcedId = other.sourcedId →
      ∀ (draft : LaunchDraft) scheme platform substitutors stamp url parameters, substitutors tool = standard →
        (∀ name text, Text.isPrefix OpenGroup.custom.start name →
          (draft.unfilledParameters platform tool user).get? name = some text →
          text ∉ personalPlaceholders) →
        draft.build scheme platform tool substitutors stamp user = .ok (.flat url parameters) →
        draft.build scheme platform tool substitutors stamp other = .ok (.flat url parameters)) := by
  constructor
  · intro attempt login hint response response' read registered loggedIn loggedIn' substitutes impersonal
      answered answered'
    have issued := attempt.issue_of_answer read registered loggedIn answered
    have issued' := (attempt.withLogin login).issue_of_answer read registered loggedIn' answered'
    refine ⟨_, issued, ?_⟩
    rw [substitutes, attempt.platform.idTokenClaims_alike alike impersonal, ← substitutes]
    exact issued'
  · intro picture sourcedId draft scheme platform substitutors stamp url parameters substitutes impersonal built
    rw [LaunchDraft.build] at built ⊢
    split at built
    · cases login : draft.login scheme platform tool (substitutors tool) stamp user with
      | error cause =>
        rw [login] at built
        cases built
      | ok initiation =>
        rw [login] at built
        cases built
    · next flat =>
      rw [substitutes] at built ⊢
      rw [if_neg flat, ← draft.flatParameters_alike platform alike picture sourcedId impersonal]
      exact built

open LaunchDraft LaunchAttempt in
/-- A quiz is not told the email of its learner, by either kind of launch. -/
theorem quiz_launches_alike :
    (∃ login response response' claims, (ofQuiz .ofQuiz login).answer = .ok response ∧
      (ofQuiz .ofReachableQuiz login).answer = .ok response' ∧
      TokenCodec.issue .standard Platform.beforeRotation.key claims = .ok response.idToken ∧
      TokenCodec.issue .standard Platform.beforeRotation.key claims = .ok response'.idToken) ∧
    ∃ url parameters, (ofSettings quizInCourse).build .standard .beforeRotation { quiz with version := .v11 }
        (fun _ => standard) ⟨1700000000, "j-1"⟩ .learner = .ok (.flat url parameters) ∧
      (ofSettings quizInCourse).build .standard .beforeRotation { quiz with version := .v11 }
        (fun _ => standard) ⟨1700000000, "j-1"⟩ .reachableLearner = .ok (.flat url parameters) := by
  have alike : quiz.ShowsAlike .learner .reachableLearner := ⟨rfl, fun _ => ⟨rfl, rfl, rfl, rfl⟩, nofun⟩
  have alike' : ShowsAlike { quiz with version := .v11 } .learner .reachableLearner :=
    ⟨rfl, fun _ => ⟨rfl, rfl, rfl, rfl⟩, nofun⟩
  constructor
  · obtain ⟨login, loginHint, verified, answered⟩ := exists_ofQuiz_answered
    obtain ⟨response, answer⟩ := answered .ofQuiz .learner ⟨rfl, rfl⟩
    obtain ⟨response', answer'⟩ := answered .ofReachableQuiz .reachableLearner ⟨rfl, rfl⟩
    have registered : (ofQuiz .ofQuiz login).Registered quiz :=
      ⟨"7", ⟨_, verified _, .inl get?_hintClaims_registrationId⟩, rfl⟩
    have loggedIn : (ofQuiz .ofQuiz login).LoggedIn .learner := by
      show Collaborators.ofQuiz.user login.loginHint = _
      rw [loginHint]
      rfl
    have impersonal := @Claims.isImpersonal_of_all ((ofSettings quizInCourse).hintClaims .beforeRotation quiz
      standard ⟨1700000000, "j-1"⟩) (by decide +kernel)
    obtain ⟨claims, issued, issued'⟩ := (launches_alike alike).1 (ofQuiz .ofQuiz login)
      Collaborators.ofReachableQuiz.user _ response response' (verified _) registered loggedIn rfl rfl
      impersonal answer answer'
    exact ⟨login, response, response', claims, answer, answer', issued, issued'⟩
  · have impersonal : ((ofSettings quizInCourse).unfilledParameters .beforeRotation
        { quiz with version := .v11 } .learner).entries.all fun entry => entry.2 ∉ personalPlaceholders := by
      decide +kernel
    refine ⟨_, _, rfl, (launches_alike alike').2 rfl rfl _ _ _ _ _ _ _ rfl (fun name text _ held => ?_) rfl⟩
    exact of_decide_eq_true (List.all_eq_true.mp impersonal _ (Entries.mem_of_get? held))

end ToolRegistration

end LtiPlatform
