import LtiPlatform.Proofs.Launch.Answering
import LtiPlatform.Proofs.Launch.Hint
import LtiPlatform.Proofs.Token.Rereading

namespace LtiPlatform

open AuthenticationRequest (text)

/-- A request that goes on with a login at one of the tool's addresses. -/
structure AuthenticationRequest.Continues (request : AuthenticationRequest) (login : LoginInitiation)
    (tool : ToolRegistration) : Prop where
  scope : text request.scope = "openid"
  responseType : text request.responseType = "id_token"
  responseMode : text request.responseMode = "form_post"
  prompt : text request.prompt = "none"
  nonce : text request.nonce ≠ ""
  clientId : text request.clientId = login.clientId
  loginHint : text request.loginHint = login.loginHint
  messageHint : text request.messageHint = login.messageHint
  redirectUri : text request.redirectUri ∈ tool.redirectUris

/-- The key is the first one under its id, and what is signed with it is let in. -/
structure Platform.Trusts (platform : Platform) (key : SigningKey) : Prop where
  found : platform.keys.find? key.id = some key.publicKey
  allowed : key.algorithm ∈ platform.codec.algorithms

/-- The repository knows the tool, and the login gives a user for the hint. -/
structure Collaborators.Know (collaborators : Collaborators) (tool : ToolRegistration)
    (loginHint : String) (user : User) : Prop where
  registered : collaborators.registration tool.id = .ok (some tool)
  loggedIn : collaborators.user loginHint = .ok ⟨true, some user⟩

namespace LaunchDraft

variable {draft : LaunchDraft} {scheme : SignatureScheme} {platform : Platform} {tool : ToolRegistration}
  {substitutors : ToolRegistration → Substitutor} {stamp : TokenStamp} {user : User}
  {login : LoginInitiation}

/-- What a login says, and what its hint is. -/
theorem login_of_build
    (built : draft.build scheme platform tool substitutors stamp user = .ok (.login login)) :
    TokenCodec.issue scheme platform.key (draft.hintClaims platform tool (substitutors tool) stamp) =
        .ok login.messageHint ∧
      login.clientId = tool.clientId ∧ login.loginHint = user.id ∧ login.issuer = platform.issuer := by
  rw [build] at built
  split at built
  · rw [LaunchDraft.login] at built
    split at built
    · cases built
    · split at built
      · cases built
      · next issued =>
        cases built
        exact ⟨issued, rfl, rfl, rfl⟩
  · cases built

/-- A tool with claims gets no flat launch. -/
theorem exists_login_of_build {request : LaunchRequest} (claims : tool.version.usesClaims)
    (built : draft.build scheme platform tool substitutors stamp user = .ok request) :
    ∃ login, request = .login login := by
  rw [build, if_pos claims] at built
  cases began : draft.login scheme platform tool (substitutors tool) stamp user with
  | error cause =>
    rw [began] at built
    cases built
  | ok login =>
    rw [began] at built
    cases built
    exact ⟨login, rfl⟩

theorem build_of_issue (claims : tool.version.usesClaims) {url hint : String}
    (address : tool.initiateLoginUrl = some url)
    (issued : TokenCodec.issue scheme platform.key
      (draft.hintClaims platform tool (substitutors tool) stamp) = .ok hint) :
    draft.build scheme platform tool substitutors stamp user =
      .ok (.login ⟨url, platform.issuer, user.id, draft.target tool, hint, tool.deploymentId, tool.clientId⟩) := by
  rw [build, if_pos claims, LaunchDraft.login]
  simp only [address, issued]
  rfl

end LaunchDraft

namespace TokenCodec

theorem ne_empty_of_verify {scheme : SignatureScheme} {codec : TokenCodec} {keys : KeySet} {now : Nat}
    {token : String} {claims : Claims} (verified : verify scheme codec keys now token = .ok claims) :
    token ≠ "" := by
  rintro rfl
  cases verified

theorem ne_empty_of_issue {scheme : SignatureScheme} {key : SigningKey} {claims : Claims} {token : String}
    (issued : issue scheme key claims = .ok token) : token ≠ "" := by
  rintro rfl
  obtain ⟨_, _, cut, _⟩ := segments_of_issue issued
  cases cut

end TokenCodec

namespace LaunchAttempt

variable {attempt : LaunchAttempt} {login : LoginInitiation} {tool : ToolRegistration} {user : User}
  {hint : Claims}

/-- A request that goes on with a login gets as far as its hint. -/
theorem reaches_hintVerified_of_continues (continues : attempt.request.Continues login tool)
    (present : login.messageHint ≠ "") : attempt.Reaches .hintVerified := by
  intro check before
  cases check with
  | scope => exact continues.scope
  | responseType => exact continues.responseType
  | responseMode => exact continues.responseMode
  | prompt => exact continues.prompt
  | nonce => exact continues.nonce
  | hintPresent => exact fun absent => present (continues.messageHint.symm.trans absent)
  | _ => exact absurd before (by decide)

theorem hintResult_of_continues (continues : attempt.request.Continues login tool) :
    attempt.hintResult = TokenCodec.verify attempt.scheme attempt.platform.codec attempt.platform.keys
      attempt.stamp.time login.messageHint := by
  rw [hintResult, continues.messageHint]

/-- Such a request is refused if its hint is, whoever could have been asked. -/
theorem answer_of_refused_hint (continues : attempt.request.Continues login tool) (present : login.messageHint ≠ "")
    {reason : TokenError} (refused : attempt.hintResult = .error reason) :
    attempt.answer = .error ⟨.staticallyValidated, .signature reason⟩ := by
  have fails : ¬ attempt.Passes .hintVerified := by
    rintro ⟨claims, passed⟩
    cases refused.symm.trans passed
  obtain ⟨cause, ⟨reason', refused', rfl⟩, answered⟩ :=
    refused_of_first_failure (reaches_hintVerified_of_continues continues present) fails
  cases refused.symm.trans refused'
  exact answered

theorem loggedIn_of_continues (continues : attempt.request.Continues login tool)
    (known : attempt.collaborators.Know tool login.loginHint user) : attempt.LoggedIn user := by
  rw [LoggedIn, userResult, continues.loginHint]
  exact known.loggedIn

theorem registered_of_named (known : attempt.collaborators.Know tool login.loginHint user)
    (verified : attempt.hintResult = .ok hint)
    (named : hint.get? "tool_registration_id" = some (.string tool.id)) : attempt.Registered tool :=
  ⟨tool.id, ⟨hint, verified, .inl named⟩, known.registered⟩

/-- A request that goes on with a login gets as far as signing, if its hint is one that this platform
accepts for the tool. -/
theorem reaches_signing_of_continues (continues : attempt.request.Continues login tool)
    (client : login.clientId = tool.clientId)
    (known : attempt.collaborators.Know tool login.loginHint user)
    (verified : attempt.hintResult = .ok hint)
    (issuer : hint.get? "iss" = some (.string attempt.platform.issuer))
    (named : hint.get? "tool_registration_id" = some (.string tool.id)) :
    attempt.Reaches .signing := by
  have names : attempt.Names tool.id := ⟨hint, verified, .inl named⟩
  have registered := registered_of_named known verified named
  have present : login.messageHint ≠ "" := continues.messageHint ▸ TokenCodec.ne_empty_of_verify verified
  have early := reaches_hintVerified_of_continues continues present
  intro check before
  cases check with
  | scope | responseType | responseMode | prompt | nonce | hintPresent => exact early _ (by decide)
  | hintVerified => exact ⟨hint, verified⟩
  | hintIssuer => exact ⟨hint, verified, issuer⟩
  | hintTool => exact ⟨tool.id, names⟩
  | registration => exact ⟨tool, registered⟩
  | clientId => exact ⟨tool, registered, continues.clientId.trans client⟩
  | redirectUri => exact ⟨tool, registered, continues.redirectUri⟩
  | user => exact ⟨user, loggedIn_of_continues continues known⟩
  | signing => exact absurd before (Nat.lt_irrefl _)

/-- Such a request is answered with the signed claims, if they can be signed. -/
theorem answer_of_continues (attempt : LaunchAttempt) (continues : attempt.request.Continues login tool)
    (client : login.clientId = tool.clientId)
    (known : attempt.collaborators.Know tool login.loginHint user)
    (verified : attempt.hintResult = .ok hint)
    (issuer : hint.get? "iss" = some (.string attempt.platform.issuer))
    (named : hint.get? "tool_registration_id" = some (.string tool.id)) {token : String}
    (issued : TokenCodec.issue attempt.scheme attempt.platform.key
      (attempt.platform.idTokenClaims (attempt.collaborators.substitutor tool) tool user
        (text attempt.request.nonce) attempt.stamp hint) = .ok token) :
    attempt.answer = .ok ⟨text attempt.request.redirectUri, token, attempt.request.state⟩ := by
  have reaches := reaches_signing_of_continues continues client known verified issuer named
  have registered := registered_of_named known verified named
  have signs : attempt.Signs (.ok token) :=
    ⟨hint, tool, user, verified, registered, loggedIn_of_continues continues known, issued⟩
  obtain ⟨result, signs', answered⟩ := answer_of_reaches_signing reaches
  cases signs.unique signs'
  exact answered

end LaunchAttempt

/-- What a platform signs for a plain hint is good under its own key set until it expires. -/
theorem Platform.verify_idToken {platform : Platform} {scheme : SignatureScheme} {substitutor : Substitutor}
    {tool : ToolRegistration} {user : User} {nonce : String} {stamp : TokenStamp} {hint : Claims} {later : Nat}
    {token : String} (made : platform.key.IsMade) (accepts : scheme.Accepts platform.key)
    (trusts : platform.Trusts platform.key) (portable : hint.Portable) (plain : ∀ name, hint.IsPlainAt name)
    (clock : stamp.time ≤ TokenStamp.latest) (started : platform.codec.leeway ≤ later)
    (inTime : later ≤ stamp.expiry platform.idTokenLifetime + platform.codec.leeway)
    (issued : TokenCodec.issue scheme platform.key
      (platform.idTokenClaims substitutor tool user nonce stamp hint) = .ok token) :
    TokenCodec.verify scheme platform.codec platform.keys later token =
      .ok (platform.idTokenClaims substitutor tool user nonce stamp hint) := by
  have portable' : (platform.idTokenClaims substitutor tool user nonce stamp hint).Portable :=
    portable_idTokenClaims portable clock user nonce
  rw [TokenCodec.verify_issue made accepts trusts.allowed trusts.found
    (portable'.readsBack fun name => isPlainAt_idTokenClaims (plain name) user nonce) portable'.legible issued,
    idTokenClaims, Claims.checkExpiry_stamped started inTime]
  rfl

namespace LaunchDraft

variable {scheme : SignatureScheme} {issuing answering : Platform} {settings : List LaunchSetting}
  {tool : ToolRegistration} {substitutors : ToolRegistration → Substitutor} {stamp now : TokenStamp}
  {user caller : User} {login : LoginInitiation} {collaborators : Collaborators}
  {request : AuthenticationRequest}

/-- A login with a claim in its hint that is taken for a text, though not one that can be read, is completed by
nobody, whoever logs in and whatever the time is. -/
theorem login_refused (made : issuing.key.IsMade) (accepts : scheme.Accepts issuing.key)
    (trusts : answering.Trusts issuing.key)
    (built : (ofSettings settings).build scheme issuing tool substitutors stamp user = .ok (.login login))
    (continues : request.Continues login tool) {name : String}
    (unreadable : ((ofSettings settings).hintClaims issuing tool (substitutors tool) stamp).IsUnreadableAt name) :
    answering.authenticate scheme collaborators now request =
      .error ⟨.staticallyValidated, .signature (.verification .payloadNotJson)⟩ := by
  obtain ⟨issued, _⟩ := login_of_build built
  refine @LaunchAttempt.answer_of_refused_hint ⟨scheme, answering, collaborators, now, request⟩ _ _ continues
    (TokenCodec.ne_empty_of_issue issued) _ ?_
  rw [LaunchAttempt.hintResult_of_continues continues]
  exact TokenCodec.verify_issue_of_unreadable made accepts trusts.allowed trusts.found issued unreadable

section Reading

variable {draft : LaunchDraft} {substitutor : Substitutor} {hint : String}

/-- Until it expires, a hint that can be read is good, and what is read in it is what it says, but for open groups that
are taken for a text. -/
theorem exists_verify_hint (made : issuing.key.IsMade) (accepts : scheme.Accepts issuing.key)
    (trusts : answering.Trusts issuing.key)
    (portable : (draft.hintClaims issuing tool substitutor stamp).Portable)
    (readable : ∀ group : OpenGroup, ¬ (draft.hintClaims issuing tool substitutor stamp).IsUnreadableAt group.claim)
    (started : answering.codec.leeway ≤ now.time)
    (inTime : now.time ≤ stamp.expiry issuing.hintLifetime + answering.codec.leeway)
    (issued : TokenCodec.issue scheme issuing.key (draft.hintClaims issuing tool substitutor stamp) = .ok hint) :
    ∃ read, TokenCodec.verify scheme answering.codec answering.keys now.time hint = .ok read ∧
      ∀ name, (draft.hintClaims issuing tool substitutor stamp).IsPlainAt name →
        read.get? name = (draft.hintClaims issuing tool substitutor stamp).get? name := by
  have readable' : ∀ name, ¬ (draft.hintClaims issuing tool substitutor stamp).IsUnreadableAt name := by
    intro name unreadable
    obtain ⟨group, _, rfl, _⟩ := isRaw_of_not_isPlainAt unreadable.not_isPlainAt
    exact readable group unreadable
  obtain ⟨read, parsed, same⟩ := portable.exists_parsed
    (fun _ unplain => (isRaw_of_not_isPlainAt unplain).elim fun _ ⟨members, _, held⟩ => ⟨members.entries, held⟩)
    readable'
  refine ⟨read, ?_, same⟩
  have expiry := same "exp" (isPlainAt_hintClaims_of_own (by decide))
  rw [TokenCodec.verify_issue_of_parsed made accepts trusts.allowed trusts.found parsed portable.legible issued,
    TokenCodec.checkExpiry_congr expiry, hintClaims, Claims.checkExpiry_stamped started inTime]
  rfl

/-- A hint in which nothing is taken for a text says, until it expires, what it was made to say. -/
theorem verify_hint_of_plain (made : issuing.key.IsMade) (accepts : scheme.Accepts issuing.key)
    (trusts : answering.Trusts issuing.key)
    (portable : (draft.hintClaims issuing tool substitutor stamp).Portable)
    (plain : ∀ group : OpenGroup, (draft.hintClaims issuing tool substitutor stamp).IsPlainAt group.claim)
    (started : answering.codec.leeway ≤ now.time)
    (inTime : now.time ≤ stamp.expiry issuing.hintLifetime + answering.codec.leeway)
    (issued : TokenCodec.issue scheme issuing.key (draft.hintClaims issuing tool substitutor stamp) = .ok hint) :
    TokenCodec.verify scheme answering.codec answering.keys now.time hint =
      .ok (draft.hintClaims issuing tool substitutor stamp) := by
  rw [TokenCodec.verify_issue made accepts trusts.allowed trusts.found
    (portable.readsBack (isPlainAt_hintClaims_of_groups plain)) portable.legible issued, hintClaims,
    Claims.checkExpiry_stamped started inTime]
  rfl

end Reading

/-- Until its hint expires, a login that was begun is completed by every platform of the same issuer that trusts the key
behind the hint, whoever logs in, unless an open group of the hint is taken for a text that cannot be read. The clock
has to be as far as the leeway. What that platform signs is good under its own key set until it expires in turn, as long
as nothing was taken for a text. -/
theorem login_completes (sameIssuer : answering.issuer = issuing.issuer)
    (made : issuing.key.IsMade) (accepts : scheme.Accepts issuing.key)
    (trusts : answering.Trusts issuing.key)
    (noItems : ∀ value, .parameter "content_items" value ∉ settings)
    (built : (ofSettings settings).build scheme issuing tool substitutors stamp user = .ok (.login login))
    (clock : stamp.time ≤ TokenStamp.latest)
    (continues : request.Continues login tool)
    (known : collaborators.Know tool login.loginHint caller)
    (started : answering.codec.leeway ≤ now.time)
    (inTime : now.time ≤ stamp.expiry issuing.hintLifetime + answering.codec.leeway)
    (canSign : scheme.CanSign answering.key) :
    ((∃ response, answering.authenticate scheme collaborators now request = .ok response) ↔
      ∀ group : OpenGroup,
        ¬ ((ofSettings settings).hintClaims issuing tool (substitutors tool) stamp).IsUnreadableAt group.claim) ∧
    ∀ response, answering.authenticate scheme collaborators now request = .ok response →
      response.redirectUri = text request.redirectUri ∧ response.state = request.state ∧
      ((∀ group : OpenGroup,
          ((ofSettings settings).hintClaims issuing tool (substitutors tool) stamp).IsPlainAt group.claim) →
        answering.key.IsMade → scheme.Accepts answering.key → answering.Trusts answering.key →
        now.time ≤ TokenStamp.latest →
        ∀ later ≤ now.expiry answering.idTokenLifetime + answering.codec.leeway, answering.codec.leeway ≤ later →
          TokenCodec.verify scheme answering.codec answering.keys later response.idToken =
            .ok (answering.idTokenClaims (collaborators.substitutor tool) tool caller
              (text request.nonce) now
              ((ofSettings settings).hintClaims issuing tool (substitutors tool) stamp))) := by
  obtain ⟨issued, client, _, _⟩ := login_of_build built
  have portable : ((ofSettings settings).hintClaims issuing tool (substitutors tool) stamp).Portable :=
    portable_hintClaims (extra_get?_eq_none noItems) clock
  let attempt : LaunchAttempt := ⟨scheme, answering, collaborators, now, request⟩
  have taken := @LaunchAttempt.hintResult_of_continues attempt login tool continues
  refine ⟨⟨?_, fun readable => ?_⟩, fun response answered => ?_⟩
  · rintro ⟨response, answered⟩ group unreadable
    cases answered.symm.trans (login_refused made accepts trusts built continues unreadable)
  · obtain ⟨read, verified, same⟩ := exists_verify_hint made accepts trusts portable readable started inTime issued
    have named := (same Claims.registrationId (isPlainAt_hintClaims_of_own (by decide))).trans
      get?_hintClaims_registrationId
    have issuer := (same "iss" (isPlainAt_hintClaims_of_own (by decide))).trans get?_hintClaims_issuer
    rw [← sameIssuer] at issuer
    obtain ⟨token, signed⟩ := TokenCodec.exists_issue_of_canSign canSign
      (answering.idTokenClaims (collaborators.substitutor tool) tool caller (text request.nonce) now read)
    exact ⟨_, attempt.answer_of_continues continues client known (taken.trans verified) issuer named signed⟩
  · replace answered : attempt.answer = .ok response := answered
    obtain ⟨posted, state, _⟩ := LaunchAttempt.parts_of_answer answered
    refine ⟨posted, state, fun plain made' accepts' trusts' clock' later inTime' started' => ?_⟩
    have verified := taken.trans (verify_hint_of_plain made accepts trusts portable plain started inTime issued)
    have signed := attempt.issue_of_answer verified
      (LaunchAttempt.registered_of_named known verified get?_hintClaims_registrationId)
      (LaunchAttempt.loggedIn_of_continues continues known) answered
    exact Platform.verify_idToken made' accepts' trusts' portable (isPlainAt_hintClaims_of_groups plain) clock' started'
      inTime' signed

end LaunchDraft

section Rotation

open LaunchDraft

def Platform.beforeRotation : Platform :=
  .ofKey "https://lms.example" (.ofRsa "2023" .sample)

/-- The same platform with a new key, which still trusts the old one. -/
def Platform.afterRotation : Platform :=
  { Platform.ofKey "https://lms.example" (.ofRsa "2024" .sample) with
    keys := .ofSigningKeys [.ofRsa "2024" .sample, .ofRsa "2023" .sample] }

def ToolRegistration.quiz : ToolRegistration where
  id := "7"
  name := "Quiz"
  clientId := "quiz-client"
  redirectLines := "https://quiz.example/launch\nhttps://quiz.example/select\n"
  deploymentId := "1"
  version := .v13
  sendName := .always
  sendEmail := .never
  initiateLoginUrl := some "https://quiz.example/login"
  targetLinkUri := "https://quiz.example/launch"

def User.learner : User where
  id := "u-1"
  givenName := some "Ada"
  familyName := some "Smith"

def LaunchDraft.quizInCourse : List LaunchSetting :=
  [.roles ["Learner"], .course ⟨"c-1", some "Algebra", none, ["CourseSection"]⟩,
    .resourceLink ⟨"l-1", none, none⟩, .custom "course" "$Context.id", .custom "who" "$User.id"]

theorem LaunchDraft.quizInCourse_noExtra (name value : String) : .parameter name value ∉ quizInCourse := by
  simp [quizInCourse]

theorem LaunchDraft.quizInCourse_free (name value : String) (set : .custom name value ∈ quizInCourse) :
    Rule.ofParameter? (OpenGroup.custom.parameter name) = none := by
  have unmapped : Rule.ofParameter? (OpenGroup.custom.parameter "course") = none ∧
      Rule.ofParameter? (OpenGroup.custom.parameter "who") = none := by
    decide
  simp only [quizInCourse, List.mem_cons, reduceCtorEq, LaunchSetting.custom.injEq, List.not_mem_nil,
    false_or, or_false] at set
  rcases set with ⟨rfl, _⟩ | ⟨rfl, _⟩
  · exact unmapped.1
  · exact unmapped.2

theorem LaunchDraft.isPlainAt_hintClaims_ofSettings {settings : List LaunchSetting} {platform : Platform}
    {tool : ToolRegistration} {substitutor : Substitutor} {stamp : TokenStamp}
    (custom : ∀ value, .custom Json.rawName value ∉ settings)
    (parameter : ∀ (group : OpenGroup) value, .parameter (group.parameter Json.rawName) value ∉ settings)
    (group : OpenGroup) : ((ofSettings settings).hintClaims platform tool substitutor stamp).IsPlainAt group.claim := by
  refine isPlainAt_hintClaims fun named _ => ?_
  exact get?_hintParameters_eq_none _ _ _ _ (fun _ => custom_get?_eq_none custom) (extra_get?_eq_none (parameter named))

theorem LaunchDraft.quizInCourse_plain {platform : Platform} {tool : ToolRegistration} {substitutor : Substitutor}
    {stamp : TokenStamp} (group : OpenGroup) :
    ((ofSettings quizInCourse).hintClaims platform tool substitutor stamp).IsPlainAt group.claim :=
  isPlainAt_hintClaims_ofSettings (fun value => by simp [quizInCourse, Json.rawName])
    (fun group => quizInCourse_noExtra (group.parameter Json.rawName)) group

theorem LaunchDraft.quizInCourse_data (datum : PlatformDatum) (value : String)
    (known : datum.value? ((ofSettings quizInCourse).context .beforeRotation) = some value) :
    ¬ Substitution.isPlaceholder value := by
  have plain : ∀ datum ∈ [PlatformDatum.courseId, .courseTitle, .courseLabel, .courseTypes, .linkId,
      .linkTitle, .linkDescription, .platformName],
      (datum.value? ((ofSettings quizInCourse).context .beforeRotation)).all fun value =>
        !Substitution.isPlaceholder value := by
    decide
  have checked := plain datum (by cases datum <;> decide)
  rw [known] at checked
  simpa using checked

def Collaborators.ofQuiz : Collaborators where
  registration id := .ok (if id = "7" then some .quiz else none)
  user loginHint := .ok ⟨loginHint = "u-1", some .learner⟩
  substitutor _ := Substitution.standard

def AuthenticationRequest.ofLogin (login : LoginInitiation) : AuthenticationRequest where
  scope := some "openid"
  responseType := some "id_token"
  responseMode := some "form_post"
  clientId := some login.clientId
  redirectUri := some "https://quiz.example/select"
  loginHint := some login.loginHint
  nonce := some "n-1"
  state := some "s-1"
  prompt := some "none"
  messageHint := some login.messageHint

theorem AuthenticationRequest.ofLogin_continues (login : LoginInitiation) :
    (ofLogin login).Continues login .quiz where
  scope := rfl
  responseType := rfl
  responseMode := rfl
  prompt := rfl
  nonce := by simp [text, ofLogin]
  clientId := rfl
  loginHint := rfl
  messageHint := rfl
  redirectUri := show "https://quiz.example/select" ∈ ToolRegistration.quiz.redirectUris by
    decide

/-- The login for the quiz, gone on with a hundred seconds after it was begun. -/
def LaunchAttempt.ofQuiz (collaborators : Collaborators) (login : LoginInitiation) : LaunchAttempt where
  scheme := .standard
  platform := .beforeRotation
  collaborators := collaborators
  stamp := ⟨1700000100, "j-2"⟩
  request := .ofLogin login

theorem Platform.canSign_beforeRotation : SignatureScheme.standard.CanSign Platform.beforeRotation.key :=
  SignatureScheme.standard_canSign_ofRsa Rsa.PrivateKey.sample_isSound.usable "2023"

theorem Platform.accepts_beforeRotation : SignatureScheme.standard.Accepts Platform.beforeRotation.key :=
  SignatureScheme.standard_accepts_ofRsa Rsa.PrivateKey.sample_isSound "2023"

theorem Platform.trusts_beforeRotation : Platform.beforeRotation.Trusts Platform.beforeRotation.key :=
  ⟨rfl, by decide⟩

/-- A hundred seconds after it was signed, the platform takes a hint for the quiz for what it says. -/
theorem Platform.verify_quizHint {settings : List LaunchSetting}
    (noItems : ∀ value, .parameter "content_items" value ∉ settings)
    (plain : ∀ group : OpenGroup, ((ofSettings settings).hintClaims .beforeRotation .quiz Substitution.standard
      ⟨1700000000, "j-1"⟩).IsPlainAt group.claim) {hint : String}
    (issued : TokenCodec.issue .standard Platform.beforeRotation.key ((ofSettings settings).hintClaims .beforeRotation
      .quiz Substitution.standard ⟨1700000000, "j-1"⟩) = .ok hint) :
    TokenCodec.verify .standard Platform.beforeRotation.codec Platform.beforeRotation.keys 1700000100 hint =
      .ok ((ofSettings settings).hintClaims .beforeRotation .quiz Substitution.standard ⟨1700000000, "j-1"⟩) :=
  @verify_hint_of_plain .standard .beforeRotation .beforeRotation .quiz ⟨1700000000, "j-1"⟩ ⟨1700000100, "j-2"⟩
    (ofSettings settings) Substitution.standard hint (.rsa "2023" .sample) Platform.accepts_beforeRotation
    Platform.trusts_beforeRotation (portable_hintClaims (extra_get?_eq_none noItems) (by decide)) plain (by decide)
    (by decide) issued

/-- Whatever is set for the quiz, the login is begun, and it is answered for whoever logs in with the
learner's id. -/
theorem LaunchAttempt.exists_login_answered {settings : List LaunchSetting}
    (noItems : ∀ value, .parameter "content_items" value ∉ settings)
    (plain : ∀ group : OpenGroup, ((ofSettings settings).hintClaims .beforeRotation .quiz Substitution.standard
      ⟨1700000000, "j-1"⟩).IsPlainAt group.claim) :
    ∃ login, (ofSettings settings).build .standard .beforeRotation .quiz (fun _ => Substitution.standard)
        ⟨1700000000, "j-1"⟩ .learner = .ok (.login login) ∧
      login.loginHint = "u-1" ∧
      (∀ collaborators, (ofQuiz collaborators login).hintResult =
        .ok ((ofSettings settings).hintClaims .beforeRotation .quiz Substitution.standard
          ⟨1700000000, "j-1"⟩)) ∧
      ∀ collaborators user, collaborators.Know .quiz "u-1" user →
        ∃ response, (ofQuiz collaborators login).answer = .ok response := by
  have canSign := Platform.canSign_beforeRotation
  obtain ⟨token, issued⟩ := TokenCodec.exists_issue_of_canSign canSign
    ((ofSettings settings).hintClaims .beforeRotation .quiz Substitution.standard ⟨1700000000, "j-1"⟩)
  have built := @build_of_issue (ofSettings settings) .standard .beforeRotation .quiz
    (fun _ => Substitution.standard) ⟨1700000000, "j-1"⟩ .learner rfl _ token rfl issued
  have verified := Platform.verify_quizHint noItems plain issued
  let login : LoginInitiation :=
    ⟨"https://quiz.example/login", "https://lms.example", "u-1", (ofSettings settings).target .quiz, token, "1",
      "quiz-client"⟩
  refine ⟨login, built, rfl, fun _ => verified, fun collaborators user known => ?_⟩
  obtain ⟨signed, isSigned⟩ := TokenCodec.exists_issue_of_canSign canSign
    (Platform.beforeRotation.idTokenClaims (collaborators.substitutor .quiz) .quiz user "n-1"
      ⟨1700000100, "j-2"⟩ ((ofSettings settings).hintClaims .beforeRotation .quiz
        Substitution.standard ⟨1700000000, "j-1"⟩))
  exact ⟨_, answer_of_continues (ofQuiz collaborators login) (AuthenticationRequest.ofLogin_continues login) rfl
    known verified get?_hintClaims_issuer get?_hintClaims_registrationId isSigned⟩

theorem LaunchAttempt.exists_ofQuiz_answered :
    ∃ login, login.loginHint = "u-1" ∧
      (∀ collaborators, (ofQuiz collaborators login).hintResult =
        .ok ((ofSettings quizInCourse).hintClaims .beforeRotation .quiz Substitution.standard
          ⟨1700000000, "j-1"⟩)) ∧
      ∀ collaborators user, collaborators.Know .quiz "u-1" user →
        ∃ response, (ofQuiz collaborators login).answer = .ok response := by
  obtain ⟨login, _, answered⟩ := exists_login_answered (quizInCourse_noExtra "content_items") quizInCourse_plain
  exact ⟨login, answered⟩

/-- A hint from before a change of keys, completed in the last second that its leeway allows. -/
theorem LaunchDraft.login_completes_after_rotation :
    ∃ login response, (ofSettings quizInCourse).build .standard .beforeRotation .quiz
        (fun _ => Substitution.standard) ⟨1700000000, "j-1"⟩ .learner = .ok (.login login) ∧
      Platform.afterRotation.authenticate .standard .ofQuiz ⟨1700000660, "j-2"⟩ (.ofLogin login) =
        .ok response ∧
      response.redirectUri = "https://quiz.example/select" ∧ response.state = some "s-1" ∧
      TokenCodec.verify .standard Platform.afterRotation.codec Platform.afterRotation.keys 1700000780
          response.idToken =
        .ok (Platform.afterRotation.idTokenClaims Substitution.standard .quiz .learner "n-1"
          ⟨1700000660, "j-2"⟩ ((ofSettings quizInCourse).hintClaims .beforeRotation .quiz
            Substitution.standard ⟨1700000000, "j-1"⟩)) := by
  have sound := Rsa.PrivateKey.sample_isSound
  have made : Platform.beforeRotation.key.IsMade := .rsa "2023" .sample
  have made' : Platform.afterRotation.key.IsMade := .rsa "2024" .sample
  have canSign' : SignatureScheme.standard.CanSign Platform.afterRotation.key :=
    SignatureScheme.standard_canSign_ofRsa sound.usable "2024"
  have accepts' : SignatureScheme.standard.Accepts Platform.afterRotation.key :=
    SignatureScheme.standard_accepts_ofRsa sound "2024"
  have trusts : Platform.afterRotation.Trusts Platform.beforeRotation.key := ⟨rfl, by decide⟩
  have trusts' : Platform.afterRotation.Trusts Platform.afterRotation.key := ⟨rfl, by decide⟩
  obtain ⟨hint, issued⟩ := TokenCodec.exists_issue_of_canSign Platform.canSign_beforeRotation
    ((ofSettings quizInCourse).hintClaims .beforeRotation .quiz Substitution.standard
      ⟨1700000000, "j-1"⟩)
  have built := @build_of_issue (ofSettings quizInCourse) .standard .beforeRotation .quiz
    (fun _ => Substitution.standard) ⟨1700000000, "j-1"⟩ .learner rfl _ hint rfl issued
  have sameIssuer : Platform.afterRotation.issuer = Platform.beforeRotation.issuer := rfl
  have noItems := quizInCourse_noExtra "content_items"
  have known : Collaborators.ofQuiz.Know .quiz "u-1" .learner := ⟨rfl, rfl⟩
  have inTime : (1700000660 : Nat) ≤ TokenStamp.expiry ⟨1700000000, "j-1"⟩
      Platform.beforeRotation.hintLifetime + Platform.afterRotation.codec.leeway := by decide
  obtain ⟨completes, told⟩ :=
    @login_completes _ _ _ _ _ _ _ ⟨1700000660, "j-2"⟩ _ _ _ _ _ sameIssuer made Platform.accepts_beforeRotation
      trusts noItems built (by decide) (AuthenticationRequest.ofLogin_continues _) known (by decide) inTime canSign'
  obtain ⟨response, answered⟩ := completes.mpr fun group unreadable =>
    unreadable.not_isPlainAt (quizInCourse_plain group)
  obtain ⟨redirectUri, state, verified⟩ := told response answered
  exact ⟨_, response, built, answered, redirectUri, state,
    verified quizInCourse_plain made' accepts' trusts' (by decide) _ (by decide) (by decide)⟩

/-- A custom parameter whose name makes its claim one for a text, with a value that is none. -/
def LaunchDraft.quizWithText : List LaunchSetting := [.custom Json.rawName "x"]

theorem LaunchDraft.quizWithText_unreadable : ((ofSettings quizWithText).hintClaims .beforeRotation .quiz
    Substitution.standard ⟨1700000000, "j-1"⟩).IsUnreadableAt OpenGroup.custom.claim :=
  Claims.isUnreadableAt_of_text rfl rfl

/-- Such a login is begun, and gone on with at once at the same platform with an address of the tool and the same
user; but it is not completed. -/
theorem LaunchDraft.quizWithText_refused :
    ∃ login, (ofSettings quizWithText).build .standard .beforeRotation .quiz (fun _ => Substitution.standard)
        ⟨1700000000, "j-1"⟩ .learner = .ok (.login login) ∧
      (AuthenticationRequest.ofLogin login).Continues login .quiz ∧
      Collaborators.ofQuiz.Know .quiz login.loginHint .learner ∧
      Platform.beforeRotation.Trusts Platform.beforeRotation.key ∧
      SignatureScheme.standard.CanSign Platform.beforeRotation.key ∧
      Platform.beforeRotation.authenticate .standard .ofQuiz ⟨1700000000, "j-2"⟩ (.ofLogin login) =
        .error ⟨.staticallyValidated, .signature (.verification .payloadNotJson)⟩ := by
  obtain ⟨hint, issued⟩ := TokenCodec.exists_issue_of_canSign Platform.canSign_beforeRotation
    ((ofSettings quizWithText).hintClaims .beforeRotation .quiz Substitution.standard ⟨1700000000, "j-1"⟩)
  have built := @build_of_issue (ofSettings quizWithText) .standard .beforeRotation .quiz
    (fun _ => Substitution.standard) ⟨1700000000, "j-1"⟩ .learner rfl _ hint rfl issued
  exact ⟨_, built, AuthenticationRequest.ofLogin_continues _, ⟨rfl, rfl⟩, Platform.trusts_beforeRotation,
    Platform.canSign_beforeRotation, login_refused (.rsa "2023" .sample) Platform.accepts_beforeRotation
      Platform.trusts_beforeRotation built (AuthenticationRequest.ofLogin_continues _) quizWithText_unreadable⟩

end Rotation

end LtiPlatform
