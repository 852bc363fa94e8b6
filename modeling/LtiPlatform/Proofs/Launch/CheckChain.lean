import Mathlib.Order.Basic
import Mathlib.Tactic.Common
import LtiPlatform.Launch.Authentication
import LtiPlatform.Proofs.Json.Same

namespace LtiPlatform

@[simp]
theorem ok_bind {ε α β : Type} (value : α) (next : α → Except ε β) :
    (Except.ok value >>= next) = next value := rfl

@[simp]
theorem error_bind {ε α β : Type} (cause : ε) (next : α → Except ε β) :
    (Except.error cause >>= next) = .error cause := rfl

@[simp]
theorem pure_eq_ok {ε α : Type} (value : α) : (pure value : Except ε α) = .ok value := rfl

/-- The checks of an authentication request, in the order in which they are made. -/
inductive LaunchCheck where
  | scope
  | responseType
  | responseMode
  | prompt
  | nonce
  | hintPresent
  | hintVerified
  | hintIssuer
  | hintTool
  | registration
  | clientId
  | redirectUri
  | user
  | signing
deriving DecidableEq, Repr

namespace LaunchCheck

/-- The position among the checks. -/
def turn (check : LaunchCheck) : Nat := check.ctorIdx

/-- How far a request has come that fails the check. -/
def stage : LaunchCheck → LaunchState
  | scope | responseType | responseMode | prompt | nonce => .receivedRequest
  | hintPresent | hintVerified | hintIssuer => .staticallyValidated
  | hintTool | registration | clientId | redirectUri => .hintDecoded
  | user => .registrationLoaded
  | signing => .claimsAssembled

end LaunchCheck

/-- All that the answer to an authentication request depends on. -/
structure LaunchAttempt where
  scheme : SignatureScheme
  platform : Platform
  collaborators : Collaborators
  stamp : TokenStamp
  request : AuthenticationRequest

namespace LaunchAttempt

open AuthenticationRequest (text)

variable (attempt : LaunchAttempt)

def answer : Except Refusal AuthenticationResponse :=
  attempt.platform.authenticate attempt.scheme attempt.collaborators attempt.stamp attempt.request

/-- The same request when others are asked, in whatever monad. -/
def run {m : Type → Type} [Monad m] (others : Collaborators m) : m (Except Refusal AuthenticationResponse) :=
  attempt.platform.authenticate attempt.scheme others attempt.stamp attempt.request

/-- What verifying the message hint with the platform's codec and keys comes to. -/
def hintResult : Except TokenError Claims :=
  TokenCodec.verify attempt.scheme attempt.platform.codec attempt.platform.keys attempt.stamp.time
    (text attempt.request.messageHint)

/-- The hint names the registration, a number by its printed form. -/
def Names (id : String) : Prop :=
  ∃ claims, attempt.hintResult = .ok claims ∧
    (claims.get? "tool_registration_id" = some (.string id) ∨
      ∃ number, claims.get? "tool_registration_id" = some (.number number) ∧ id = number.toText)

def Registered (tool : ToolRegistration) : Prop :=
  ∃ id, attempt.Names id ∧ attempt.collaborators.registration id = .ok (some tool)

def userResult : Except String UserVerdict :=
  attempt.collaborators.user (text attempt.request.loginHint)

def LoggedIn (user : User) : Prop := attempt.userResult = .ok ⟨true, some user⟩

/-- The result of signing the claims of the id token is `result`. -/
def Signs (result : Except TokenError String) : Prop :=
  ∃ hint tool user, attempt.hintResult = .ok hint ∧ attempt.Registered tool ∧ attempt.LoggedIn user ∧
    TokenCodec.issue attempt.scheme attempt.platform.key
      (attempt.platform.idTokenClaims (attempt.collaborators.substitutor tool) tool user
        (text attempt.request.nonce) attempt.stamp hint) = result

def Passes : LaunchCheck → Prop
  | .scope => text attempt.request.scope = "openid"
  | .responseType => text attempt.request.responseType = "id_token"
  | .responseMode => text attempt.request.responseMode = "form_post"
  | .prompt => text attempt.request.prompt = "none"
  | .nonce => text attempt.request.nonce ≠ ""
  | .hintPresent => text attempt.request.messageHint ≠ ""
  | .hintVerified => ∃ claims, attempt.hintResult = .ok claims
  | .hintIssuer =>
    ∃ claims, attempt.hintResult = .ok claims ∧
      claims.get? "iss" = some (.string attempt.platform.issuer)
  | .hintTool => ∃ id, attempt.Names id
  | .registration => ∃ tool, attempt.Registered tool
  | .clientId => ∃ tool, attempt.Registered tool ∧ text attempt.request.clientId = tool.clientId
  | .redirectUri =>
    ∃ tool, attempt.Registered tool ∧ text attempt.request.redirectUri ∈ tool.redirectUris
  | .user => ∃ user, attempt.LoggedIn user
  | .signing => ∃ token, attempt.Signs (.ok token)

/-- All checks before this one hold. -/
def Reaches (check : LaunchCheck) : Prop :=
  ∀ earlier : LaunchCheck, earlier.turn < check.turn → attempt.Passes earlier

/-- The error that a request gets which fails this check first. -/
def Complaint : LaunchCheck → LaunchError → Prop
  | .scope, cause => cause = .validation .scope "expected 'openid'"
  | .responseType, cause => cause = .validation .responseType "expected 'id_token'"
  | .responseMode, cause => cause = .validation .responseMode "expected 'form_post'"
  | .prompt, cause => cause = .validation .prompt "expected 'none'"
  | .nonce, cause => cause = .validation .nonce "missing"
  | .hintPresent, cause => cause = .validation .messageHint "missing"
  | .hintVerified, cause => ∃ reason, attempt.hintResult = .error reason ∧ cause = .signature reason
  | .hintIssuer, cause => cause = .validation .messageHint "issued by another platform"
  | .hintTool, cause => cause = .validation .messageHint "no tool_registration_id"
  | .registration, cause =>
    ∃ id, attempt.Names id ∧
      (attempt.collaborators.registration id = .ok none ∧
          cause = .registration ("unknown tool registration '" ++ id ++ "'") ∨
        ∃ reason, attempt.collaborators.registration id = .error reason ∧
          cause = .registration ("lookup of '" ++ id ++ "' failed: " ++ reason))
  | .clientId, cause => cause = .validation .clientId "does not match the tool registration"
  | .redirectUri, cause =>
    cause = .validation .redirectUri
      ("'" ++ text attempt.request.redirectUri ++ "' is not registered for this tool")
  | .user, cause =>
    (∃ reason, attempt.userResult = .error reason ∧ cause = .authentication reason) ∨
      (∃ verdict, attempt.userResult = .ok verdict) ∧
        cause = .authentication "user could not be authenticated"
  | .signing, cause => ∃ reason, attempt.Signs (.error reason) ∧ cause = .signing reason

variable {attempt}

theorem Reaches.passes {check : LaunchCheck} (reaches : attempt.Reaches check)
    (earlier : LaunchCheck) (order : earlier.turn < check.turn) : attempt.Passes earlier :=
  reaches earlier order

theorem Reaches.mono {check earlier : LaunchCheck} (reaches : attempt.Reaches check)
    (order : earlier.turn ≤ check.turn) : attempt.Reaches earlier :=
  fun first before => reaches first (Nat.lt_of_lt_of_le before order)

theorem turn_injective {left right : LaunchCheck} (same : left.turn = right.turn) : left = right := by
  cases left <;> cases right <;> first | rfl | cases same

theorem Reaches.next {check later : LaunchCheck} (reaches : attempt.Reaches check)
    (passes : attempt.Passes check) (next : later.turn = check.turn + 1) : attempt.Reaches later := by
  intro earlier before
  by_cases last : earlier.turn = check.turn
  · rw [turn_injective last]
    exact passes
  · exact reaches earlier (by omega)

theorem exists_first_failure {check : LaunchCheck} (fails : ¬ attempt.Passes check) :
    ∃ first : LaunchCheck, first.turn ≤ check.turn ∧ attempt.Reaches first ∧
      ¬ attempt.Passes first := by
  induction position : check.turn using Nat.strongRecOn generalizing check with
  | ind n ih =>
    by_cases reaches : attempt.Reaches check
    · exact ⟨check, by omega, reaches, fails⟩
    · simp only [Reaches, not_forall] at reaches
      obtain ⟨earlier, before, failsEarlier⟩ := reaches
      obtain ⟨first, bound, rest⟩ := ih earlier.turn (by omega) failsEarlier rfl
      exact ⟨first, by omega, rest⟩

theorem first_failure_of_blocked {check : LaunchCheck} (blocked : ¬ attempt.Reaches check) :
    ∃ first : LaunchCheck, first.turn < check.turn ∧ attempt.Reaches first ∧
      ¬ attempt.Passes first := by
  simp only [Reaches, not_forall] at blocked
  obtain ⟨earlier, before, fails⟩ := blocked
  obtain ⟨first, bound, rest⟩ := exists_first_failure fails
  exact ⟨first, Nat.lt_of_le_of_lt bound before, rest⟩

@[simp]
theorem expect_passed {field : RequestField} {value : Option String} {expected : String}
    (same : text value = expected) : AuthenticationRequest.expect field value expected = .ok () :=
  if_pos same

@[simp]
theorem expect_failed {field : RequestField} {value : Option String} {expected : String}
    (other : text value ≠ expected) :
    AuthenticationRequest.expect field value expected =
      .error (.validation field ("expected '" ++ expected ++ "'")) :=
  if_neg other

theorem validate_passed (reaches : attempt.Reaches .hintPresent) :
    attempt.request.validate = .ok () := by
  have scope : text attempt.request.scope = "openid" := reaches.passes .scope (by decide)
  have type : text attempt.request.responseType = "id_token" := reaches.passes .responseType (by decide)
  have mode : text attempt.request.responseMode = "form_post" := reaches.passes .responseMode (by decide)
  have prompt : text attempt.request.prompt = "none" := reaches.passes .prompt (by decide)
  have nonce : text attempt.request.nonce ≠ "" := reaches.passes .nonce (by decide)
  simp [AuthenticationRequest.validate, scope, type, mode, prompt, nonce]

theorem validate_failed {check : LaunchCheck} (early : check.stage = .receivedRequest)
    (reaches : attempt.Reaches check) (fails : ¬ attempt.Passes check) :
    ∃ cause, attempt.Complaint check cause ∧ attempt.request.validate = .error cause := by
  have scope : LaunchCheck.scope.turn < check.turn → text attempt.request.scope = "openid" :=
    reaches.passes .scope
  have type : LaunchCheck.responseType.turn < check.turn → text attempt.request.responseType = "id_token" :=
    reaches.passes .responseType
  have mode : LaunchCheck.responseMode.turn < check.turn → text attempt.request.responseMode = "form_post" :=
    reaches.passes .responseMode
  have prompt : LaunchCheck.prompt.turn < check.turn → text attempt.request.prompt = "none" :=
    reaches.passes .prompt
  unfold AuthenticationRequest.validate
  cases check with
  | scope =>
    have other : text attempt.request.scope ≠ "openid" := fails
    exact ⟨_, rfl, by simp [other]⟩
  | responseType =>
    have other : text attempt.request.responseType ≠ "id_token" := fails
    exact ⟨_, rfl, by simp +decide [scope, other]⟩
  | responseMode =>
    have other : text attempt.request.responseMode ≠ "form_post" := fails
    exact ⟨_, rfl, by simp +decide [scope, type, other]⟩
  | prompt =>
    have other : text attempt.request.prompt ≠ "none" := fails
    exact ⟨_, rfl, by simp +decide [scope, type, mode, other]⟩
  | nonce =>
    have empty : text attempt.request.nonce = "" := not_not.mp fails
    exact ⟨_, rfl, by simp +decide [scope, type, mode, prompt, empty]⟩
  | _ => cases early

theorem issuer_read {claims : Claims} {issuer : String} :
    (claims.get? "iss").bind Json.string? = some issuer ↔
      claims.get? "iss" = some (.string issuer) := by
  simp [Option.bind_eq_some_iff, Json.string?_eq_some_iff]

theorem hintClaims_passed (reaches : attempt.Reaches .hintTool) :
    ∃ hint, attempt.hintResult = .ok hint ∧
      attempt.platform.hintClaims attempt.scheme attempt.stamp.time
        (text attempt.request.messageHint) = .ok hint := by
  have present : text attempt.request.messageHint ≠ "" :=
    reaches.passes .hintPresent (by decide)
  obtain ⟨hint, verified, issuer⟩ := reaches.passes .hintIssuer (by decide)
  have result := verified
  unfold hintResult at result
  refine ⟨hint, verified, ?_⟩
  simp only [Platform.hintClaims, if_neg present, result, if_pos (issuer_read.mpr issuer)]

theorem hintClaims_failed {check : LaunchCheck} (during : check.stage = .staticallyValidated)
    (reaches : attempt.Reaches check) (fails : ¬ attempt.Passes check) :
    ∃ cause, attempt.Complaint check cause ∧
      attempt.platform.hintClaims attempt.scheme attempt.stamp.time
        (text attempt.request.messageHint) = .error cause := by
  unfold Platform.hintClaims
  cases check with
  | hintPresent =>
    exact ⟨_, rfl, if_pos (not_not.mp fails)⟩
  | hintVerified =>
    have present : text attempt.request.messageHint ≠ "" :=
      reaches.passes .hintPresent (by decide)
    rw [if_neg present]
    cases result : attempt.hintResult with
    | ok claims => exact absurd ⟨claims, result⟩ fails
    | error reason =>
      refine ⟨_, ⟨reason, result, rfl⟩, ?_⟩
      unfold hintResult at result
      rw [result]
  | hintIssuer =>
    have present : text attempt.request.messageHint ≠ "" :=
      reaches.passes .hintPresent (by decide)
    obtain ⟨claims, verified⟩ := reaches.passes .hintVerified (by decide)
    have foreign : ¬ (claims.get? "iss").bind Json.string? = some attempt.platform.issuer :=
      fun same => fails ⟨claims, verified, issuer_read.mp same⟩
    unfold hintResult at verified
    exact ⟨_, rfl, by simp only [if_neg present, verified, if_neg foreign]⟩
  | _ => cases during

theorem names_iff {hint : Claims} {id : String} (read : attempt.hintResult = .ok hint) :
    attempt.Names id ↔ Claims.registrationId? hint = some id := by
  have same : attempt.Names id ↔ hint.get? "tool_registration_id" = some (.string id) ∨
      ∃ number, hint.get? "tool_registration_id" = some (.number number) ∧ id = number.toText := by
    simp [Names, read]
  rw [same, Claims.registrationId?, Claims.registrationId]
  cases hint.get? "tool_registration_id" with
  | none => simp
  | some value => cases value <;> simp [eq_comm]

theorem findRegistration_of_id {m : Type → Type} [Monad m] {others : Collaborators m} {hint : Claims} {id : String}
    (named : Claims.registrationId? hint = some id) :
    others.findRegistration hint = do return ToolRegistration.ofReply id (← others.registration id) := by
  simp only [Collaborators.findRegistration, named]

theorem findRegistration_of_unnamed {m : Type → Type} [Monad m] {others : Collaborators m} {hint : Claims}
    (unnamed : Claims.registrationId? hint = none) :
    others.findRegistration hint = pure (.error (.validation .messageHint "no tool_registration_id")) := by
  simp only [Collaborators.findRegistration, unnamed]

theorem findRegistration_passed {hint : Claims} (read : attempt.hintResult = .ok hint)
    (reaches : attempt.Reaches .clientId) :
    ∃ tool, attempt.Registered tool ∧ attempt.collaborators.findRegistration hint = .ok tool := by
  obtain ⟨tool, id, named, found⟩ := reaches.passes .registration (by decide)
  refine ⟨tool, ⟨id, named, found⟩, ?_⟩
  rw [findRegistration_of_id ((names_iff read).mp named), found]
  rfl

theorem findRegistration_failed {hint : Claims} (read : attempt.hintResult = .ok hint)
    (reaches : attempt.Reaches .registration) (fails : ¬ attempt.Passes .registration) :
    ∃ cause, attempt.Complaint .registration cause ∧
      attempt.collaborators.findRegistration hint = .error cause := by
  obtain ⟨id, named⟩ := reaches.passes .hintTool (by decide)
  rw [findRegistration_of_id ((names_iff read).mp named)]
  cases found : attempt.collaborators.registration id with
  | error reason => exact ⟨_, ⟨id, named, .inr ⟨reason, found, rfl⟩⟩, rfl⟩
  | ok tool? =>
    cases tool? with
    | none => exact ⟨_, ⟨id, named, .inl ⟨found, rfl⟩⟩, rfl⟩
    | some tool => exact absurd ⟨tool, id, named, found⟩ fails

theorem Names.unique {id other : String} (named : attempt.Names id) (again : attempt.Names other) :
    id = other := by
  have named' := named
  obtain ⟨hint, read, _⟩ := named'
  rw [names_iff read] at named again
  exact Option.some.inj (named.symm.trans again)

theorem Registered.unique {tool other : ToolRegistration} (registered : attempt.Registered tool)
    (again : attempt.Registered other) : tool = other := by
  obtain ⟨id, named, found⟩ := registered
  obtain ⟨id', named', found'⟩ := again
  cases named.unique named'
  cases found.symm.trans found'
  rfl

theorem LoggedIn.unique {user other : User} (loggedIn : attempt.LoggedIn user)
    (again : attempt.LoggedIn other) : user = other := by
  cases Eq.trans loggedIn.symm again
  rfl

theorem Signs.unique {result other : Except TokenError String} (signs : attempt.Signs result)
    (again : attempt.Signs other) : result = other := by
  obtain ⟨hint, tool, user, read, registered, loggedIn, signed⟩ := signs
  obtain ⟨hint', tool', user', read', registered', loggedIn', signed'⟩ := again
  cases read.symm.trans read'
  cases registered.unique registered'
  cases loggedIn.unique loggedIn'
  exact signed.symm.trans signed'

/-- A check has one complaint about a request. -/
theorem Complaint.unique {check : LaunchCheck} {cause other : LaunchError}
    (complaint : attempt.Complaint check cause) (again : attempt.Complaint check other) :
    cause = other := by
  cases check with
  | hintVerified =>
    obtain ⟨reason, result, rfl⟩ := complaint
    obtain ⟨reason', result', rfl⟩ := again
    cases result.symm.trans result'
    rfl
  | registration =>
    obtain ⟨id, named, complaint⟩ := complaint
    obtain ⟨id', named', again⟩ := again
    cases named.unique named'
    rcases complaint with ⟨found, rfl⟩ | ⟨reason, found, rfl⟩ <;>
      rcases again with ⟨found', rfl⟩ | ⟨reason', found', rfl⟩ <;>
      cases found.symm.trans found' <;> rfl
  | user =>
    rcases complaint with ⟨reason, result, rfl⟩ | ⟨⟨verdict, result⟩, rfl⟩ <;>
      rcases again with ⟨reason', result', rfl⟩ | ⟨⟨verdict', result'⟩, rfl⟩ <;>
      cases result.symm.trans result' <;> rfl
  | signing =>
    obtain ⟨reason, signs, rfl⟩ := complaint
    obtain ⟨reason', signs', rfl⟩ := again
    cases signs.unique signs'
    rfl
  | _ => exact Eq.trans complaint again.symm

theorem checkRequest_passed {tool : ToolRegistration} (registered : attempt.Registered tool)
    (reaches : attempt.Reaches .user) : tool.checkRequest attempt.request = .ok () := by
  obtain ⟨client, same, clientId⟩ := reaches.passes .clientId (by decide)
  obtain ⟨target, same', redirectUri⟩ := reaches.passes .redirectUri (by decide)
  cases same.unique registered
  cases same'.unique registered
  have allowed : tool.allowsRedirectUri (text attempt.request.redirectUri) = true :=
    List.contains_iff_mem.mpr redirectUri
  simp only [ToolRegistration.checkRequest, if_neg (not_not_intro clientId), allowed, if_true]

theorem checkRequest_failed {check : LaunchCheck} {tool : ToolRegistration}
    (late : check = .clientId ∨ check = .redirectUri) (registered : attempt.Registered tool)
    (reaches : attempt.Reaches check) (fails : ¬ attempt.Passes check) :
    ∃ cause, attempt.Complaint check cause ∧ tool.checkRequest attempt.request = .error cause := by
  unfold ToolRegistration.checkRequest
  rcases late with rfl | rfl
  · have other : text attempt.request.clientId ≠ tool.clientId :=
      fun same => fails ⟨tool, registered, same⟩
    exact ⟨_, rfl, if_pos other⟩
  · obtain ⟨client, same, clientId⟩ := reaches.passes .clientId (by decide)
    cases same.unique registered
    have refused : ¬ tool.allowsRedirectUri (text attempt.request.redirectUri) = true :=
      fun allowed => fails ⟨tool, registered, List.contains_iff_mem.mp allowed⟩
    exact ⟨_, rfl, by simp only [if_neg (not_not_intro clientId), if_neg refused]⟩

theorem findUser_passed {user : User} (loggedIn : attempt.LoggedIn user) :
    attempt.collaborators.findUser (text attempt.request.loginHint) = .ok user := by
  unfold LoggedIn userResult at loggedIn
  rw [Collaborators.findUser, loggedIn]
  rfl

theorem findUser_failed (fails : ¬ attempt.Passes .user) :
    ∃ cause, attempt.Complaint .user cause ∧
      attempt.collaborators.findUser (text attempt.request.loginHint) = .error cause := by
  have result : attempt.userResult = attempt.collaborators.user (text attempt.request.loginHint) := rfl
  unfold Collaborators.findUser
  rw [← result]
  cases verdict : attempt.userResult with
  | error reason => exact ⟨_, .inl ⟨reason, verdict, rfl⟩, rfl⟩
  | ok found =>
    refine ⟨_, .inr ⟨⟨found, verdict⟩, rfl⟩, ?_⟩
    obtain ⟨successful, user?⟩ := found
    cases successful with
    | false => rfl
    | true =>
      cases user? with
      | none => rfl
      | some user => exact absurd ⟨user, verdict⟩ fails

end LaunchAttempt

end LtiPlatform
