import LtiPlatform.Proofs.Launch.CheckChain

namespace LtiPlatform

namespace Platform

@[simp]
theorem during_ok {α : Type} (reached : LaunchState) (value : α) :
    during reached (.ok value) = .ok value := rfl

@[simp]
theorem during_error {α : Type} (reached : LaunchState) (cause : LaunchError) :
    during reached (.error cause : Except LaunchError α) = .error ⟨reached, cause⟩ := rfl

end Platform

namespace ExceptT

variable {m : Type → Type} [Monad m] {ε α β : Type}

@[simp]
theorem run_lift (result : Except ε α) : (liftM result : ExceptT ε m α).run = pure result := rfl

variable [LawfulMonad m]

@[simp]
theorem run_lift_ok_bind (value : α) (next : α → ExceptT ε m β) :
    ((liftM (Except.ok value : Except ε α) : ExceptT ε m α) >>= next).run = (next value).run := by
  simp [ExceptT.run_bind]

@[simp]
theorem run_lift_error_bind (cause : ε) (next : α → ExceptT ε m β) :
    ((liftM (Except.error cause : Except ε α) : ExceptT ε m α) >>= next).run = pure (.error cause) := by
  simp [ExceptT.run_bind]

/-- What is looked up with effects comes first. -/
@[simp]
theorem run_look_bind (action : m α) (next : α → ExceptT ε m β) :
    ((liftM action : ExceptT ε m α) >>= next).run = action >>= fun value => (next value).run := by
  simp [liftM, monadLift, MonadLift.monadLift, ExceptT.run_bind]

end ExceptT

/-- A question to the repository or to the login. -/
inductive LaunchCall where
  | registration (id : String)
  | user (loginHint : String)
deriving DecidableEq, Repr

/-- The same collaborators, with a record of what they are asked. -/
def Collaborators.noting (collaborators : Collaborators) : Collaborators (StateM (List LaunchCall)) where
  registration id := do
    modify (· ++ [.registration id])
    return collaborators.registration id
  user loginHint := do
    modify (· ++ [.user loginHint])
    return collaborators.user loginHint
  substitutor := collaborators.substitutor

namespace LaunchAttempt

open AuthenticationRequest (text)

variable {attempt : LaunchAttempt}

/-- The tool that a look-up came to, if the request comes from it. -/
def screened (attempt : LaunchAttempt) (found : Except LaunchError ToolRegistration) :
    Except Refusal ToolRegistration := do
  let tool ← Platform.during .hintDecoded found
  Platform.during .hintDecoded (tool.checkRequest attempt.request)
  return tool

/-- What the login comes to: the signed claims for the user. -/
def conclude (attempt : LaunchAttempt) (hint : Claims) (tool : ToolRegistration) (substitutor : Substitutor)
    (found : Except LaunchError User) : Except Refusal AuthenticationResponse := do
  let user ← Platform.during .registrationLoaded found
  let token ← Platform.during .claimsAssembled <|
    (TokenCodec.issue attempt.scheme attempt.platform.key
      (attempt.platform.idTokenClaims substitutor tool user (text attempt.request.nonce) attempt.stamp
        hint)).mapError .signing
  return ⟨text attempt.request.redirectUri, token, attempt.request.state⟩

@[simp]
theorem conclude_error (hint : Claims) (tool : ToolRegistration) (substitutor : Substitutor) (cause : LaunchError) :
    attempt.conclude hint tool substitutor (.error cause) = .error ⟨.registrationLoaded, cause⟩ := rfl

theorem screened_eq_ok_iff {found : Except LaunchError ToolRegistration} {tool : ToolRegistration} :
    attempt.screened found = .ok tool ↔ found = .ok tool ∧ tool.checkRequest attempt.request = .ok () := by
  cases found with
  | error cause => simp [screened]
  | ok other =>
    cases checked : other.checkRequest attempt.request with
    | error cause =>
      have refused : other = tool → tool.checkRequest attempt.request ≠ .ok () := by
        rintro rfl
        simp [checked]
      simpa [screened, checked] using refused
    | ok _ =>
      have passed : other = tool → tool.checkRequest attempt.request = .ok () := by
        rintro rfl
        exact checked
      simpa [screened, checked] using passed

section Run

variable {m : Type → Type} [Monad m] [LawfulMonad m] {others : Collaborators m}

theorem run_of_invalid {cause : LaunchError} (failed : attempt.request.validate = .error cause) :
    attempt.run others = pure (.error ⟨.receivedRequest, cause⟩) := by
  simp [run, Platform.authenticate, failed]

theorem run_of_no_hint {cause : LaunchError} (valid : attempt.request.validate = .ok ())
    (failed : attempt.platform.hintClaims attempt.scheme attempt.stamp.time
      (text attempt.request.messageHint) = .error cause) :
    attempt.run others = pure (.error ⟨.staticallyValidated, cause⟩) := by
  simp [run, Platform.authenticate, valid, failed]

/-- Once the hint is read, the repository may be asked, and after it the login. -/
theorem run_of_hint {hint : Claims} (valid : attempt.request.validate = .ok ())
    (passed : attempt.platform.hintClaims attempt.scheme attempt.stamp.time
      (text attempt.request.messageHint) = .ok hint) :
    attempt.run others = do
      match attempt.screened (← others.findRegistration hint) with
      | .error refusal => return .error refusal
      | .ok tool =>
        return attempt.conclude hint tool (others.substitutor tool)
          (← others.findUser (text attempt.request.loginHint)) := by
  simp only [run, Platform.authenticate, valid, passed, Platform.during_ok, ExceptT.run_lift_ok_bind,
    ExceptT.run_look_bind]
  refine bind_congr fun found => ?_
  cases found with
  | error cause => simp [screened]
  | ok tool =>
    cases checked : tool.checkRequest attempt.request with
    | error cause => simp [screened, checked]
    | ok _ =>
      simp only [Platform.during_ok, screened, checked, ok_bind, pure_eq_ok, ExceptT.run_lift_ok_bind,
        ExceptT.run_look_bind]
      refine bind_congr fun login => ?_
      cases login with
      | error cause => simp [conclude]
      | ok user =>
        simp only [Platform.during_ok, ExceptT.run_lift_ok_bind, conclude, ok_bind, pure_eq_ok]
        cases TokenCodec.issue attempt.scheme attempt.platform.key (attempt.platform.idTokenClaims
          (others.substitutor tool) tool user (text attempt.request.nonce) attempt.stamp hint) with
        | error cause => simp [Except.mapError, Except.map]
        | ok token => simp [Except.mapError, Except.map]

end Run

theorem answer_eq_run : attempt.answer = attempt.run attempt.collaborators := rfl

theorem answer_with (attempt : LaunchAttempt) (others : Collaborators) :
    answer { attempt with collaborators := others } = attempt.run others := rfl

theorem run_eq_bind_of_hint {hint : Claims} {others : Collaborators} (valid : attempt.request.validate = .ok ())
    (passed : attempt.platform.hintClaims attempt.scheme attempt.stamp.time
      (text attempt.request.messageHint) = .ok hint) :
    attempt.run others = (attempt.screened (others.findRegistration hint)).bind fun tool =>
      attempt.conclude hint tool (others.substitutor tool) (others.findUser (text attempt.request.loginHint)) := by
  rw [run_of_hint valid passed]
  show (match attempt.screened (others.findRegistration hint) with
    | .error refusal => _
    | .ok tool => _) = _
  cases attempt.screened (others.findRegistration hint) <;> rfl

theorem answer_of_hint {hint : Claims} (valid : attempt.request.validate = .ok ())
    (passed : attempt.platform.hintClaims attempt.scheme attempt.stamp.time
      (text attempt.request.messageHint) = .ok hint) :
    attempt.answer = (attempt.screened (attempt.collaborators.findRegistration hint)).bind fun tool =>
      attempt.conclude hint tool (attempt.collaborators.substitutor tool)
        (attempt.collaborators.findUser (text attempt.request.loginHint)) :=
  run_eq_bind_of_hint valid passed

/-- What is done once the user is known: the claims are signed. -/
theorem answer_of_reaches_signing (reaches : attempt.Reaches .signing) :
    ∃ result, attempt.Signs result ∧
      attempt.answer =
        match result with
        | .error reason => .error ⟨.claimsAssembled, .signing reason⟩
        | .ok token => .ok ⟨text attempt.request.redirectUri, token, attempt.request.state⟩ := by
  obtain ⟨hint, read, passed⟩ := hintClaims_passed (reaches.mono (by decide))
  obtain ⟨tool, registered, found⟩ := findRegistration_passed read (reaches.mono (by decide))
  obtain ⟨user, loggedIn⟩ := reaches.passes .user (by decide)
  refine ⟨_, ⟨hint, tool, user, read, registered, loggedIn, rfl⟩, ?_⟩
  have admitted : attempt.screened (.ok tool) = .ok tool :=
    screened_eq_ok_iff.mpr ⟨rfl, checkRequest_passed registered (reaches.mono (by decide))⟩
  rw [answer_of_hint (validate_passed (reaches.mono (by decide))) passed, found, admitted,
    findUser_passed loggedIn]
  show attempt.conclude hint tool _ (.ok user) = _
  rw [conclude, Platform.during_ok, ok_bind]
  cases TokenCodec.issue attempt.scheme attempt.platform.key
    (attempt.platform.idTokenClaims (attempt.collaborators.substitutor tool) tool user
      (text attempt.request.nonce) attempt.stamp hint) <;> rfl

/-- A request that fails a check before the repository is asked is refused with the complaint of that check, and
nobody is asked about it. -/
theorem unasked_of_first_failure {check : LaunchCheck} (early : check.turn < LaunchCheck.registration.turn)
    (reaches : attempt.Reaches check) (fails : ¬ attempt.Passes check) :
    ∃ cause, attempt.Complaint check cause ∧
      ∀ (m : Type → Type) [Monad m] [LawfulMonad m] (others : Collaborators m),
        attempt.run others = pure (.error ⟨check.stage, cause⟩) := by
  cases check with
  | scope | responseType | responseMode | prompt | nonce =>
    obtain ⟨cause, complaint, failed⟩ := validate_failed rfl reaches fails
    exact ⟨cause, complaint, fun _ _ _ _ => run_of_invalid failed⟩
  | hintPresent | hintVerified | hintIssuer =>
    obtain ⟨cause, complaint, failed⟩ := hintClaims_failed rfl reaches fails
    exact ⟨cause, complaint, fun _ _ _ _ => run_of_no_hint (validate_passed (reaches.mono (by decide))) failed⟩
  | hintTool =>
    obtain ⟨hint, read, passed⟩ := hintClaims_passed (reaches.mono (by decide))
    have unnamed : Claims.registrationId? hint = none := by
      cases id : Claims.registrationId? hint with
      | none => rfl
      | some id => exact absurd ⟨_, (names_iff read).mpr id⟩ fails
    refine ⟨_, rfl, fun _ _ _ others => ?_⟩
    rw [run_of_hint (validate_passed (reaches.mono (by decide))) passed, findRegistration_of_unnamed unnamed,
      pure_bind]
    rfl
  | _ => exact absurd early (by decide)

/-- A request that fails a check first is refused with the complaint of that check. -/
theorem refused_of_first_failure {check : LaunchCheck} (reaches : attempt.Reaches check)
    (fails : ¬ attempt.Passes check) :
    ∃ cause, attempt.Complaint check cause ∧ attempt.answer = .error ⟨check.stage, cause⟩ := by
  by_cases early : check.turn < LaunchCheck.registration.turn
  · obtain ⟨cause, complaint, refused⟩ := unasked_of_first_failure early reaches fails
    exact ⟨cause, complaint, refused Id attempt.collaborators⟩
  have read : attempt.Reaches .hintTool := reaches.mono (Nat.le_trans (by decide) (Nat.le_of_not_lt early))
  obtain ⟨hint, verified, passed⟩ := hintClaims_passed read
  have answered := answer_of_hint (validate_passed (read.mono (by decide))) passed
  cases check with
  | registration =>
    obtain ⟨cause, complaint, failed⟩ := findRegistration_failed verified reaches fails
    rw [failed] at answered
    exact ⟨cause, complaint, answered⟩
  | clientId | redirectUri =>
    obtain ⟨tool, registered, found⟩ := findRegistration_passed verified (reaches.mono (by decide))
    obtain ⟨cause, complaint, failed⟩ := checkRequest_failed (by decide) registered reaches fails
    rw [found, screened, Platform.during_ok, ok_bind, failed] at answered
    exact ⟨cause, complaint, answered⟩
  | user =>
    obtain ⟨tool, registered, found⟩ := findRegistration_passed verified (reaches.mono (by decide))
    obtain ⟨cause, complaint, failed⟩ := findUser_failed fails
    rw [found, screened_eq_ok_iff.mpr ⟨rfl, checkRequest_passed registered reaches⟩, failed] at answered
    exact ⟨cause, complaint, answered⟩
  | signing =>
    obtain ⟨result, signs, answered⟩ := answer_of_reaches_signing reaches
    cases result with
    | ok token => exact absurd ⟨token, signs⟩ fails
    | error reason => exact ⟨_, ⟨reason, signs, rfl⟩, answered⟩
  | _ => exact absurd (by decide) early

theorem reaches_signing_of_answer {response : AuthenticationResponse} (answered : attempt.answer = .ok response) :
    attempt.Reaches .signing := by
  by_contra blocked
  obtain ⟨first, _, reaches, fails⟩ := first_failure_of_blocked blocked
  obtain ⟨_, _, refused⟩ := refused_of_first_failure reaches fails
  cases answered.symm.trans refused

/-- An answer goes to the address of the request, with its state, and what it holds was signed for the hint, the tool
and the user of the request. -/
theorem parts_of_answer {response : AuthenticationResponse} (answered : attempt.answer = .ok response) :
    response.redirectUri = text attempt.request.redirectUri ∧ response.state = attempt.request.state ∧
      attempt.Signs (.ok response.idToken) := by
  obtain ⟨result, signs, answered'⟩ := answer_of_reaches_signing (reaches_signing_of_answer answered)
  rw [answered] at answered'
  cases result with
  | error reason => cases answered'
  | ok token =>
    cases answered'
    exact ⟨rfl, rfl, signs⟩

theorem signs_of_answer {response : AuthenticationResponse} (answered : attempt.answer = .ok response) :
    attempt.Signs (.ok response.idToken) := (parts_of_answer answered).2.2

/-- The claims that are signed are those for the hint, the tool and the user of the request. -/
theorem issue_of_answer {hint : Claims} {tool : ToolRegistration} {user : User} {response : AuthenticationResponse}
    (verified : attempt.hintResult = .ok hint) (registered : attempt.Registered tool)
    (loggedIn : attempt.LoggedIn user) (answered : attempt.answer = .ok response) :
    TokenCodec.issue attempt.scheme attempt.platform.key
      (attempt.platform.idTokenClaims (attempt.collaborators.substitutor tool) tool user
        (text attempt.request.nonce) attempt.stamp hint) = .ok response.idToken := by
  obtain ⟨_, _, _, verified', registered', loggedIn', issued⟩ := signs_of_answer answered
  cases verified'.symm.trans verified
  cases registered'.unique registered
  cases loggedIn'.unique loggedIn
  exact issued

theorem registered_of_found {hint : Claims} {tool : ToolRegistration}
    (read : attempt.hintResult = .ok hint)
    (found : attempt.collaborators.findRegistration hint = .ok tool) : attempt.Registered tool := by
  cases named : Claims.registrationId? hint with
  | none =>
    rw [findRegistration_of_unnamed named] at found
    cases found
  | some id =>
    rw [findRegistration_of_id named] at found
    cases reply : attempt.collaborators.registration id with
    | error reason =>
      rw [reply] at found
      cases found
    | ok tool? =>
      rw [reply] at found
      cases tool? with
      | none => cases found
      | some tool' =>
        cases found
        exact ⟨id, (names_iff read).mpr named, reply⟩

theorem reaches_user {tool : ToolRegistration} (registered : attempt.Registered tool)
    (reaches : attempt.Reaches .hintTool) (checked : tool.checkRequest attempt.request = .ok ()) :
    attempt.Reaches .user := by
  obtain ⟨id, named, found⟩ := registered
  have lookup : attempt.Reaches .registration := reaches.next ⟨id, named⟩ rfl
  have client : attempt.Reaches .clientId := lookup.next ⟨tool, id, named, found⟩ rfl
  have passes : ∀ check, check = .clientId ∨ check = .redirectUri → attempt.Reaches check →
      attempt.Passes check := by
    intro check late reaches
    by_contra fails
    obtain ⟨_, _, failed⟩ := checkRequest_failed late ⟨id, named, found⟩ reaches fails
    cases checked.symm.trans failed
  have target : attempt.Reaches .redirectUri := client.next (passes _ (.inl rfl) client) rfl
  exact target.next (passes _ (.inr rfl) target) rfl

/-- The login is reached when a tool is admitted. -/
theorem reaches_user_iff {hint : Claims} (read : attempt.hintResult = .ok hint) (reaches : attempt.Reaches .hintTool) :
    attempt.Reaches .user ↔
      ∃ tool, attempt.screened (attempt.collaborators.findRegistration hint) = .ok tool := by
  constructor
  · intro asked
    obtain ⟨tool, registered, found⟩ := findRegistration_passed read (asked.mono (by decide))
    exact ⟨tool, screened_eq_ok_iff.mpr ⟨found, checkRequest_passed registered asked⟩⟩
  · rintro ⟨tool, admitted⟩
    obtain ⟨found, checked⟩ := screened_eq_ok_iff.mp admitted
    exact reaches_user (registered_of_found read found) reaches checked

/-- The others say the same wherever they are asked, which is only after all earlier checks: the
repository for the id in the hint, the login for the hint of the request, and the choice of a
substitutor for the tool that was found. -/
def AnsweredAlike (attempt : LaunchAttempt) (others : Collaborators) : Prop :=
  (attempt.Reaches .registration → ∀ id, attempt.Names id →
    others.registration id = attempt.collaborators.registration id) ∧
  (attempt.Reaches .user → others.user (text attempt.request.loginHint) = attempt.userResult) ∧
  (attempt.Reaches .signing → ∀ tool, attempt.Registered tool →
    others.substitutor tool = attempt.collaborators.substitutor tool)

theorem answer_of_alike {others : Collaborators} (alike : attempt.AnsweredAlike others) :
    { attempt with collaborators := others }.answer = attempt.answer := by
  rw [answer_with]
  by_cases reaches : attempt.Reaches .hintTool
  case neg =>
    obtain ⟨first, before, reachesFirst, fails⟩ := first_failure_of_blocked reaches
    obtain ⟨_, _, refused⟩ := unasked_of_first_failure (Nat.lt_trans before (by decide)) reachesFirst fails
    rw [answer_eq_run, refused, refused]
  obtain ⟨hint, read, passed⟩ := hintClaims_passed reaches
  have valid := validate_passed (reaches.mono (by decide))
  have sameTool : others.findRegistration hint = attempt.collaborators.findRegistration hint := by
    cases id : Claims.registrationId? hint with
    | none => rw [findRegistration_of_unnamed id, findRegistration_of_unnamed id]
    | some id' =>
      have named := (names_iff read).mpr id
      rw [findRegistration_of_id id, findRegistration_of_id id, alike.1 (reaches.next ⟨_, named⟩ rfl) _ named]
  rw [run_eq_bind_of_hint valid passed, answer_of_hint valid passed, sameTool]
  cases admitted : attempt.screened (attempt.collaborators.findRegistration hint) with
  | error refusal => simp only [Except.bind]
  | ok tool =>
  have asked := (reaches_user_iff read reaches).mpr ⟨tool, admitted⟩
  have registered := registered_of_found read (screened_eq_ok_iff.mp admitted).1
  have sameUser : others.findUser (text attempt.request.loginHint) =
      attempt.collaborators.findUser (text attempt.request.loginHint) := by
    rw [Collaborators.findUser, alike.2.1 asked]
    rfl
  show attempt.conclude hint tool (others.substitutor tool) (others.findUser _) =
    attempt.conclude hint tool (attempt.collaborators.substitutor tool) (attempt.collaborators.findUser _)
  rw [sameUser]
  cases login : attempt.collaborators.findUser (text attempt.request.loginHint) with
  | error cause => rw [conclude_error, conclude_error]
  | ok user =>
  have passes : attempt.Passes .user := by
    by_contra fails
    obtain ⟨_, _, failed⟩ := findUser_failed fails
    cases login.symm.trans failed
  rw [alike.2.2 (asked.next passes rfl) tool registered]

/-- The answer, and what was asked for it. -/
def noted (attempt : LaunchAttempt) : Except Refusal AuthenticationResponse × List LaunchCall :=
  (attempt.run attempt.collaborators.noting).run []

/-- What is asked for an answer, in order: nothing before the hint has named a registration, then once for just that
one, and then once for the login hint of the request, if the request has passed all earlier checks. -/
structure AsksInTurn (attempt : LaunchAttempt) (calls : List LaunchCall) : Prop where
  nothing : ¬ attempt.Reaches .registration → calls = []
  repository : attempt.Reaches .registration → ¬ attempt.Reaches .user →
    ∀ id, attempt.Names id → calls = [.registration id]
  login : attempt.Reaches .user →
    ∀ id, attempt.Names id → calls = [.registration id, .user (text attempt.request.loginHint)]

theorem noted_of_named {hint : Claims} {id : String} (reaches : attempt.Reaches .hintTool)
    (passed : attempt.platform.hintClaims attempt.scheme attempt.stamp.time
      (text attempt.request.messageHint) = .ok hint) (named : Claims.registrationId? hint = some id) :
    attempt.noted = (attempt.answer,
      match attempt.screened (attempt.collaborators.findRegistration hint) with
      | .error _ => [.registration id]
      | .ok _ => [.registration id, .user (text attempt.request.loginHint)]) := by
  have valid := validate_passed (reaches.mono (by decide))
  have replied : (attempt.collaborators.noting.registration id).run [] =
      (pure (attempt.collaborators.registration id, [LaunchCall.registration id]) : Id _) := rfl
  have found : attempt.collaborators.findRegistration hint =
      ToolRegistration.ofReply id (attempt.collaborators.registration id) := findRegistration_of_id named
  rw [noted, run_of_hint valid passed, answer_of_hint valid passed, findRegistration_of_id named, found, bind_assoc,
    StateT.run_bind, replied, pure_bind, pure_bind]
  cases attempt.screened (ToolRegistration.ofReply id (attempt.collaborators.registration id)) <;> rfl

/-- Asking is noted and changes nothing else. -/
theorem noted_asksInTurn (attempt : LaunchAttempt) :
    attempt.noted.1 = attempt.answer ∧ attempt.AsksInTurn attempt.noted.2 := by
  by_cases reaches : attempt.Reaches .registration
  case neg =>
    obtain ⟨first, before, reachesFirst, fails⟩ := first_failure_of_blocked reaches
    obtain ⟨cause, _, refused⟩ := unasked_of_first_failure before reachesFirst fails
    have unnoted : attempt.noted = (.error ⟨first.stage, cause⟩, []) := by
      rw [noted, refused]
      rfl
    rw [unnoted, answer_eq_run, refused]
    exact ⟨rfl, fun _ => rfl, fun reaches' => absurd reaches' reaches,
      fun reaches' => absurd (reaches'.mono (by decide)) reaches⟩
  have reachesTool : attempt.Reaches .hintTool := reaches.mono (by decide)
  obtain ⟨hint, read, passed⟩ := hintClaims_passed reachesTool
  obtain ⟨id, named⟩ := reaches.passes .hintTool (by decide)
  have noted' := noted_of_named reachesTool passed ((names_iff read).mp named)
  rw [noted']
  refine ⟨rfl, fun blocked => absurd reaches blocked, fun _ unasked other named' => ?_,
    fun asked other named' => ?_⟩
  · cases named'.unique named
    cases admitted : attempt.screened (attempt.collaborators.findRegistration hint) with
    | error refusal => rfl
    | ok tool => exact absurd ((reaches_user_iff read reachesTool).mpr ⟨tool, admitted⟩) unasked
  · cases named'.unique named
    obtain ⟨tool, admitted⟩ := (reaches_user_iff read reachesTool).mp asked
    rw [admitted]

/-- A request is answered exactly when every check holds. Otherwise it is refused with the complaint
of the first check that fails, what anybody would have said about a later one has no effect, and nobody is asked
about it. -/
theorem answer_decided_by_checks (attempt : LaunchAttempt) :
    ((∃ response, attempt.answer = .ok response) ↔ ∀ check, attempt.Passes check) ∧
    (∀ response, attempt.answer = .ok response →
      response.redirectUri = text attempt.request.redirectUri ∧
        response.state = attempt.request.state ∧ attempt.Signs (.ok response.idToken)) ∧
    (∀ refusal, attempt.answer = .error refusal ↔
      ∃ check, attempt.Reaches check ∧ ¬ attempt.Passes check ∧
        attempt.Complaint check refusal.cause ∧ refusal.reached = check.stage) ∧
    (∀ others, attempt.AnsweredAlike others →
      { attempt with collaborators := others }.answer = attempt.answer) ∧
    attempt.noted.1 = attempt.answer ∧ attempt.AsksInTurn attempt.noted.2 := by
  have signed : attempt.Reaches .signing → attempt.Passes .signing → ∃ token,
      attempt.Signs (.ok token) ∧ attempt.answer =
        .ok ⟨text attempt.request.redirectUri, token, attempt.request.state⟩ := by
    intro reaches ⟨token, signs⟩
    obtain ⟨result, signs', answered⟩ := answer_of_reaches_signing reaches
    cases signs.unique signs'
    exact ⟨token, signs, answered⟩
  have passes : ∀ response, attempt.answer = .ok response → ∀ check, attempt.Passes check := by
    intro response answered check
    by_contra fails
    obtain ⟨first, _, reaches, failsFirst⟩ := exists_first_failure fails
    obtain ⟨_, _, refused⟩ := refused_of_first_failure reaches failsFirst
    cases answered.symm.trans refused
  refine ⟨⟨fun ⟨response, answered⟩ => passes response answered, fun all => ?_⟩,
    fun response answered => parts_of_answer answered, ?_,
    fun others alike => answer_of_alike alike, attempt.noted_asksInTurn⟩
  · obtain ⟨token, _, answered⟩ := signed (fun check _ => all check) (all .signing)
    exact ⟨_, answered⟩
  · intro refusal
    constructor
    · intro refused
      have blocked : ¬ ∀ check, attempt.Passes check := by
        intro all
        obtain ⟨token, _, answered⟩ := signed (fun check _ => all check) (all .signing)
        cases refused.symm.trans answered
      obtain ⟨check, fails⟩ := not_forall.mp blocked
      obtain ⟨first, _, reaches, failsFirst⟩ := exists_first_failure fails
      obtain ⟨cause, complaint, refused'⟩ := refused_of_first_failure reaches failsFirst
      cases refused.symm.trans refused'
      exact ⟨first, reaches, failsFirst, complaint, rfl⟩
    · rintro ⟨check, reaches, fails, complaint, reached⟩
      obtain ⟨cause, complaint', refused⟩ := refused_of_first_failure reaches fails
      obtain ⟨stage, cause'⟩ := refusal
      cases complaint.unique complaint'
      cases reached
      exact refused

end LaunchAttempt

end LtiPlatform
