import LtiPlatform.Proofs.Launch.IdToken
import LtiPlatform.Proofs.Token.Rereading

namespace LtiPlatform

open AuthenticationRequest (text)

namespace LaunchAttempt

variable {attempt : LaunchAttempt}

/-- The request fails a check that comes before the repository and the login are asked, and is refused
for it without a call, whoever they are and whatever they would do. -/
def IsRefusedUnasked (attempt : LaunchAttempt) : Prop :=
  ∃ check cause, check.turn < LaunchCheck.registration.turn ∧ attempt.Reaches check ∧
    ¬ attempt.Passes check ∧ attempt.Complaint check cause ∧
    ∀ (m : Type → Type) [Monad m] [LawfulMonad m] (others : Collaborators m),
      attempt.run others = pure (.error ⟨check.stage, cause⟩)

/-- A hint that names no registration gets nobody asked. -/
theorem isRefusedUnasked_of_unnamed (unnamed : ∀ id, ¬ attempt.Names id) : attempt.IsRefusedUnasked := by
  have fails : ¬ attempt.Passes .hintTool := fun ⟨id, named⟩ => unnamed id named
  obtain ⟨check, position, reaches, failsFirst⟩ := exists_first_failure fails
  have early : check.turn < LaunchCheck.registration.turn := Nat.lt_of_le_of_lt position (by decide)
  obtain ⟨cause, complaint, refused⟩ := unasked_of_first_failure early reaches failsFirst
  exact ⟨check, cause, early, reaches, failsFirst, complaint, refused⟩

/-- What is read from an id token names no registration, whatever went into the token and however it is
read. -/
theorem unnamed_of_idToken {response : AuthenticationResponse} (answered : attempt.answer = .ok response)
    {later : LaunchAttempt} (presented : text later.request.messageHint = response.idToken) (id : String) :
    ¬ later.Names id := by
  rintro ⟨found, verified, named⟩
  obtain ⟨hint, tool, user, _, _, _, issued⟩ := signs_of_answer answered
  rw [hintResult, presented] at verified
  have alike := TokenCodec.alike_of_verify issued verified
  have absent : found.get? Claims.registrationId = none :=
    (alike.get?_eq_none_iff _).mpr (by simp)
  rcases named with named | ⟨number, named, _⟩
  · cases absent.symm.trans named
  · cases absent.symm.trans named

/-- An id token that was returned once is refused as the hint of every other request, to any platform and
at any time, and nobody is asked about it. -/
theorem idToken_refused_as_hint (attempt later : LaunchAttempt) {response : AuthenticationResponse}
    (answered : attempt.answer = .ok response)
    (presented : text later.request.messageHint = response.idToken) : later.IsRefusedUnasked :=
  isRefusedUnasked_of_unnamed (unnamed_of_idToken answered presented)

/-- The request for the quiz again, with a token in place of the hint. -/
def ofQuizAgain (collaborators : Collaborators) (login : LoginInitiation) (token : String) : LaunchAttempt :=
  let first := ofQuiz collaborators login
  { first with request := { first.request with messageHint := some token } }

/-- Presented to the platform that signed it a moment ago, the token of a quiz is genuine and in time, and
refused for the registration that it does not name. -/
theorem quiz_idToken_refused_as_hint :
    ∃ login response, (ofQuiz .ofQuiz login).answer = .ok response ∧
      text (ofQuizAgain .ofQuiz login response.idToken).request.messageHint = response.idToken ∧
      (ofQuizAgain .ofQuiz login response.idToken).Passes .hintIssuer ∧
      (ofQuizAgain .ofQuiz login response.idToken).IsRefusedUnasked := by
  obtain ⟨login, _, hintRead, answers⟩ := exists_ofQuiz_answered
  obtain ⟨response, answered⟩ := answers .ofQuiz .learner ⟨rfl, rfl⟩
  refine ⟨login, response, answered, rfl, ?_, idToken_refused_as_hint _ _ answered rfl⟩
  obtain ⟨hint, tool, user, verified, _, _, issued⟩ := signs_of_answer answered
  cases (hintRead .ofQuiz).symm.trans verified
  have portable : ((LaunchDraft.ofSettings LaunchDraft.quizInCourse).hintClaims .beforeRotation .quiz
      Substitution.standard ⟨1700000000, "j-1"⟩).Portable :=
    LaunchDraft.portable_hintClaims
      (LaunchDraft.extra_get?_eq_none (LaunchDraft.quizInCourse_noExtra "content_items")) (by decide)
  have plain := LaunchDraft.isPlainAt_hintClaims_of_groups (@LaunchDraft.quizInCourse_plain .beforeRotation .quiz
    Substitution.standard ⟨1700000000, "j-1"⟩)
  have genuine := @Platform.verify_idToken .beforeRotation .standard Substitution.standard tool user "n-1"
    ⟨1700000100, "j-2"⟩ _ 1700000100 _ (.rsa "2023" .sample) Platform.accepts_beforeRotation
    Platform.trusts_beforeRotation portable plain (by decide) (by decide) (by decide) issued
  exact ⟨Platform.beforeRotation.idTokenClaims Substitution.standard tool user "n-1" ⟨1700000100, "j-2"⟩
      ((LaunchDraft.ofSettings LaunchDraft.quizInCourse).hintClaims .beforeRotation .quiz Substitution.standard
        ⟨1700000000, "j-1"⟩),
    genuine, Platform.isIdToken_idTokenClaims.issuer⟩

end LaunchAttempt

end LtiPlatform
