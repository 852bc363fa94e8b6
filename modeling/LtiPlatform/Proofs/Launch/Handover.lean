import LtiPlatform.Proofs.Launch.IdToken
import LtiPlatform.Proofs.Token.Rereading

namespace LtiPlatform

open AuthenticationRequest (text)

namespace Json.Alike

variable {value other : Json} {name : String}

theorem textMember? (alike : Alike value other) (name : String) :
    other.textMember? name = value.textMember? name := by
  have held := alike.member? name
  rw [Json.textMember?, Json.textMember?]
  generalize value.member? name = member, other.member? name = member' at held
  cases held with
  | none => rfl
  | some held => exact held.string?

theorem ofStrings {texts : List String} (alike : Alike (.ofStrings texts) other) : other = .ofStrings texts := by
  cases alike with
  | @array _ others each =>
    refine congrArg Json.array ?_
    induction texts generalizing others with
    | nil =>
      cases each
      rfl
    | cons text rest ih =>
      cases each with
      | cons first later =>
        cases first
        rw [List.map_cons, ih later]

theorem course (alike : Alike value other) : Course.ofClaim? other = Course.ofClaim? value := by
  have types : (((other.member? "type").bind Json.array?).getD []).filterMap Json.string? =
      (((value.member? "type").bind Json.array?).getD []).filterMap Json.string? := by
    have held := alike.member? "type"
    generalize value.member? "type" = member, other.member? "type" = member' at held
    cases held with
    | none => rfl
    | some held => exact held.array?
  simp only [Course.ofClaim?, alike.textMember?, types]

theorem resourceLink (alike : Alike value other) : ResourceLink.ofClaim? other = ResourceLink.ofClaim? value := by
  simp only [ResourceLink.ofClaim?, alike.textMember?]

end Json.Alike

namespace Claims.Alike

variable {claims others : Claims}

theorem bind_get? {α : Type} (alike : claims.Alike others) {read? : Json → Option α}
    (each : ∀ {value other}, Json.Alike value other → read? other = read? value) {name : String}
    (plain : claims.IsPlainAt name) : (others.get? name).bind read? = (claims.get? name).bind read? := by
  have held := alike.get? plain
  generalize claims.get? name = value, others.get? name = other at held
  cases held with
  | none => rfl
  | some held => exact each held

/-- Claims that are alike tell of the same surroundings. -/
theorem ofClaims (alike : claims.Alike others)
    (plain : ∀ name ∈ ["context", "resource_link", "tool_platform"], claims.IsPlainAt (Rule.claimRoot "" ++ name)) :
    LaunchContext.ofClaims others = LaunchContext.ofClaims claims := by
  simp only [LaunchContext.ofClaims, alike.bind_get? Json.Alike.course (plain "context" (by decide)),
    alike.bind_get? Json.Alike.resourceLink (plain "resource_link" (by decide)),
    alike.bind_get? (fun {_ _} (held : Json.Alike _ _) => held.textMember? "name") (plain "tool_platform" (by decide))]

end Claims.Alike

namespace Slot

variable {slot : Slot} {text : String} {value other : Json}

/-- What a parameter says has no numbers in it, content items apart, so it is read again as it was. -/
theorem eq_of_alike (convertible : slot.parameter ≠ "content_items") (read : slot.read? text = some value)
    (alike : Json.Alike value other) : other = value := by
  cases slot with
  | free group name unmapped =>
    simp only [read?, Option.ite_none_left_eq_some, Option.some.injEq] at read
    obtain ⟨_, rfl⟩ := read
    cases alike
    rfl
  | ruled rule member =>
    rw [read?] at read
    cases kind : rule.kind with
    | text | messageType | flag =>
      rw [kind] at read
      cases read
      cases alike
      rfl
    | list | roles | contextTypes =>
      rw [kind] at read
      cases read
      exact alike.ofStrings
    | contentItems => exact absurd (Rule.parameter_of_contentItems rule member kind) convertible

end Slot

theorem Substitution.parse?_eq_none_of_placeholder {text : String} (pending : isPlaceholder text) :
    Json.parse? text = none := by
  cases chars : text.toList with
  | nil => rw [isPlaceholder, chars] at pending; cases pending
  | cons c rest =>
    obtain rfl : c = '$' := by simpa [isPlaceholder, chars] using pending
    rw [← @String.ofList_toList text, chars, Json.parse?_eq_none_of_dollar]

namespace LaunchDraft

variable {draft : LaunchDraft} {scheme : SignatureScheme} {platform : Platform} {tool : ToolRegistration}
  {substitutor : Substitutor} {stamp : TokenStamp} {hint : Claims} {slot : Slot}

theorem at?_hintClaims (apart : slot.place.claim ∉ Claims.hintNames) :
    (draft.hintClaims platform tool substitutor stamp).at? slot.place =
      ((draft.hintParameters platform tool substitutor).get? slot.parameter).bind slot.read? := by
  have own : Entries.get? (platform.hintEntries tool stamp) slot.place.claim = none :=
    Entries.get?_eq_none_iff.mpr apart
  rw [Claims.at?_eq_bind, get?_hintClaims, own, Option.none_or, ← Claims.at?_eq_bind, Claims.at?_ofParameters]

/-- Where a parameter stands among the claims of the hint, whoever reads the hint finds what it said. -/
theorem at?_of_alike_hintClaims
    (alike : (draft.hintClaims platform tool substitutor stamp).Alike hint)
    (plain : (draft.hintClaims platform tool substitutor stamp).IsPlainAt slot.place.claim)
    (apart : slot.place.claim ∉ Claims.hintNames) (convertible : slot.parameter ≠ "content_items") :
    hint.at? slot.place =
      ((draft.hintParameters platform tool substitutor).get? slot.parameter).bind slot.read? := by
  have held := alike.at? plain
  rw [at?_hintClaims apart] at held
  cases said : ((draft.hintParameters platform tool substitutor).get? slot.parameter).bind slot.read? with
  | none =>
    rw [said] at held
    generalize hint.at? slot.place = other at held
    cases held
    rfl
  | some value =>
    obtain ⟨text, _, read⟩ := Option.bind_eq_some_iff.mp said
    rw [said] at held
    generalize hint.at? slot.place = other at held
    cases held with
    | some held => rw [slot.eq_of_alike convertible read held]

theorem ofClaims_of_alike_hintClaims (alike : (draft.hintClaims platform tool substitutor stamp).Alike hint) :
    LaunchContext.ofClaims hint = LaunchContext.ofClaims (draft.hintClaims platform tool substitutor stamp) := by
  have closed : ∀ group : OpenGroup, ∀ name ∈ ["context", "resource_link", "tool_platform"],
      group.claim ≠ Rule.claimRoot "" ++ name := by
    rintro (_ | _) <;> decide
  exact alike.ofClaims fun name told => isPlainAt_hintClaims_of_apart fun group => closed group name told

/-- A hint that was read, with a placeholder in its custom claim, has a plain custom claim: otherwise the claim were
one text, and a placeholder cannot be read. -/
theorem isPlainAt_custom_of_pending (alike : (draft.hintClaims platform tool substitutor stamp).Alike hint)
    {name text : String} (pending : Substitution.isPlaceholder text)
    (held : (draft.hintClaims platform tool substitutor stamp).at? ⟨OpenGroup.custom.claim, some name⟩ =
      some (.string text)) :
    (draft.hintClaims platform tool substitutor stamp).IsPlainAt OpenGroup.custom.claim := by
  obtain ⟨whole, found, inside⟩ := Claims.at?_member_eq_some_iff.mp held
  by_contra unplain
  obtain ⟨_, members, _, found', raw⟩ := isRaw_of_not_isPlainAt unplain
  cases found.symm.trans found'
  obtain ⟨text', value, only, readable⟩ := alike.text _ _ found raw
  rw [Json.member?_ofMap, OrderedMap.get?, only, Entries.get?_cons] at inside
  split at inside
  · cases inside
    cases (Substitution.parse?_eq_none_of_placeholder pending).symm.trans readable
  · cases inside

end LaunchDraft

namespace LaunchAttempt

variable {attempt : LaunchAttempt} {scheme : SignatureScheme} {draft : LaunchDraft} {platform : Platform}
  {tool : ToolRegistration} {substitutors : ToolRegistration → Substitutor} {stamp : TokenStamp} {user : User}
  {login : LoginInitiation} {response : AuthenticationResponse}

/-- The request goes on with the login, and placeholders are replaced in the standard way. -/
structure Completes (attempt : LaunchAttempt) (login : LoginInitiation) : Prop where
  messageHint : text attempt.request.messageHint = login.messageHint
  standard : ∀ tool, attempt.collaborators.substitutor tool = Substitution.standard

/-- The id token for a login is signed for what was handed over in the hint, and for whoever logged in. -/
theorem exists_idToken_of_login
    (built : draft.build scheme platform tool substitutors stamp user = .ok (.login login))
    (completes : attempt.Completes login) (answered : attempt.answer = .ok response) :
    ∃ hint found caller, (draft.hintClaims platform tool (substitutors tool) stamp).Alike hint ∧
      attempt.Registered found ∧ attempt.LoggedIn caller ∧
      TokenCodec.issue attempt.scheme attempt.platform.key
        (attempt.platform.idTokenClaims Substitution.standard found caller (text attempt.request.nonce)
          attempt.stamp hint) = .ok response.idToken := by
  obtain ⟨issuedHint, _⟩ := LaunchDraft.login_of_build built
  obtain ⟨hint, found, caller, verified, registered, loggedIn, issued⟩ := signs_of_answer answered
  rw [hintResult, completes.messageHint] at verified
  rw [completes.standard found] at issued
  exact ⟨hint, found, caller, TokenCodec.alike_of_verify issuedHint verified, registered, loggedIn, issued⟩

end LaunchAttempt

end LtiPlatform
