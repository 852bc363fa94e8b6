import LtiPlatform.Proofs.Json.Rereading
import LtiPlatform.Proofs.Token.Acceptance

namespace LtiPlatform

/-- The same claims, and alike one by one but for those that are taken for a text. Such a text can be read, and
there is nothing beside it. -/
structure Claims.Alike (claims others : Claims) : Prop where
  each : ∀ name,
    Option.Rel (fun value other => value.isPlain → Json.Alike value other) (claims.get? name) (others.get? name)
  text : ∀ name members, claims.get? name = some (.object members) → Json.isRaw members →
    ∃ text value, members = [(Json.rawName, .string text)] ∧ Json.parse? text = some value

/-- An object of the claims is taken for a text, but is not for one that can be read. -/
def Claims.IsUnreadableAt (claims : Claims) (name : String) : Prop :=
  ∃ members, claims.get? name = some (.object members) ∧ Json.isRaw members ∧
    ∀ text, members = [(Json.rawName, .string text)] → Json.parse? text = none

theorem Claims.isUnreadableAt_of_text {claims : Claims} {name text : String}
    (held : claims.get? name = some (.object [(Json.rawName, .string text)])) (unread : Json.parse? text = none) :
    claims.IsUnreadableAt name := by
  refine ⟨_, held, by simp [Json.isRaw], fun other same => ?_⟩
  cases same
  exact unread

theorem Claims.IsUnreadableAt.not_isPlainAt {claims : Claims} {name : String}
    (unreadable : claims.IsUnreadableAt name) : ¬ claims.IsPlainAt name := by
  obtain ⟨members, held, raw, _⟩ := unreadable
  intro plain
  have ordinary := (Json.isPlain_object_iff.mp (plain _ held)).1
  rw [raw] at ordinary
  cases ordinary

/-- Portable claims that are each plain or one object for a text come back if every such text can be read, and the
plain ones come back as they are. -/
theorem Claims.Portable.exists_parsed {claims : Claims} (portable : claims.Portable)
    (raw : ∀ name, ¬ claims.IsPlainAt name →
      ∃ members, claims.get? name = some (.object members) ∧ Json.isRaw members)
    (readable : ∀ name, ¬ claims.IsUnreadableAt name) :
    ∃ found, Json.parseMap? (Json.ofMap claims).compact = some found ∧
      ∀ name, claims.IsPlainAt name → found.get? name = claims.get? name := by
  have whole : (Json.ofMap claims).Portable 3 := .ofMap portable.values
  have each : ∀ member ∈ claims.entries, ∃ value, Json.unwrap? Json.parse? member.2 = some value := by
    intro member listed
    have held := OrderedMap.mem_entries_iff.mp listed
    by_cases plain : claims.IsPlainAt member.1
    · exact ⟨member.2, Json.unwrap?_of_isPlain _ (plain _ held)⟩
    · obtain ⟨members, held', isRaw⟩ := raw _ plain
      by_contra unread
      refine readable member.1 ⟨members, held', isRaw, fun text only => ?_⟩
      rw [Option.eq_none_iff_forall_not_mem]
      intro value parsed
      refine unread ⟨value, ?_⟩
      rw [Option.some.inj (held.symm.trans held'), Json.unwrap?, if_pos isRaw, only]
      exact parsed
  obtain ⟨members, unwrapped⟩ := Json.exists_unwrapMembers? each
  have known : Json.mapOf? claims.entries = some _ := congrArg (Option.map _) unwrapped
  refine ⟨_, (Json.parseMap?_compact_of_portable whole (Nat.le_trans whole.nested (by decide))).trans known,
    fun name plain => Json.get?_of_mapOf? known fun value held => ?_⟩
  exact ⟨plain value held, (portable.values name value held).settled⟩

namespace Claims.Alike

variable {claims others : Claims}

theorem get?_eq_none_iff (alike : claims.Alike others) (name : String) :
    others.get? name = none ↔ claims.get? name = none := by
  have held := alike.each name
  generalize claims.get? name = value, others.get? name = other at held
  cases held with
  | none => exact Iff.rfl
  | some _ => simp

theorem get? (alike : claims.Alike others) {name : String} (plain : claims.IsPlainAt name) :
    Option.Rel Json.Alike (claims.get? name) (others.get? name) := by
  have held := alike.each name
  rw [Claims.IsPlainAt] at plain
  generalize claims.get? name = value, others.get? name = other at held plain
  cases held with
  | none => exact .none
  | some held => exact .some (held (plain _ rfl))

theorem at? (alike : claims.Alike others) {place : Place} (plain : claims.IsPlainAt place.claim) :
    Option.Rel Json.Alike (claims.at? place) (others.at? place) := by
  have held := alike.get? plain
  rw [Claims.at?, Claims.at?]
  cases place.member with
  | none => exact held
  | some name =>
    generalize OrderedMap.get? claims place.claim = value, OrderedMap.get? others place.claim = other at held
    cases held with
    | none => exact .none
    | some held => exact held.member? name

end Claims.Alike

namespace TokenCodec

variable {scheme verifying : SignatureScheme} {codec : TokenCodec} {keys : KeySet} {key : SigningKey}
  {now : Nat} {claims found : Claims} {token : String}

theorem alike_of_readPayload
    (read : readPayload (Base64.encodeUrl (.ofText (Json.ofMap claims).compact)) = .ok found) :
    claims.Alike found := by
  obtain ⟨bytes, text, _, decodes, isText, written, isMap, _⟩ := readPayload_eq_ok_iff.mp read
  cases (Base64.decodeUrl?_encodeUrl _).symm.trans decodes
  cases (Bytes.toText?_ofText _).symm.trans isText
  have parsed : Json.parseMap? (Json.ofMap claims).compact = some found := by
    simp only [Json.parseMap?, written, isMap]
  exact ⟨Json.alike_of_parseMap? parsed, fun _ _ held raw => Json.exists_text_of_parseMap? parsed held raw⟩

/-- A payload in base64 can only be refused for what it says. -/
theorem eq_of_readPayload {bytes : Bytes} {cause : TokenError}
    (refused : readPayload (Base64.encodeUrl bytes) = .error cause) : cause = .verification .payloadNotJson := by
  simp only [readPayload, Base64.decodeUrl?_encodeUrl] at refused
  split at refused
  · split at refused
    · split at refused
      · cases refused
      · cases refused
        rfl
    · cases refused
      rfl
  · cases refused
    rfl

/-- A single object that cannot be read leaves nothing of the claims. -/
theorem readPayload_of_unreadable {name : String} (unreadable : claims.IsUnreadableAt name) :
    readPayload (Base64.encodeUrl (.ofText (Json.ofMap claims).compact)) = .error (.verification .payloadNotJson) := by
  obtain ⟨members, held, raw, unread⟩ := unreadable
  cases read : readPayload (Base64.encodeUrl (.ofText (Json.ofMap claims).compact)) with
  | ok found =>
    obtain ⟨text, value, rfl, parsed⟩ := (alike_of_readPayload read).text name members held raw
    cases (unread text rfl).symm.trans parsed
  | error cause => rw [eq_of_readPayload read]

/-- No token for such claims is ever accepted, whatever the time is. -/
theorem verify_issue_of_unreadable (made : key.IsMade) (accepts : scheme.Accepts key)
    (allowed : key.algorithm ∈ codec.algorithms) (found : keys.find? key.id = some key.publicKey)
    (issued : issue scheme key claims = .ok token) {name : String} (unreadable : claims.IsUnreadableAt name) :
    verify scheme codec keys now token = .error (.verification .payloadNotJson) := by
  rw [verify_issue_of_payload made accepts allowed found issued, readPayload_of_unreadable unreadable]
  rfl

/-- What is read from a token is alike to what it was issued for, whatever the time and the keys are. -/
theorem alike_of_verify (issued : issue scheme key claims = .ok token)
    (verified : verify verifying codec keys now token = .ok found) : claims.Alike found := by
  obtain ⟨segments, _, cut, _, isPayload, _⟩ := segments_of_issue issued
  obtain ⟨segments', _, _, cut', _, _, _, _, payload, _⟩ := verify_eq_ok_iff.mp verified
  cases cut.symm.trans cut'
  rw [isPayload] at payload
  exact alike_of_readPayload payload

end TokenCodec

end LtiPlatform
