import LtiPlatform.Token.Codec
import LtiPlatform.Proofs.Json.Rereading
import LtiPlatform.Proofs.Token.Keys

namespace LtiPlatform

namespace TokenSegments

theorem cutLast?_append {before after : List Char} (noDot : '.' ∉ after) :
    cutLast? (before ++ '.' :: after) = some (before, after) := by
  have solid : ∀ c ∈ after.reverse, decide (c ≠ '.') = true := by
    intro c member
    refine decide_eq_true ?_
    rintro rfl
    exact noDot (List.mem_reverse.mp member)
  have reversed : (before ++ '.' :: after).reverse = after.reverse ++ '.' :: before.reverse := by simp
  have rest : (after.reverse ++ '.' :: before.reverse).dropWhile (· ≠ '.') = '.' :: before.reverse := by
    rw [List.dropWhile_append_of_pos solid, List.dropWhile_cons_of_neg (by decide)]
  have last : (after.reverse ++ '.' :: before.reverse).takeWhile (· ≠ '.') = after.reverse := by
    rw [List.takeWhile_append_of_pos solid, List.takeWhile_cons_of_neg (by decide), List.append_nil]
  simp only [cutLast?, reversed, rest, last, List.reverse_reverse]

theorem ofText?_toText {segments : TokenSegments} (payload : '.' ∉ segments.payload.toList)
    (signature : '.' ∉ segments.signature.toList) : ofText? segments.toText = some segments := by
  have signed : segments.signedText.toList =
      segments.header.toList ++ '.' :: segments.payload.toList := by simp [signedText]
  have whole : segments.toText.toList =
      segments.signedText.toList ++ '.' :: segments.signature.toList := by simp [toText]
  simp only [ofText?, whole, cutLast?_append signature, signed, cutLast?_append payload,
    Option.bind_eq_bind, Option.bind_some, String.ofList_toList]

end TokenSegments

namespace Algorithm

@[simp]
theorem ofName?_name (algorithm : Algorithm) : ofName? algorithm.name = some algorithm := by
  cases algorithm <;> decide

end Algorithm

namespace Record

theorem check?_named {members : List (String × WrittenJson)} (distinct : Entries.keys members |>.Nodup)
    (fields : List String) (complete : Bool) :
    (named members).check? fields complete = some (named members) := by
  refine if_pos (List.all_eq_true.mpr fun field _ => ?_)
  exact decide_eq_true (Entries.length_filter_le_one distinct)

end Record

namespace TokenHeader

theorem ofMembers?_written (algorithm : Algorithm) (id : String) :
    ofMembers? [("typ", .string (some "JWT")), ("alg", .string (some algorithm.name)),
      ("kid", .string (some id))] = some ⟨algorithm, some id⟩ := by
  have distinct : (Entries.keys [("typ", WrittenJson.string (some "JWT")),
      ("alg", .string (some algorithm.name)), ("kid", .string (some id))]).Nodup :=
    show ["typ", "alg", "kid"].Nodup by decide
  rw [ofMembers?, Record.check?_named distinct]
  simp [Record.value?, Record.optionalText?, List.lookup_cons, WrittenJson.alternative?,
    WrittenJson.string?, isFit, textNames]

/-- A header with a key id is read back from its text. -/
theorem ofText?_toText (algorithm : Algorithm) (id : String) :
    ofText? (toText ⟨algorithm, some id⟩) = some ⟨algorithm, some id⟩ := by
  have members : (OrderedMap.ofList [("typ", .string "JWT"), ("alg", Json.string algorithm.name)]
      |>.insertSome "kid" ((some id).map .string)).entries =
      [("typ", .string "JWT"), ("alg", .string algorithm.name), ("kid", .string id)] := rfl
  have written : Record.parse? (toText ⟨algorithm, some id⟩) = some (.named
      [("typ", .string (some "JWT")), ("alg", .string (some algorithm.name)),
        ("kid", .string (some id))]) := by
    rw [Record.parse?, toText, Json.ofMap, members,
      Json.written?_compact (by simp [Json.numbers, Json.numbersOfMembers])]
    rfl
  rw [ofText?, written]
  exact ofMembers?_written algorithm id

end TokenHeader

namespace Claims

/-- The text of the claims is read as the claims. -/
def ReadsBack (claims : Claims) : Prop := Json.parseMap? (Json.ofMap claims).compact = some claims

/-- The value of a claim, if it is there, has no object in it that is taken for a text. -/
def IsPlainAt (claims : Claims) (name : String) : Prop :=
  ∀ value, claims.get? name = some value → value.isPlain

/-- Claims that nothing happens to on their way through a token, if none of them is taken for a text. -/
structure Portable (claims : Claims) : Prop where
  values : ∀ name value, claims.get? name = some value → value.Portable 2
  registered : ∀ name ∈ TokenCodec.registeredNames, ∀ value, claims.get? name = some value →
    value.isScalar

theorem Portable.readsBack {claims : Claims} (portable : claims.Portable) (plain : ∀ name, claims.IsPlainAt name) :
    claims.ReadsBack := by
  have whole : (Json.ofMap claims).Portable 3 := .ofMap portable.values
  exact Json.parseMap?_compact whole plain (Nat.le_trans whole.nested (by decide))

end Claims

/-- The registered claims that verification reads can be read: no subject is a list or an object, and no
time is one with something in it. -/
structure Claims.Legible (claims : Claims) : Prop where
  subject : ∀ value, claims.get? "sub" = some value → value.isScalar
  times : ∀ name ∈ ["exp", "nbf"], ∀ value, claims.get? name = some value →
    value.isScalar ∨ value = .array [] ∨ value = .object []

theorem Claims.Portable.legible {claims : Claims} (portable : claims.Portable) : claims.Legible where
  subject := portable.registered "sub" (by decide)
  times name time value found := by
    have registered : ∀ name ∈ ["exp", "nbf"], name ∈ TokenCodec.registeredNames := by decide
    exact .inl (portable.registered name (registered name time) value found)

namespace TokenCodec

variable {claims : Claims}

theorem isReadable_iff_legible : isReadable claims.entries ↔ claims.Legible := by
  have once : ∀ name ∈ registeredNames, decide ((claims.entries.filter (·.1 == name)).length ≤ 1) = true :=
    fun name _ => decide_eq_true (Entries.length_filter_le_one claims.distinct)
  have empty : ∀ value : Json, (!value.hasContents) = true ↔
      (value.isScalar ∨ value = .array [] ∨ value = .object []) := by
    intro value
    cases value <;> simp [Json.hasContents, Json.isScalar]
  rw [isReadable, Bool.and_eq_true, List.all_eq_true, List.all_eq_true]
  constructor
  · rintro ⟨_, each⟩
    refine ⟨fun value found => each _ (OrderedMap.mem_entries_iff.mpr found), fun name time value found => ?_⟩
    have fits := each _ (OrderedMap.mem_entries_iff.mpr found)
    simp only [List.mem_cons, List.not_mem_nil, or_false] at time
    rcases time with rfl | rfl
    · exact (empty value).mp fits
    · exact (empty value).mp fits
  · intro legible
    refine ⟨once, fun entry member => ?_⟩
    have found := OrderedMap.mem_entries_iff.mp member
    unfold isReadableAs
    split
    · next same => exact legible.subject _ (same ▸ found)
    · next same => exact (empty _).mpr (legible.times "exp" (by decide) _ (same ▸ found))
    · next same => exact (empty _).mpr (legible.times "nbf" (by decide) _ (same ▸ found))
    · rfl

/-- Whether claims can be read does not depend on their numbers. -/
theorem isReadable_reread {members others : List (String × Json)} (each : Json.RereadMembers members others) :
    isReadable others = isReadable members := by
  have held : ∀ {value other : Json}, Json.Reread value other → ∀ name,
      isReadableAs name other = isReadableAs name value := by
    intro value other reread name
    simp only [isReadableAs, reread.scalar, reread.contents]
  have counts : ∀ name, (others.filter (·.1 == name)).length = (members.filter (·.1 == name)).length := by
    intro name
    induction each with
    | nil => rfl
    | cons first _ ih =>
      rw [List.filter_cons, List.filter_cons, first.1]
      split
      · rw [List.length_cons, List.length_cons, ih]
      · exact ih
  have alls : (others.all fun member => isReadableAs member.1 member.2) =
      members.all fun member => isReadableAs member.1 member.2 := by
    clear counts
    induction each with
    | nil => rfl
    | cons first _ ih => rw [List.all_cons, List.all_cons, ih, first.1, held first.2]
  simp only [isReadable, counts, alls]

/-- A payload is taken for what its text is read as, unless its registered claims cannot be read. -/
theorem readPayload_compact {found : Claims} (parsed : Json.parseMap? (Json.ofMap claims).compact = some found) :
    readPayload (Base64.encodeUrl (.ofText (Json.ofMap claims).compact)) =
      if isReadable claims.entries then .ok found else .error (.verification .payloadNotJson) := by
  rw [Json.parseMap?] at parsed
  split at parsed
  · next members reads =>
    obtain ⟨_, same, each⟩ := Json.reread_of_parseWritten? reads
    cases same
    simp [readPayload, reads, parsed, isReadable_reread each]
  · cases parsed

end TokenCodec

namespace TokenCodec

variable {scheme : SignatureScheme} {key : SigningKey} {claims : Claims} {token : String}

theorem exists_issue_of_canSign (canSign : scheme.CanSign key) (claims : Claims) :
    ∃ token, issue scheme key claims = .ok token := by
  obtain ⟨signature, signed⟩ := Option.isSome_iff_exists.mp <| canSign <| .ofText <|
    (TokenSegments.ofTexts (TokenHeader.toText ⟨key.algorithm, some key.id⟩)
      (Json.ofMap claims).compact []).signedText
  exact ⟨_, by simp only [issue, signed]; rfl⟩

/-- What an issued token is cut into, and what its signature is of. -/
theorem segments_of_issue (issued : issue scheme key claims = .ok token) :
    ∃ segments signature, TokenSegments.ofText? token = some segments ∧
      segments.header = Base64.encodeUrl (.ofText (TokenHeader.toText ⟨key.algorithm, some key.id⟩)) ∧
      segments.payload = Base64.encodeUrl (.ofText (Json.ofMap claims).compact) ∧
      segments.signature = Base64.encodeUrl signature ∧
      scheme.sign? key.secret (.ofText segments.signedText) = some signature := by
  simp only [issue] at issued
  split at issued
  · cases issued
  · next signature signed =>
    cases issued
    exact ⟨_, signature, TokenSegments.ofText?_toText (Base64.dot_not_mem_encodeUrl _)
      (Base64.dot_not_mem_encodeUrl _), rfl, rfl, rfl, signed⟩

/-- Under the public key of its key, an issued token is judged by what its payload is read as. -/
theorem verify_issue_of_payload {codec : TokenCodec} {keys : KeySet} (made : key.IsMade)
    (accepts : scheme.Accepts key) (allowed : key.algorithm ∈ codec.algorithms)
    (found : keys.find? key.id = some key.publicKey) (issued : issue scheme key claims = .ok token)
    (now : Nat) :
    verify scheme codec keys now token =
      (readPayload (Base64.encodeUrl (.ofText (Json.ofMap claims).compact))).bind fun read =>
        (codec.checkExpiry now read).map fun _ => read := by
  obtain ⟨_, use, asymmetric, family, verifyingKey, decodes⟩ := made.isPublishedWell
  obtain ⟨segments, signature, cut, isHeader, isPayload, isSignature, signed⟩ := segments_of_issue issued
  have header : readHeader segments.header = .ok ⟨key.algorithm, some key.id⟩ := by
    simp [isHeader, readHeader, TokenHeader.ofText?_toText]
  have chosen : keyFor keys ⟨key.algorithm, some key.id⟩ = .ok key.publicKey := by
    simp only [keyFor, found, use, KeyUse.tokenAlgorithm?, List.contains_iff_mem.mpr asymmetric, if_true]
  have genuine := accepts _ signature verifyingKey signed decodes
  rw [verify, cut]
  simp only [header, bind, Except.bind, List.contains_iff_mem.mpr allowed, if_true, chosen,
    checkSignature, decodes, family, ne_eq, not_true_eq_false, if_false, isSignature,
    Base64.decodeUrl?_encodeUrl, genuine, isPayload]
  cases readPayload (Base64.encodeUrl (.ofText (Json.ofMap claims).compact)) with
  | error cause => rfl
  | ok read => cases codec.checkExpiry now read <;> rfl

theorem checkExpiry_congr {codec : TokenCodec} {now : Nat} {others : Claims}
    (same : claims.get? "exp" = others.get? "exp") : codec.checkExpiry now claims = codec.checkExpiry now others := by
  simp only [checkExpiry, same]

/-- Whether a token for claims that can be read is accepted depends on nothing but the time. -/
theorem verify_issue_of_parsed {codec : TokenCodec} {keys : KeySet} (made : key.IsMade)
    (accepts : scheme.Accepts key) (allowed : key.algorithm ∈ codec.algorithms)
    (found : keys.find? key.id = some key.publicKey) {read : Claims}
    (parsed : Json.parseMap? (Json.ofMap claims).compact = some read) (legible : claims.Legible)
    (issued : issue scheme key claims = .ok token) (now : Nat) :
    verify scheme codec keys now token = (codec.checkExpiry now read).map fun _ => read := by
  rw [verify_issue_of_payload made accepts allowed found issued, readPayload_compact parsed,
    if_pos (isReadable_iff_legible.mpr legible)]
  rfl

theorem verify_issue {codec : TokenCodec} {keys : KeySet} (made : key.IsMade)
    (accepts : scheme.Accepts key) (allowed : key.algorithm ∈ codec.algorithms)
    (found : keys.find? key.id = some key.publicKey) (back : claims.ReadsBack) (legible : claims.Legible)
    (issued : issue scheme key claims = .ok token) (now : Nat) :
    verify scheme codec keys now token = (codec.checkExpiry now claims).map fun _ => claims :=
  verify_issue_of_parsed made accepts allowed found back legible issued now

end TokenCodec

end LtiPlatform
