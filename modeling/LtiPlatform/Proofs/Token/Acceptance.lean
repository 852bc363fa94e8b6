import Mathlib.Tactic.Common
import LtiPlatform.Proofs.Token.RoundTrip

namespace LtiPlatform

theorem bind_eq_ok_iff {ε α β : Type} {result : Except ε α} {next : α → Except ε β} {value : β} :
    (result >>= next) = .ok value ↔ ∃ found, result = .ok found ∧ next found = .ok value := by
  cases result with
  | error cause => exact ⟨fun wrong => (by cases wrong), fun ⟨_, wrong, _⟩ => (by cases wrong)⟩
  | ok found => exact ⟨fun done => ⟨found, rfl, done⟩, fun ⟨_, same, done⟩ => (by cases same; exact done)⟩

namespace TokenSegments

theorem eq_append_of_cutLast? {text before after : List Char} (cut : cutLast? text = some (before, after)) :
    text = before ++ '.' :: after ∧ '.' ∉ after := by
  have split := List.takeWhile_append_dropWhile (p := (· ≠ '.')) (l := text.reverse)
  have first := List.head?_dropWhile_not (· ≠ '.') text.reverse
  simp only [cutLast?] at cut
  generalize text.reverse.dropWhile (· ≠ '.') = rest at split first cut
  cases rest with
  | nil => cases cut
  | cons dot earlier =>
    have isDot : dot = '.' := by simpa using first
    subst isDot
    cases cut
    refine ⟨?_, fun member => ?_⟩
    · rw [← List.reverse_reverse text]
      nth_rewrite 1 [← split]
      simp
    · have solid := List.mem_takeWhile_imp (List.mem_reverse.mp member)
      simp at solid

/-- The token is the segments with dots between them, the last two of them free of dots. -/
structure AreOf (segments : TokenSegments) (token : String) : Prop where
  text : token = segments.toText
  payload : '.' ∉ segments.payload.toList
  signature : '.' ∉ segments.signature.toList

theorem ofText?_eq_some_iff {segments : TokenSegments} {token : String} :
    ofText? token = some segments ↔ segments.AreOf token := by
  constructor
  · intro cut
    obtain ⟨⟨signed, signature⟩, last, cut⟩ := Option.bind_eq_some_iff.mp cut
    obtain ⟨⟨header, payload⟩, first, cut⟩ := Option.bind_eq_some_iff.mp cut
    obtain ⟨whole, noDot⟩ := eq_append_of_cutLast? last
    obtain ⟨inner, noDot'⟩ := eq_append_of_cutLast? first
    cases cut
    refine ⟨String.toList_inj.mp ?_, by simpa using noDot', by simpa using noDot⟩
    simp [whole, inner, toText, signedText]
  · rintro ⟨rfl, payload, signature⟩
    exact ofText?_toText payload signature

end TokenSegments

namespace KeySet

/-- The key is the first of the set that carries the id. -/
def IsFirst (keys : KeySet) (id : String) (key : Jwk) : Prop :=
  key.id = some id ∧ ∃ before after, keys.keys = before ++ key :: after ∧
    ∀ other ∈ before, other.id ≠ some id

theorem find?_eq_some_iff {keys : KeySet} {id : String} {key : Jwk} :
    keys.find? id = some key ↔ keys.IsFirst id key := by
  simp only [find?, IsFirst, List.find?_eq_some_iff_append, beq_iff_eq, Bool.not_eq_eq_eq_not,
    Bool.not_true, beq_eq_false_iff_ne]

end KeySet

/-- One decision about which tokens are accepted. -/
inductive CodecSetting where
  | leeway (seconds : Nat)
  | algorithms (algorithms : List Algorithm)

/-- The list of algorithms that was given last. -/
def CodecSetting.lastGiven? : List CodecSetting → Option (List Algorithm)
  | [] => none
  | .leeway _ :: rest => lastGiven? rest
  | .algorithms given :: rest => (lastGiven? rest).or (some given)

open CodecSetting (lastGiven?)

namespace TokenCodec

def set (codec : TokenCodec) : CodecSetting → TokenCodec
  | .leeway seconds => codec.withLeeway seconds
  | .algorithms given => codec.withAlgorithms given

def ofSettings (settings : List CodecSetting) : TokenCodec := settings.foldl set {}

theorem algorithms_foldl_set (codec : TokenCodec) (settings : List CodecSetting) :
    (settings.foldl set codec).algorithms =
      ((lastGiven? settings).map (·.filter Algorithm.asymmetric.contains)).getD codec.algorithms := by
  induction settings generalizing codec with
  | nil => rfl
  | cons setting rest ih =>
    rw [List.foldl_cons, ih]
    cases setting with
    | leeway seconds => rfl
    | algorithms given =>
      rw [lastGiven?]
      cases lastGiven? rest <;> rfl

/-- However a codec was set up, it lets in asymmetric algorithms of the last list only. -/
theorem mem_algorithms_ofSettings {settings : List CodecSetting} {algorithm : Algorithm} :
    algorithm ∈ (ofSettings settings).algorithms ↔
      algorithm ∈ Algorithm.asymmetric ∧
        ∀ given, lastGiven? settings = some given → algorithm ∈ given := by
  rw [ofSettings, algorithms_foldl_set]
  cases lastGiven? settings with
  | none => simp
  | some given => simp [and_comm]

example : (ofSettings [.algorithms [.hs256, .es256], .leeway 5]).algorithms = [.es256] := by decide

/-- The key is the first under the id of the header and is used as it declares. -/
structure Chooses (keys : KeySet) (header : TokenHeader) (key : Jwk) : Prop where
  first : ∃ id, header.keyId = some id ∧ keys.IsFirst id key
  declared : ∀ use, key.use = some use → use = .signing header.algorithm

theorem tokenAlgorithm?_eq_some_iff {use : KeyUse} {algorithm : Algorithm}
    (asymmetric : algorithm ∈ Algorithm.asymmetric) :
    use.tokenAlgorithm? = some algorithm ↔ use = .signing algorithm := by
  cases use with
  | signing declared =>
    simp only [KeyUse.tokenAlgorithm?, Option.ite_none_right_eq_some, Option.some.injEq,
      KeyUse.signing.injEq, List.contains_iff_mem]
    exact ⟨And.right, fun same => ⟨same ▸ asymmetric, same⟩⟩
  | _ => simp [KeyUse.tokenAlgorithm?]

theorem keyFor_eq_ok_iff {keys : KeySet} {header : TokenHeader} {key : Jwk}
    (asymmetric : header.algorithm ∈ Algorithm.asymmetric) :
    keyFor keys header = .ok key ↔ Chooses keys header key := by
  have chosen : Chooses keys header key ↔ ∃ id, header.keyId = some id ∧ keys.find? id = some key ∧
      ∀ use, key.use = some use → use.tokenAlgorithm? = some header.algorithm := by
    simp only [tokenAlgorithm?_eq_some_iff asymmetric, KeySet.find?_eq_some_iff]
    exact ⟨fun ⟨⟨id, named, first⟩, declared⟩ => ⟨id, named, first, declared⟩,
      fun ⟨id, named, first, declared⟩ => ⟨⟨id, named, first⟩, declared⟩⟩
  rw [chosen, keyFor]
  cases header.keyId with
  | none => simp
  | some id =>
    cases found : keys.find? id with
    | none => simp [found]
    | some held =>
      simp only [Option.some.injEq, exists_eq_left', found]
      cases use : held.use with
      | none =>
        constructor
        · intro chosen
          cases chosen
          exact ⟨rfl, fun declared same => (by cases use.symm.trans same)⟩
        · rintro ⟨rfl, _⟩
          rfl
      | some declared =>
        by_cases fits : declared.tokenAlgorithm? = some header.algorithm
        · simp only [fits, if_true, Except.ok.injEq]
          refine ⟨?_, And.left⟩
          rintro rfl
          refine ⟨rfl, fun other same => ?_⟩
          cases use.symm.trans same
          exact fits
        · simp only [fits, if_false, reduceCtorEq, false_iff, not_and]
          rintro rfl
          exact fun all => fits (all declared use)

/-- The key is of the kind that the algorithm needs, and the signature is one of the text before the
last dot under the key. -/
structure Signed (scheme : SignatureScheme) (header : TokenHeader) (key : Jwk) (segments : TokenSegments) :
    Prop where
  family : key.material.family = header.algorithm.family
  signature : ∃ verifyingKey signature, key.material.decode? = some verifyingKey ∧
    Base64.decodeUrl? segments.signature = some signature ∧
    scheme.verify header.algorithm verifyingKey (.ofText segments.signedText) signature

theorem checkSignature_eq_ok_iff {scheme : SignatureScheme} {header : TokenHeader} {key : Jwk}
    {segments : TokenSegments} :
    checkSignature scheme header key segments = .ok () ↔ Signed scheme header key segments := by
  rw [checkSignature]
  constructor
  · intro checked
    split at checked
    · cases checked
    next verifyingKey decodes =>
    split at checked
    · cases checked
    next family =>
    split at checked
    · cases checked
    next signature reads =>
    split at checked
    · next genuine => exact ⟨not_not.mp family, verifyingKey, signature, decodes, reads, genuine⟩
    · cases checked
  · rintro ⟨family, verifyingKey, signature, decodes, reads, genuine⟩
    simp only [decodes, family, ne_eq, not_true_eq_false, if_false, reads, genuine, if_true]

/-- The segment is the JSON object of the claims in base64, and the registered claims in it can be
read. -/
def Says (segment : String) (claims : Claims) : Prop :=
  ∃ bytes text members, Base64.decodeUrl? segment = some bytes ∧ Bytes.toText? bytes = some text ∧
    Json.parseWritten? Json.depthLimit text = some (.object members) ∧
    Json.mapOf? members = some claims ∧ isReadable members

theorem readPayload_eq_ok_iff {segment : String} {claims : Claims} :
    readPayload segment = .ok claims ↔ Says segment claims := by
  rw [readPayload]
  constructor
  · intro read
    split at read
    · cases read
    next bytes decodes =>
    split at read
    · next members written =>
      obtain ⟨text, isText, written⟩ := Option.bind_eq_some_iff.mp written
      split at read
      · next found isMap =>
        split at read
        · next readable =>
          cases read
          exact ⟨bytes, text, members, decodes, isText, written, isMap, readable⟩
        · cases read
      · cases read
    · cases read
  · rintro ⟨bytes, text, members, decodes, isText, written, isMap, readable⟩
    simp only [decodes, isText, Option.bind_some, written, isMap, readable, if_true]

/-- What a token must be to be accepted, apart from its expiry: a header that names an algorithm and a
key, a signature under that key, and the claims. -/
structure Accepts (scheme : SignatureScheme) (settings : List CodecSetting) (keys : KeySet)
    (token : String) (segments : TokenSegments) (header : TokenHeader) (key : Jwk) (claims : Claims) :
    Prop where
  cut : segments.AreOf token
  read : readHeader segments.header = .ok header
  asymmetric : header.algorithm ∈ Algorithm.asymmetric
  listed : ∀ given, lastGiven? settings = some given → header.algorithm ∈ given
  chosen : Chooses keys header key
  signed : Signed scheme header key segments
  payload : Says segments.payload claims

section Verify

variable {scheme : SignatureScheme} {codec : TokenCodec} {keys : KeySet} {now : Nat} {token : String}
  {segments : TokenSegments} {header : TokenHeader} {claims : Claims}

theorem verify_of_header (cut : TokenSegments.ofText? token = some segments)
    (read : readHeader segments.header = .ok header) :
    verify scheme codec keys now token =
      if codec.algorithms.contains header.algorithm then do
        let key ← keyFor keys header
        checkSignature scheme header key segments
        let claims ← readPayload segments.payload
        codec.checkExpiry now claims
        return claims
      else .error (.algorithmNotAllowed header.algorithm.name) := by
  rw [verify, cut]
  simp only [read]
  rfl

theorem exists_header_of_verify (verified : verify scheme codec keys now token = .ok claims) :
    ∃ segments header, TokenSegments.ofText? token = some segments ∧
      readHeader segments.header = .ok header := by
  rw [verify] at verified
  split at verified
  · cases verified
  next segments cut =>
  cases read : readHeader segments.header with
  | error cause =>
    rw [read] at verified
    cases verified
  | ok header => exact ⟨segments, header, cut, read⟩

theorem verify_eq_ok_iff : verify scheme codec keys now token = .ok claims ↔
    ∃ segments header key, TokenSegments.ofText? token = some segments ∧
      readHeader segments.header = .ok header ∧ header.algorithm ∈ codec.algorithms ∧
      keyFor keys header = .ok key ∧ checkSignature scheme header key segments = .ok () ∧
      readPayload segments.payload = .ok claims ∧ codec.checkExpiry now claims = .ok () := by
  constructor
  · intro verified
    obtain ⟨segments, header, cut, read⟩ := exists_header_of_verify verified
    rw [verify_of_header cut read] at verified
    split at verified
    · next allowed =>
      obtain ⟨key, chosen, verified⟩ := bind_eq_ok_iff.mp verified
      obtain ⟨_, signed, verified⟩ := bind_eq_ok_iff.mp verified
      obtain ⟨claims', payload, verified⟩ := bind_eq_ok_iff.mp verified
      obtain ⟨_, current, verified⟩ := bind_eq_ok_iff.mp verified
      cases verified
      exact ⟨segments, header, key, cut, read, List.contains_iff_mem.mp allowed, chosen, signed, payload, current⟩
    · cases verified
  · rintro ⟨segments, header, key, cut, read, allowed, chosen, signed, payload, current⟩
    rw [verify_of_header cut read, if_pos (List.contains_iff_mem.mpr allowed), chosen]
    simp only [bind, Except.bind, signed, payload, current]
    rfl

/-- Whatever a codec is told, it accepts a token exactly if the header names an asymmetric algorithm of
the list given last and the id of a key, the first key with that id is of the right kind and declares no
other algorithm, the signature is good under it, and the claims are those of the payload and have not
expired. A token under a shared secret is refused, whatever the keys are. -/
theorem verify_ofSettings (scheme : SignatureScheme) (settings : List CodecSetting) (keys : KeySet)
    (now : Nat) (token : String) :
    (∀ claims, verify scheme (ofSettings settings) keys now token = .ok claims ↔
      (∃ segments header key, Accepts scheme settings keys token segments header key claims) ∧
        (ofSettings settings).checkExpiry now claims = .ok ()) ∧
    ∀ (segments : TokenSegments) (header : TokenHeader), segments.AreOf token →
      readHeader segments.header = .ok header → header.algorithm ∈ [.hs256, .hs384, .hs512] →
        verify scheme (ofSettings settings) keys now token =
          .error (.algorithmNotAllowed header.algorithm.name) := by
  constructor
  · intro claims
    rw [verify_eq_ok_iff]
    constructor
    · rintro ⟨segments, header, key, cut, read, allowed, chosen, signed, payload, current⟩
      obtain ⟨asymmetric, listed⟩ := mem_algorithms_ofSettings.mp allowed
      exact ⟨⟨segments, header, key, TokenSegments.ofText?_eq_some_iff.mp cut, read, asymmetric, listed,
        (keyFor_eq_ok_iff asymmetric).mp chosen, checkSignature_eq_ok_iff.mp signed,
        readPayload_eq_ok_iff.mp payload⟩, current⟩
    · rintro ⟨⟨segments, header, key, accepts⟩, current⟩
      exact ⟨segments, header, key, TokenSegments.ofText?_eq_some_iff.mpr accepts.cut, accepts.read,
        mem_algorithms_ofSettings.mpr ⟨accepts.asymmetric, accepts.listed⟩,
        (keyFor_eq_ok_iff accepts.asymmetric).mpr accepts.chosen,
        checkSignature_eq_ok_iff.mpr accepts.signed, readPayload_eq_ok_iff.mpr accepts.payload, current⟩
  · intro segments header cut read symmetric
    have secret : ∀ algorithm ∈ [Algorithm.hs256, .hs384, .hs512], algorithm ∉ Algorithm.asymmetric := by
      decide
    have refused : ¬ (ofSettings settings).algorithms.contains header.algorithm = true := by
      rw [List.contains_iff_mem, mem_algorithms_ofSettings]
      exact fun allowed => secret _ symmetric allowed.1
    rw [verify_of_header (TokenSegments.ofText?_eq_some_iff.mpr cut) read, if_neg refused]

end Verify

end TokenCodec

end LtiPlatform
