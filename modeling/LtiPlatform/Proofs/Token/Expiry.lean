import LtiPlatform.Launch.Platform
import LtiPlatform.Proofs.Token.Rereading

namespace LtiPlatform

namespace TokenCodec

variable {codec : TokenCodec} {now : Nat} {claims : Claims}

theorem expiry?_double {x : Binary64} (bits : x.significand < 2 ^ 53) {second : Nat} :
    expiry? (.number (.double x)) = some second ↔
      0 ≤ x.value ∧ x.value < 2 ^ 64 ∧ round x.value = second := by
  have above := x.magnitude_nonneg
  have isZero_iff : x.isZero ↔ x.magnitude = 0 := by
    have unit : (2 : ℚ) ^ x.exponent ≠ 0 := zpow_ne_zero _ two_ne_zero
    rw [Binary64.isZero, beq_iff_eq, Binary64.magnitude, mul_eq_zero_iff_right unit, Nat.cast_eq_zero]
  simp only [expiry?]
  split
  · next below =>
    have positive : 0 < x.magnitude := lt_of_le_of_ne above fun same => below.2 (isZero_iff.mpr same.symm)
    simp only [Binary64.value, if_pos below.1, reduceCtorEq, false_iff, not_and]
    intro natural
    linarith
  · next natural =>
    have same : x.value = x.magnitude := by
      rw [Binary64.value]
      split
      · next negative =>
        have zero : x.magnitude = 0 := by
          rw [← isZero_iff]
          by_contra nonzero
          exact natural ⟨negative, nonzero⟩
        rw [zero, neg_zero]
      · rfl
    rw [same, ← Binary64.round_magnitude_lt_iff bits, x.round_magnitude]
    simp only [Option.ite_none_left_eq_some, Option.some.injEq, Nat.cast_inj, above, true_and]
    norm_cast
    omega

/-- The second that an expiry names is the whole number nearest to it. -/
theorem expiry?_eq_some_iff {number : JsonNumber} (isRead : number.IsRead) {second : Nat} :
    expiry? (.number number) = some second ↔
      0 ≤ number.value ∧ number.value < 2 ^ 64 ∧ round number.value = second := by
  cases number with
  | integer value =>
    simp only [JsonNumber.IsRead, JsonNumber.isExact, Bool.and_eq_true, decide_eq_true_eq] at isRead
    have bound : ((value : ℚ) < 2 ^ 64) := by exact_mod_cast isRead.2
    simp only [expiry?, Option.ite_none_left_eq_some, Option.some.injEq, JsonNumber.value, round_intCast, bound,
      true_and, Int.cast_nonneg_iff]
    omega
  | double value => exact expiry?_double isRead

/-- The expiry, if there is one, is a number of seconds in range, and has not gone by for longer than the
leeway. -/
def IsInTime (codec : TokenCodec) (now : Nat) (claims : Claims) : Prop :=
  ∀ value, claims.get? "exp" = some value → ∃ number, value = .number number ∧ 0 ≤ number.value ∧
    number.value < 2 ^ 64 ∧ (now : Int) - codec.leeway ≤ round number.value

theorem checkExpiry_eq_ok_iff (started : codec.leeway ≤ now)
    (isRead : ∀ number, claims.get? "exp" = some (.number number) → number.IsRead) :
    codec.checkExpiry now claims = .ok () ↔ codec.IsInTime now claims := by
  rw [checkExpiry, IsInTime, wordDifference_of_le started]
  cases found : claims.get? "exp" with
  | none => simp
  | some value =>
    simp only [Option.some.injEq, forall_eq']
    cases value with
    | number number =>
      have isSecond := fun second => @expiry?_eq_some_iff number (isRead number found) second
      simp only [Json.number.injEq, exists_eq_left']
      cases named : expiry? (.number number) with
      | none =>
        simp only [reduceCtorEq, false_iff, not_and]
        intro natural bounded
        have rounded : 0 ≤ round number.value := by
          rw [round_eq]
          exact Int.floor_nonneg.mpr (by linarith)
        have second := (isSecond (round number.value).toNat).mpr ⟨natural, bounded, by omega⟩
        cases named.symm.trans second
      | some second =>
        obtain ⟨natural, bounded, rounded⟩ := (isSecond second).mp named
        rw [rounded]
        simp only [natural, bounded, true_and]
        split
        · next expired =>
          simp only [reduceCtorEq, false_iff]
          omega
        · next current =>
          simp only [true_iff]
          omega
    | _ => simp [expiry?]

theorem exists_rejection_of_checkExpiry (expired : codec.checkExpiry now claims ≠ .ok ()) :
    ∃ rejection, codec.checkExpiry now claims = .error (.verification rejection) := by
  rw [checkExpiry] at expired ⊢
  split at expired
  · exact absurd rfl expired
  · split at expired
    · exact ⟨_, rfl⟩
    · split at expired
      · next late => exact ⟨_, if_pos late⟩
      · exact absurd rfl expired

end TokenCodec

namespace TokenStamp

/-- A lifetime as a signed word, if it fits. -/
def signedWord? (lifetime : UInt64) : Option Int64 :=
  if lifetime.toNat < 2 ^ 63 then some lifetime.toInt64 else none

/-- Addition of words that stops at the ends of their range. -/
def saturatingAdd (left right : Int64) : Int64 :=
  if Int64.maxValue.toInt < left.toInt + right.toInt then Int64.maxValue
  else if left.toInt + right.toInt < Int64.minValue.toInt then Int64.minValue
  else left + right

/-- The expiry, computed in words. -/
def expiryWord (time : Int64) (lifetime : UInt64) : Int64 :=
  ((signedWord? lifetime).map (saturatingAdd time)).getD Int64.maxValue

theorem toInt_saturatingAdd (left right : Int64) :
    (saturatingAdd left right).toInt = max (-2 ^ 63) (min (left.toInt + right.toInt) (2 ^ 63 - 1)) := by
  rw [saturatingAdd, Int64.toInt_maxValue, Int64.toInt_minValue]
  split
  · rw [Int64.toInt_maxValue]
    omega
  · split
    · rw [Int64.toInt_minValue]
      omega
    · rw [Int64.toInt_add, Int.bmod_eq_of_le (by omega) (by omega)]
      omega

theorem toInt_toInt64 {lifetime : UInt64} (fits : lifetime.toNat < 2 ^ 63) :
    lifetime.toInt64.toInt = lifetime.toNat := by
  have twice : 2 * lifetime.toBitVec.toNat < 2 ^ 64 := by
    rw [UInt64.toNat_toBitVec]
    omega
  exact BitVec.toInt_eq_toNat_of_lt twice

/-- No step in words goes out of range: what comes out is the sum, held below `2 ^ 63`. -/
theorem toInt_expiryWord {time : Int64} (natural : 0 ≤ time.toInt) (lifetime : UInt64) :
    (expiryWord time lifetime).toInt = min (time.toInt + lifetime.toNat) (2 ^ 63 - 1) := by
  rw [expiryWord, signedWord?]
  split
  · next fits =>
    rw [Option.map_some, Option.getD_some, toInt_saturatingAdd, toInt_toInt64 fits]
    omega
  · rw [Option.map_none, Option.getD_none, Int64.toInt_maxValue]
    omega

theorem expiry_eq_expiryWord {time : Int64} (natural : 0 ≤ time.toInt) (lifetime : UInt64) (id : String) :
    (expiry ⟨time.toInt.toNat, id⟩ lifetime.toNat : Int) = (expiryWord time lifetime).toInt := by
  rw [toInt_expiryWord natural]
  show ((min (time.toInt.toNat + lifetime.toNat) 0x7fffffffffffffff : Nat) : Int) = _
  omega

end TokenStamp

namespace TokenCodec

variable {scheme : SignatureScheme} {codec : TokenCodec} {keys : KeySet} {key : SigningKey} {claims : Claims}

/-- What is asked of claims that the token they are signed into is accepted. -/
structure Admits (codec : TokenCodec) (now : Nat) (claims : Claims) : Prop where
  legible : claims.Legible
  inTime : codec.IsInTime now claims

theorem isRead_of_readsBack (back : claims.ReadsBack) {name : String} {number : JsonNumber}
    (found : claims.get? name = some (.number number)) : number.IsRead :=
  (Json.isCanonical_of_parseMap? back found number (List.mem_singleton_self _)).isRead

theorem verify_issue_of_readsBack (made : key.IsMade) (accepts : scheme.Accepts key)
    (allowed : key.algorithm ∈ codec.algorithms) (first : keys.IsFirst key.id key.publicKey)
    (back : claims.ReadsBack) {token : String} (issued : issue scheme key claims = .ok token) {now : Nat}
    (started : codec.leeway ≤ now) :
    (verify scheme codec keys now token = .ok claims ↔ codec.Admits now claims) ∧
      (¬ codec.Admits now claims →
        ∃ rejection, verify scheme codec keys now token = .error (.verification rejection)) := by
  have isRead : ∀ number, claims.get? "exp" = some (.number number) → number.IsRead :=
    fun number found => isRead_of_readsBack back found
  rw [verify_issue_of_payload made accepts allowed (KeySet.find?_eq_some_iff.mpr first) issued,
    readPayload_compact back]
  by_cases legible : claims.Legible
  · have passed : ((Except.ok claims : Except TokenError Claims).bind fun read =>
        (codec.checkExpiry now read).map fun _ => read) = (codec.checkExpiry now claims).map fun _ => claims := rfl
    rw [if_pos (isReadable_iff_legible.mpr legible), passed]
    have admits_iff : codec.Admits now claims ↔ codec.checkExpiry now claims = .ok () := by
      rw [checkExpiry_eq_ok_iff started isRead]
      exact ⟨Admits.inTime, fun inTime => ⟨legible, inTime⟩⟩
    rw [admits_iff]
    cases current : codec.checkExpiry now claims with
    | ok _ => exact ⟨⟨fun _ => rfl, fun _ => rfl⟩, fun late => absurd rfl late⟩
    | error cause =>
      have late : codec.checkExpiry now claims ≠ .ok () := fun inTime => by cases current.symm.trans inTime
      obtain ⟨rejection, rejected⟩ := exists_rejection_of_checkExpiry late
      cases current.symm.trans rejected
      exact ⟨⟨fun wrong => (by cases wrong), fun wrong => (by cases wrong)⟩, fun _ => ⟨rejection, rfl⟩⟩
  · have refused : ¬ codec.Admits now claims := fun admits => legible admits.legible
    rw [if_neg (mt isReadable_iff_legible.mp legible)]
    exact ⟨⟨fun wrong => (by cases wrong), fun admits => absurd admits refused⟩, fun _ => ⟨_, rfl⟩⟩

/-- A stamp of a natural time is in time until it and the leeway have gone by. -/
theorem isInTime_expiryWord {time : Int64} (natural : 0 ≤ time.toInt) {lifetime : UInt64}
    (stamped : claims.get? "exp" = some (.ofInt (TokenStamp.expiryWord time lifetime).toInt)) (now : Nat) :
    codec.IsInTime now claims ↔
      (now : Int) - codec.leeway ≤ min (time.toInt + lifetime.toNat) (2 ^ 63 - 1) := by
  have word := TokenStamp.toInt_expiryWord natural lifetime
  generalize (TokenStamp.expiryWord time lifetime).toInt = second at stamped word
  have range : 0 ≤ second ∧ second < 2 ^ 64 := by omega
  have value : (JsonNumber.integer second).value = second := rfl
  rw [IsInTime, stamped, ← word]
  constructor
  · intro inTime
    obtain ⟨number, same, _, _, current⟩ := inTime _ rfl
    cases same
    rwa [value, round_intCast] at current
  · rintro current _ same
    cases same
    refine ⟨.integer second, rfl, ?_⟩
    rw [value, round_intCast]
    exact ⟨by exact_mod_cast range.1, by exact_mod_cast range.2, current⟩

/-- Every set of claims can be signed. If its text reads back, the token is accepted at exactly the times that its
expiry allows, and never if the registered claims are not legible, on a clock that has come as far as the leeway.
An expiry that a platform computes from a time and a lifetime is their sum, held below `2 ^ 63`, and allows all
times that are later by no more than the leeway. -/
theorem verify_issue_iff_admits (made : key.IsMade) (canSign : scheme.CanSign key)
    (accepts : scheme.Accepts key) (allowed : key.algorithm ∈ codec.algorithms)
    (first : keys.IsFirst key.id key.publicKey) (back : claims.ReadsBack) :
    ∃ token, issue scheme key claims = .ok token ∧
      (∀ now, codec.leeway ≤ now → (verify scheme codec keys now token = .ok claims ↔ codec.Admits now claims)) ∧
      (∀ now, codec.leeway ≤ now → ¬ codec.Admits now claims →
        ∃ rejection, verify scheme codec keys now token = .error (.verification rejection)) ∧
      ∀ time : Int64, 0 ≤ time.toInt → ∀ lifetime : UInt64,
        (TokenStamp.expiryWord time lifetime).toInt = min (time.toInt + lifetime.toNat) (2 ^ 63 - 1) ∧
        (∀ id, (TokenStamp.expiry ⟨time.toInt.toNat, id⟩ lifetime.toNat : Int) =
          (TokenStamp.expiryWord time lifetime).toInt) ∧
        (claims.get? "exp" = some (.ofInt (TokenStamp.expiryWord time lifetime).toInt) → claims.Legible →
          ∀ now, codec.leeway ≤ now → (verify scheme codec keys now token = .ok claims ↔
            (now : Int) - codec.leeway ≤ min (time.toInt + lifetime.toNat) (2 ^ 63 - 1))) := by
  obtain ⟨token, issued⟩ := exists_issue_of_canSign canSign claims
  have judged := fun now => @verify_issue_of_readsBack scheme codec keys key claims made accepts allowed first back
    token issued now
  refine ⟨token, issued, fun now started => (judged now started).1, fun now started => (judged now started).2,
    fun time natural lifetime => ⟨TokenStamp.toInt_expiryWord natural lifetime,
      TokenStamp.expiry_eq_expiryWord natural lifetime, fun stamped legible now started => ?_⟩⟩
  rw [(judged now started).1, ← isInTime_expiryWord natural stamped now]
  exact ⟨Admits.inTime, fun inTime => ⟨legible, inTime⟩⟩

section Sample

/-- A key for RSA, and the set that publishes it. -/
def sampleKey : SigningKey := .ofRsa "k" .sample

def sampleKeys : KeySet := .ofSigningKeys [sampleKey]

theorem sampleKeys_first : sampleKeys.IsFirst sampleKey.id sampleKey.publicKey :=
  KeySet.find?_eq_some_iff.mp rfl

theorem readsBack_ofList {entries : Entries Json} (each : ∀ entry ∈ entries, entry.2.Portable 1 ∧ entry.2.isPlain) :
    Claims.ReadsBack (.ofList entries) := by
  have held : ∀ name value, OrderedMap.get? (.ofList entries) name = some value → value.Portable 1 ∧ value.isPlain := by
    intro name value found
    rw [OrderedMap.get?_ofList] at found
    exact each _ (List.mem_reverse.mp (Entries.mem_of_get? found))
  have whole : (Json.ofMap (.ofList entries)).Portable 2 := .ofMap fun name value found => (held name value found).1
  exact Json.parseMap?_compact whole (fun name value found => (held name value found).2)
    (Nat.le_trans whole.nested (by decide))

/-- A token of ten minutes with a minute of leeway. -/
theorem ten_minutes_and_leeway :
    let claims : Claims := .ofList [("sub", .string "1"), ("exp", .ofInt 1700000600)]
    ∃ token, issue .standard sampleKey claims = .ok token ∧
      verify .standard {} sampleKeys 1700000660 token = .ok claims ∧
      verify .standard {} sampleKeys 1700000661 token ≠ .ok claims := by
  intro claims
  have sound := Rsa.PrivateKey.sample_isSound
  have back : claims.ReadsBack :=
    readsBack_ofList (List.forall_mem_cons.mpr
      ⟨⟨.string "1", rfl⟩, List.forall_mem_singleton.mpr ⟨.ofInt (by decide), rfl⟩⟩)
  have legible : claims.Legible := by
    refine ⟨fun value found => ?_, fun name time value found => ?_⟩
    · cases found
      rfl
    · simp only [List.mem_cons, List.not_mem_nil, or_false] at time
      rcases time with rfl | rfl
      · cases found
        exact .inl rfl
      · cases found
  have word : (TokenStamp.expiryWord 1700000000 600).toInt = 1700000600 :=
    TokenStamp.toInt_expiryWord (by decide) 600
  have stamped : claims.get? "exp" = some (.ofInt (TokenStamp.expiryWord 1700000000 600).toInt) := by
    rw [word]
    rfl
  obtain ⟨token, issued, _, _, inWords⟩ := @verify_issue_iff_admits _ {} _ _ _ (.rsa "k" .sample)
    (SignatureScheme.standard_canSign_ofRsa sound.usable "k") (SignatureScheme.standard_accepts_ofRsa sound "k")
    (by decide) sampleKeys_first back
  have accepted := (inWords 1700000000 (by decide) 600).2.2 stamped legible
  exact ⟨token, issued, (accepted _ (by decide)).mpr (by decide),
    fun late => absurd ((accepted _ (by decide)).mp late) (by decide)⟩

/-- A subject that is a list makes a token unreadable, though it is genuine and does not expire. -/
theorem list_subject_refused :
    let claims : Claims := .ofList [("sub", .ofStrings ["a"])]
    ∃ token, issue .standard sampleKey claims = .ok token ∧ IsInTime {} 1700000000 claims ∧
      ∃ rejection, verify .standard {} sampleKeys 1700000000 token = .error (.verification rejection) := by
  intro claims
  have sound := Rsa.PrivateKey.sample_isSound
  have back : claims.ReadsBack :=
    readsBack_ofList (List.forall_mem_singleton.mpr ⟨.ofStrings ["a"], Json.isPlain_ofStrings ["a"]⟩)
  obtain ⟨token, issued⟩ := exists_issue_of_canSign
    (SignatureScheme.standard_canSign_ofRsa sound.usable "k") claims
  have unread : ¬ Admits {} 1700000000 claims := by
    intro admits
    cases admits.legible.subject _ rfl
  refine ⟨token, issued, fun value found => (by cases found), ?_⟩
  exact (verify_issue_of_readsBack (.rsa "k" .sample) (SignatureScheme.standard_accepts_ofRsa sound "k")
    (by decide) sampleKeys_first back issued (by decide)).2 unread

end Sample

end TokenCodec

end LtiPlatform
