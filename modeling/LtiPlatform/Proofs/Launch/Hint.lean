import LtiPlatform.Proofs.Claims.Plain
import LtiPlatform.Proofs.Claims.Portable
import LtiPlatform.Proofs.Launch.Merge
import LtiPlatform.Proofs.Launch.Placeholders

namespace LtiPlatform

theorem TokenStamp.expiry_le_latest (stamp : TokenStamp) (lifetime : Nat) :
    stamp.expiry lifetime ≤ TokenStamp.latest :=
  Nat.min_le_right ..

theorem JsonNumber.isExact_of_le_latest {second : Nat} (bound : second ≤ TokenStamp.latest) :
    isExact second := by
  rw [TokenStamp.latest] at bound
  rw [isExact, Bool.and_eq_true, decide_eq_true_eq, decide_eq_true_eq]
  omega

namespace Claims

namespace Portable

variable {claims : Claims}

theorem join (portable : claims.Portable) {entry : String × Json} (held : entry.2.Portable 2)
    (scalar : entry.1 ∈ TokenCodec.registeredNames → entry.2.isScalar) : (claims.join entry).Portable := by
  obtain ⟨name, value⟩ := entry
  rw [Claims.join, Json.joined]
  split
  · next fields existing isObject before =>
    refine portable.insert (.ofMap fun member value' found => ?_) fun registered => ?_
    · rw [OrderedMap.get?_extend, Option.or_eq_some_iff] at found
      rcases found with found | ⟨_, found⟩
      · exact held.member isObject found
      · exact portable.members before found
    · have alone := scalar registered
      cases value with
      | object members => cases alone
      | _ => cases isObject
  · exact portable.insert held scalar

theorem merge (portable : claims.Portable) {incoming : Claims} (portable' : incoming.Portable) :
    (claims.merge incoming).Portable := by
  have each : ∀ entry ∈ incoming.entries, entry.2.Portable 2 ∧
      (entry.1 ∈ TokenCodec.registeredNames → entry.2.isScalar) := by
    intro entry member
    have found := OrderedMap.mem_entries_iff.mp member
    exact ⟨portable'.values _ _ found, fun registered => portable'.registered _ registered _ found⟩
  rw [merge_eq_foldl]
  generalize incoming.entries = entries at each
  induction entries generalizing claims with
  | nil => exact portable
  | cons entry rest ih =>
    obtain ⟨held, scalar⟩ := each entry (List.mem_cons_self ..)
    exact ih (portable.join held scalar) fun entry member => each entry (List.mem_cons_of_mem _ member)

theorem substituted (portable : claims.Portable) (substitutor : Substitutor) (user : User) :
    (claims.substituted substitutor user).Portable := by
  rw [Claims.substituted]
  split
  · exact portable
  · next members custom =>
    refine portable.insert (.ofMap fun name value found => ?_)
      fun registered => absurd registered (OpenGroup.claim_not_registered .custom)
    rw [OrderedMap.get?_insertAll, Option.or_eq_some_iff] at found
    rcases found with found | ⟨_, found⟩
    · obtain ⟨entry, _, same⟩ := List.mem_map.mp (List.mem_reverse.mp (Entries.mem_of_get? found))
      rw [← (Prod.mk.inj same).2]
      exact .string entry.2
    · exact portable.members custom found

theorem stamped (portable : claims.Portable) {stamp : TokenStamp} (clock : stamp.time ≤ TokenStamp.latest)
    (lifetime : Nat) : (claims.stamped stamp lifetime).Portable := by
  have time := JsonNumber.isExact_of_le_latest clock
  have expiry := JsonNumber.isExact_of_le_latest (stamp.expiry_le_latest lifetime)
  exact ((portable.insert_ofInt time).insert_ofInt expiry).insert_string stamp.id

end Portable

namespace IsPlainAt

variable {claims : Claims} {name : String}

theorem stamped (plain : claims.IsPlainAt name) (stamp : TokenStamp) (lifetime : Nat) :
    (claims.stamped stamp lifetime).IsPlainAt name :=
  ((plain.insert fun _ => rfl).insert fun _ => rfl).insert fun _ => rfl

/-- Placeholders are members already, so none becomes the first one. -/
theorem substituted (plain : claims.IsPlainAt name) (substitutor : Substitutor) (user : User) :
    (claims.substituted substitutor user).IsPlainAt name := by
  rw [Claims.substituted]
  split
  · exact plain
  · next members custom =>
    refine plain.insert fun same => ?_
    subst same
    have whole := plain.members
    rw [custom, Option.getD_some] at whole
    refine Json.isPlain_insertAll whole (fun none => ?_) fun entry member => ?_
    · have entries : members.entries = [] := List.map_eq_nil_iff.mp none
      have pending : customPlaceholders members = [] := by rw [customPlaceholders, entries, List.filterMap_nil]
      rw [pending]
      exact nofun
    · obtain ⟨_, _, rfl⟩ := List.mem_map.mp member
      rfl

theorem merge (plain : claims.IsPlainAt name) {incoming : Claims} (plain' : incoming.IsPlainAt name) :
    (claims.merge incoming).IsPlainAt name := by
  intro value found
  rw [get?_merge, Option.or_eq_some_iff] at found
  rcases found with found | ⟨_, found⟩
  · obtain ⟨added, isAdded, rfl⟩ := Option.map_eq_some_iff.mp found
    have held := plain' added isAdded
    unfold Json.joined
    split
    · next fields existing isObject before =>
      have inside := Json.isPlain_of_object? held isObject
      have whole := plain.members
      rw [before, Option.getD_some] at whole
      refine Json.isPlain_insertAll whole (fun _ => (Json.isPlain_ofMap_iff.mp inside).1) fun entry member => ?_
      exact (Json.isPlain_ofMap_iff.mp inside).2 _ _ (OrderedMap.mem_entries_iff.mp member)
    · exact held
  · exact plain value found

end IsPlainAt

theorem isPlainAt_identity (tool : ToolRegistration) (user : User) (name : String) :
    (identity tool user).IsPlainAt name := by
  refine isPlainAt_ofParameters fun group _ => ?_
  have unknown : group.parameter Json.rawName ∉ "user_id" :: ToolRegistration.disclosedNames := by
    cases group <;> decide
  rw [OrderedMap.get?_ofList, Entries.get?_eq_none_iff, Entries.keys, List.map_reverse, List.mem_reverse]
  exact fun member => unknown ((tool.keys_identityParameters user).subset (keys_presentParameters.subset member))

theorem portable_identity (tool : ToolRegistration) (user : User) : (identity tool user).Portable := by
  refine portable_ofParameters ?_
  have unknown : "content_items" ∉ Entries.keys (("user_id", some user.id) :: tool.disclosedParameters user) := by
    simp only [ToolRegistration.disclosedParameters]
    split <;> split <;> simp [Entries.keys]
  rw [OrderedMap.get?_ofList, Entries.get?_eq_none_iff, Entries.keys, List.map_reverse, List.mem_reverse]
  exact fun member => unknown (keys_presentParameters.subset member)

end Claims

/-- The claims that a hint has of itself. -/
def Claims.hintNames : List String := [registrationId, "iss", "aud", "iat", "exp", "jti"]

/-- What a hint says of itself. -/
def Platform.hintEntries (platform : Platform) (tool : ToolRegistration) (stamp : TokenStamp) : Entries Json :=
  [(Claims.registrationId, .string tool.id), ("iss", .string platform.issuer), ("aud", .string tool.clientId),
    ("iat", .ofInt stamp.time), ("exp", .ofInt (stamp.expiry platform.hintLifetime)), ("jti", .string stamp.id)]

theorem Platform.keys_hintEntries (platform : Platform) (tool : ToolRegistration) (stamp : TokenStamp) :
    Entries.keys (platform.hintEntries tool stamp) = Claims.hintNames := rfl

theorem OpenGroup.claim_not_hintName (group : OpenGroup) : group.claim ∉ Claims.hintNames := by
  cases group <;> decide

namespace LaunchDraft

variable {draft : LaunchDraft} {platform : Platform} {tool : ToolRegistration} {substitutor : Substitutor}
  {stamp : TokenStamp}

theorem portable_hintClaims (noItems : draft.extra.get? "content_items" = none)
    (clock : stamp.time ≤ TokenStamp.latest) :
    (draft.hintClaims platform tool substitutor stamp).Portable := by
  have noCustom : ¬ Text.isPrefix OpenGroup.custom.start "content_items" := by decide
  rw [hintClaims_eq]
  refine Claims.Portable.stamped ?_ clock _
  simp only [OrderedMap.insertAll_cons, OrderedMap.insertAll_nil]
  refine (((Claims.portable_ofParameters ?_).insert_string _).insert_string _).insert_string _
  rw [get?_hintParameters _ _ _ _ noCustom (by decide), noItems]
  rfl

/-- A claim of a hint is plain unless it is an open group with the name for texts among its parameters. -/
theorem isPlainAt_hintClaims {name : String} (unnamed : ∀ group : OpenGroup, group.claim = name →
      (draft.hintParameters platform tool substitutor).get? (group.parameter Json.rawName) = none) :
    (draft.hintClaims platform tool substitutor stamp).IsPlainAt name := by
  rw [hintClaims_eq]
  refine Claims.IsPlainAt.stamped ?_ stamp _
  simp only [OrderedMap.insertAll_cons, OrderedMap.insertAll_nil]
  exact (((Claims.isPlainAt_ofParameters unnamed).insert fun _ => rfl).insert fun _ => rfl).insert fun _ => rfl

theorem isPlainAt_hintClaims_of_apart {name : String} (apart : ∀ group : OpenGroup, group.claim ≠ name) :
    (draft.hintClaims platform tool substitutor stamp).IsPlainAt name :=
  isPlainAt_hintClaims fun group same => absurd same (apart group)

/-- What a hint says of itself is plain. -/
theorem isPlainAt_hintClaims_of_own {name : String} (own : name ∈ Claims.hintNames) :
    (draft.hintClaims platform tool substitutor stamp).IsPlainAt name :=
  isPlainAt_hintClaims_of_apart fun group same => group.claim_not_hintName (same ▸ own)

/-- Only the open groups can keep a hint from being plain. -/
theorem isPlainAt_hintClaims_of_groups
    (plain : ∀ group : OpenGroup, (draft.hintClaims platform tool substitutor stamp).IsPlainAt group.claim)
    (name : String) : (draft.hintClaims platform tool substitutor stamp).IsPlainAt name := by
  by_cases named : ∃ group : OpenGroup, group.claim = name
  · obtain ⟨group, rfl⟩ := named
    exact plain group
  · exact isPlainAt_hintClaims_of_apart fun group same => named ⟨group, same⟩

/-- A hint's own claims come last, whatever the parameters say. -/
theorem get?_hintClaims (name : String) :
    (draft.hintClaims platform tool substitutor stamp).get? name =
      (Entries.get? (platform.hintEntries tool stamp) name).or
        ((Claims.ofParameters (draft.hintParameters platform tool substitutor)).get? name) := by
  have entered : draft.hintClaims platform tool substitutor stamp =
      (Claims.ofParameters (draft.hintParameters platform tool substitutor)).insertAll
        (platform.hintEntries tool stamp) := rfl
  have distinct : (Entries.keys (platform.hintEntries tool stamp)).Nodup := by
    rw [Platform.keys_hintEntries]
    decide
  rw [entered, OrderedMap.get?_insertAll_of_nodup distinct]

/-- A claim of a hint that is not plain is an open group, and taken for a text as a whole. -/
theorem isRaw_of_not_isPlainAt {name : String}
    (unplain : ¬ (draft.hintClaims platform tool substitutor stamp).IsPlainAt name) :
    ∃ (group : OpenGroup) (members : OrderedMap Json), group.claim = name ∧
      (draft.hintClaims platform tool substitutor stamp).get? name = some (.ofMap members) ∧
      Json.isRaw members.entries := by
  by_cases open' : ∃ group : OpenGroup, group.claim = name
  case neg => exact absurd (isPlainAt_hintClaims_of_apart fun group same => open' ⟨group, same⟩) unplain
  obtain ⟨group, rfl⟩ := open'
  have own : Entries.get? (platform.hintEntries tool stamp) group.claim = none :=
    Entries.get?_eq_none_iff.mpr group.claim_not_hintName
  simp only [Claims.IsPlainAt, not_forall] at unplain
  obtain ⟨value, held, unplain⟩ := unplain
  have made := held
  rw [get?_hintClaims, own, Option.none_or] at made
  obtain ⟨members, rfl, texts⟩ := Claims.exists_texts_of_ofParameters made
  refine ⟨group, members, rfl, held, ?_⟩
  by_contra ordinary
  refine unplain (Json.isPlain_ofMap_iff.mpr ⟨fun first => ordinary (Json.isRaw_iff.mpr first), ?_⟩)
  intro name value inside
  obtain ⟨text, rfl⟩ := texts name value inside
  rfl

@[simp]
theorem get?_hintClaims_issuer :
    (draft.hintClaims platform tool substitutor stamp).get? "iss" = some (.string platform.issuer) := by
  rw [get?_hintClaims]
  rfl

@[simp]
theorem get?_hintClaims_registrationId :
    (draft.hintClaims platform tool substitutor stamp).get? Claims.registrationId =
      some (.string tool.id) := by
  rw [get?_hintClaims]
  rfl

end LaunchDraft

namespace Claims

variable {claims : Claims} {stamp : TokenStamp} {lifetime : Nat}

@[simp]
theorem get?_stamped_expiry :
    (claims.stamped stamp lifetime).get? "exp" = some (.ofInt (stamp.expiry lifetime)) := by
  simp [stamped]

/-- Until its expiry and the leeway have gone by, a stamped token is good, unless the clock is not yet as far as
the leeway. -/
theorem checkExpiry_stamped {codec : TokenCodec} {now : Nat} (started : codec.leeway ≤ now)
    (inTime : now ≤ stamp.expiry lifetime + codec.leeway) :
    codec.checkExpiry now (claims.stamped stamp lifetime) = .ok () := by
  have second : TokenCodec.expiry? (.ofInt (stamp.expiry lifetime)) = some (stamp.expiry lifetime) := by
    rw [Json.ofInt, TokenCodec.expiry?, if_neg (by omega), Int.toNat_natCast]
  have early : ¬ stamp.expiry lifetime < now - codec.leeway := by omega
  simp only [TokenCodec.checkExpiry, get?_stamped_expiry, second, TokenCodec.wordDifference_of_le started,
    if_neg early]

end Claims

namespace Platform

variable {platform : Platform} {tool : ToolRegistration} {substitutor : Substitutor} {stamp : TokenStamp}

theorem isPlainAt_idTokenClaims {hint : Claims} {name : String} (plain : hint.IsPlainAt name) (user : User)
    (nonce : String) : (platform.idTokenClaims substitutor tool user nonce stamp hint).IsPlainAt name := by
  refine Claims.IsPlainAt.stamped ?_ stamp _
  simp only [OrderedMap.insertAll_cons, OrderedMap.insertAll_nil]
  have merged := (plain.substituted substitutor user).merge (Claims.isPlainAt_identity tool user name)
  exact ((((merged.erase _).insert fun _ => rfl).insert fun _ => rfl).insert fun _ => rfl).insert fun _ => rfl

theorem portable_idTokenClaims {hint : Claims} (portable : hint.Portable)
    (clock : stamp.time ≤ TokenStamp.latest) (user : User) (nonce : String) :
    (platform.idTokenClaims substitutor tool user nonce stamp hint).Portable := by
  refine Claims.Portable.stamped ?_ clock _
  simp only [OrderedMap.insertAll_cons, OrderedMap.insertAll_nil]
  have merged := (portable.substituted substitutor user).merge (Claims.portable_identity tool user)
  exact ((((merged.erase _).insert_string _).insert_string _).insert_string _).insert_string _

end Platform

end LtiPlatform
