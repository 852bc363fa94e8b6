import LtiPlatform.Proofs.Claims.Canonical

namespace LtiPlatform

namespace Vocabulary

variable {vocabulary : Vocabulary} {texts : List String} {text modern : String}

@[simp]
theorem legacyTexts_ofStrings (texts : List String) :
    vocabulary.legacyTexts (.ofStrings texts) = texts.filterMap vocabulary.toLegacy? := by
  rw [legacyTexts, stringEntries_ofStrings, List.filterMap_map]
  rfl

/-- Modern spellings that have a legacy one are reread, and all others are lost. -/
theorem Settled.reread_eq_filter (settled : vocabulary.Settled) (sorted : texts.Pairwise (· ≤ ·))
    (modern : ∀ text ∈ texts, vocabulary.isModern text) :
    vocabulary.reread (.ofStrings texts) = texts.filter fun text => (vocabulary.toLegacy? text).isSome := by
  have back : ∀ text ∈ texts, (vocabulary.toLegacy? text).bind vocabulary.toModern? =
      Option.guard (fun text => (vocabulary.toLegacy? text).isSome) text := by
    intro text member
    cases spelled : vocabulary.toLegacy? text with
    | none => simp [Option.guard, spelled]
    | some legacy =>
      simpa [Option.guard, spelled] using settled.toModern?_toLegacy? (modern text member) spelled
  rw [settled.reread_eq, legacyTexts_ofStrings, List.filterMap_filterMap, List.filterMap_congr back,
    List.filterMap_eq_filter]
  exact Text.sort_eq_of_perm (sorted.sublist List.filter_sublist) (.refl _)

/-- What is written for modern spellings does not change when they are reread. -/
theorem Settled.legacyTexts_reread (settled : vocabulary.Settled) (sorted : texts.Pairwise (· ≤ ·))
    (modern : ∀ text ∈ texts, vocabulary.isModern text) :
    vocabulary.legacyTexts (.ofStrings (vocabulary.reread (.ofStrings texts))) =
      vocabulary.legacyTexts (.ofStrings texts) := by
  rw [settled.reread_eq_filter sorted modern, legacyTexts_ofStrings, legacyTexts_ofStrings,
    List.filterMap_filter]
  refine List.filterMap_congr fun text _ => ?_
  cases vocabulary.toLegacy? text <;> rfl

theorem Settled.legacyTexts_modernSorted (settled : vocabulary.Settled) (texts : List String) :
    vocabulary.legacyTexts (.ofStrings (vocabulary.reread (.ofStrings (modernSorted vocabulary (texts.map some))))) =
      vocabulary.legacyTexts (.ofStrings (modernSorted vocabulary (texts.map some))) := by
  rw [modernSorted_some]
  refine settled.legacyTexts_reread (Text.sort_sorted _) fun modern member => ?_
  obtain ⟨_, _, meant⟩ := List.mem_filterMap.mp ((Text.sort_perm _).subset member)
  exact isModern_of_toModern? meant

end Vocabulary

namespace ValueKind

variable {kind : ValueKind} {text : String} {value : Json}

/-- What was read from a text is reread as a value for which the same is written. -/
theorem settles (convertible : kind ≠ .contentItems) (read : kind.read? text = some value) :
    ∃ again, kind.reread? value = some again ∧ kind.write? again = kind.write? value := by
  have unchanged : kind.Canonical value →
      ∃ again, kind.reread? value = some again ∧ kind.write? again = kind.write? value :=
    fun canonical => ⟨value, reread?_of_canonical canonical, rfl⟩
  -- Only terms without a legacy spelling are lost, and for those nothing is written in the first place.
  cases kind with
  | contentItems => exact absurd rfl convertible
  | text =>
    cases read
    exact unchanged ⟨_, rfl⟩
  | flag =>
    cases read
    exact unchanged ⟨_, rfl⟩
  | list =>
    cases read
    exact unchanged ⟨_, rfl, listPieces_areItems text⟩
  | messageType =>
    cases read
    exact unchanged ⟨_, rfl, MessageType.toModern_isModern text⟩
  | roles =>
    cases read
    refine ⟨_, reread?_roles, ?_⟩
    rw [write?, write?, Vocabulary.legacyEntries_flatText?, Vocabulary.legacyEntries_flatText?,
      Role.vocabulary_settled.legacyTexts_modernSorted]
  | contextTypes =>
    cases read
    refine ⟨_, reread?_contextTypes, ?_⟩
    rw [write?, write?, Vocabulary.legacyEntries_flatText?, Vocabulary.legacyEntries_flatText?,
      ContextType.vocabulary_settled.legacyTexts_modernSorted]

theorem reread?_contentItems (read : contentItems.read? text = some value) :
    contentItems.reread? value = none := by
  obtain ⟨items, rfl, _⟩ := exists_array_of_contentItems read
  exact reread?_contentItems_array items

end ValueKind

namespace Slot

variable {slot : Slot} {text : String} {value : Json}

theorem kind_of_contentItems (items : slot.parameter = "content_items") :
    ∃ rule member, slot = .ruled rule member ∧ rule.kind = .contentItems := by
  obtain ⟨rule, member, named, kind⟩ := Rule.exists_contentItems
  exact ⟨rule, member, parameter_injective (items.trans named.symm), kind⟩

theorem settles (convertible : slot.parameter ≠ "content_items") (read : slot.read? text = some value) :
    ∃ again, slot.reread? value = some again ∧ slot.write? again = slot.write? value := by
  cases slot with
  | ruled rule member =>
    exact ValueKind.settles (mt (Rule.parameter_of_contentItems rule member) convertible) read
  | free group name unmapped =>
    simp only [read?, Option.ite_none_left_eq_some, Option.some.injEq] at read
    obtain ⟨named, rfl⟩ := read
    exact ⟨_, reread?_of_canonical ⟨named, text, rfl⟩, rfl⟩

theorem reread?_contentItems (items : slot.parameter = "content_items") (read : slot.read? text = some value) :
    slot.reread? value = none := by
  obtain ⟨rule, member, rfl, kind⟩ := kind_of_contentItems items
  have read : rule.kind.read? text = some value := read
  show rule.kind.reread? value = none
  rw [kind] at read ⊢
  exact ValueKind.reread?_contentItems read

end Slot

namespace Parameters

variable {place : Place} {value : Json} {claim : String}

/-- What is reread in a place for the value that is there. -/
def rereadAt? (place : Place) (value : Json) : Option Json :=
  (writtenAt? place value).bind fun entry => (Claims.ofParameter? entry.1 entry.2).map Prod.snd

theorem writtenAt?_place (slot : Slot) (value : Json) :
    writtenAt? slot.place value = (slot.write? value).map fun text => (slot.parameter, text) := by
  refine Option.ext fun entry => ?_
  obtain ⟨parameter, text⟩ := entry
  rw [writtenAt?_eq_some_iff, Option.map_eq_some_iff]
  constructor
  · rintro ⟨other, placed, rfl, written⟩
    cases Slot.place_injective placed
    exact ⟨text, written, rfl⟩
  · rintro ⟨text, written, same⟩
    cases same
    exact ⟨slot, rfl, rfl, written⟩

theorem rereadAt?_place (slot : Slot) (value : Json) : rereadAt? slot.place value = slot.reread? value := by
  rw [rereadAt?, writtenAt?_place, Slot.reread?]
  cases slot.write? value with
  | none => rfl
  | some text =>
    rw [Option.map_some, Option.bind_some, Option.bind_some, Slot.ofParameter?_parameter, Option.map_map]
    exact Option.map_id'

/-- In a place whose value was read from a parameter, rereading changes nothing in what is written, but
that content items are lost. -/
theorem writtenAt?_rereadAt? (read : ∀ slot : Slot, slot.place = place → ∃ text, slot.read? text = some value) :
    (rereadAt? place value).bind (writtenAt? place) =
      (writtenAt? place value).filter fun entry => entry.1 ≠ "content_items" := by
  cases written : writtenAt? place value with
  | none =>
    rw [rereadAt?, written]
    rfl
  | some entry =>
    obtain ⟨parameter, text⟩ := entry
    obtain ⟨slot, rfl, rfl, _⟩ := writtenAt?_eq_some_iff.mp written
    obtain ⟨_, read⟩ := read slot rfl
    rw [rereadAt?_place]
    by_cases items : slot.parameter = "content_items"
    · rw [Slot.reread?_contentItems items read, Option.filter_some, if_neg (by simpa using items)]
      rfl
    · obtain ⟨again, reread, same⟩ := Slot.settles items read
      rw [reread, Option.bind_some, writtenAt?_place, same, ← writtenAt?_place, written, Option.filter_some,
        if_pos (by simpa using items)]

/-- Members of a group claim as they are reread. -/
def rereadMembers (claim : String) (members : Entries Json) : Entries Json :=
  Entries.changed (fun name held => rereadAt? ⟨claim, some name⟩ held) members

/-- What is reread for a whole claim. A group of which nothing is left is not there. -/
def rereadClaim? (claim : String) (value : Json) : Option Json :=
  match Rule.ofPlace? ⟨claim, none⟩ with
  | some _ => rereadAt? ⟨claim, none⟩ value
  | none =>
    match rereadMembers claim (value.object?.getD ∅).entries with
    | [] => none
    | members => some (.ofMap (.ofList members))

theorem rereadClaim?_of_direct {rule : Rule} (direct : Rule.ofPlace? ⟨claim, none⟩ = some rule) :
    rereadClaim? claim value = rereadAt? ⟨claim, none⟩ value := by
  rw [rereadClaim?, direct]

theorem rereadClaim?_of_group (group : Rule.ofPlace? ⟨claim, none⟩ = none) : rereadClaim? claim value =
    match rereadMembers claim (value.object?.getD ∅).entries with
    | [] => none
    | members => some (.ofMap (.ofList members)) := by
  rw [rereadClaim?, group]

/-- The parameters for a claim have different names. -/
theorem keys_ofClaim_nodup (claim : String) (value : Json) : (Entries.keys (ofClaim claim value)).Nodup := by
  cases direct : Rule.ofPlace? ⟨claim, none⟩ with
  | some rule =>
    rw [ofClaim_of_direct direct]
    cases writtenAt? ⟨claim, none⟩ value <;> simp [Entries.keys]
  | none =>
    rw [ofClaim_of_group direct, Entries.keys, List.Nodup, List.pairwise_map, List.pairwise_filterMap]
    have distinct := List.pairwise_map.mp (value.object?.getD ∅).distinct
    refine distinct.imp fun apart left written right written' same => ?_
    obtain ⟨slot, placed, named, _⟩ := writtenAt?_eq_some_iff.mp written
    obtain ⟨other, placed', named', _⟩ := writtenAt?_eq_some_iff.mp written'
    cases Slot.parameter_injective (named.trans (same.trans named'.symm))
    exact apart (Option.some.inj (congrArg Place.member (placed.symm.trans placed')))

/-- The parameters for claims stand in the order of the claims. -/
theorem entries_ofClaims (claims : Claims) :
    (ofClaims claims).entries = claims.entries.flatMap fun claim => ofClaim claim.1 claim.2 := by
  refine OrderedMap.entries_ofList ?_
  rw [Entries.keys, List.map_flatMap, List.nodup_flatMap]
  refine ⟨fun claim _ => keys_ofClaim_nodup claim.1 claim.2, ?_⟩
  refine (List.pairwise_map.mp claims.distinct).imp fun {claim other} apart => ?_
  intro parameter member member'
  obtain ⟨⟨_, text⟩, written, rfl⟩ := List.mem_map.mp member
  obtain ⟨⟨_, text'⟩, written', same⟩ := List.mem_map.mp member'
  obtain ⟨slot, named, sameClaim, _⟩ := mem_ofClaim_iff.mp written
  obtain ⟨slot', named', sameClaim', _⟩ := mem_ofClaim_iff.mp written'
  cases Slot.parameter_injective (named'.trans (same.trans named.symm))
  exact apart (sameClaim.symm.trans sameClaim')

end Parameters

namespace Claims

open Parameters (writtenAt? rereadAt? rereadMembers rereadClaim? ofClaim)

variable {claims : Claims} {place : Place} {name : String} {value : Json}

/-- What is written in a place is put back there, as far as it is read. -/
theorem foldl_add_written (claims : Claims) (place : Place) (value : Json) :
    (writtenAt? place value).toList.foldl add claims =
      ((rereadAt? place value).map (claims.put place)).getD claims := by
  cases written : writtenAt? place value with
  | none =>
    rw [rereadAt?, written]
    rfl
  | some entry =>
    obtain ⟨parameter, text⟩ := entry
    obtain ⟨slot, rfl, rfl, _⟩ := Parameters.writtenAt?_eq_some_iff.mp written
    rw [rereadAt?, written, Option.bind_some, Option.toList_some, List.foldl_cons, List.foldl_nil, add,
      Slot.ofParameter?_parameter]
    cases slot.read? text <;> rfl

theorem put_member (claims : Claims) (name : String) (built : OrderedMap Json) (member : String) (value : Json) :
    put (claims.insert name (.ofMap built)) ⟨name, some member⟩ value =
      claims.insert name (.ofMap (built.insert member value)) := by
  simp [put]

/-- Members join those that are already there. -/
theorem foldl_add_members (claims : Claims) (name : String) (built : OrderedMap Json) (members : Entries Json) :
    (members.flatMap fun member => (writtenAt? ⟨name, some member.1⟩ member.2).toList).foldl add
        (claims.insert name (.ofMap built)) =
      claims.insert name (.ofMap (built.insertAll (rereadMembers name members))) := by
  induction members generalizing built with
  | nil => rfl
  | cons member rest ih =>
    obtain ⟨member, held⟩ := member
    rw [List.flatMap_cons, List.foldl_append, foldl_add_written]
    cases reread : rereadAt? ⟨name, some member⟩ held with
    | none =>
      rw [rereadMembers, Entries.changed_cons_none _ reread]
      exact ih built
    | some again =>
      rw [rereadMembers, Entries.changed_cons_some _ reread, Option.map_some, Option.getD_some, put_member]
      exact ih _

/-- The first member that is put back makes the group. -/
theorem foldl_add_group (fresh : claims.get? name = none) (members : Entries Json) :
    (members.flatMap fun member => (writtenAt? ⟨name, some member.1⟩ member.2).toList).foldl add claims =
      match rereadMembers name members with
      | [] => claims
      | members => claims.insert name (.ofMap (.ofList members)) := by
  induction members with
  | nil => rfl
  | cons member rest ih =>
    obtain ⟨member, held⟩ := member
    rw [List.flatMap_cons, List.foldl_append, foldl_add_written]
    cases reread : rereadAt? ⟨name, some member⟩ held with
    | none =>
      rw [rereadMembers, Entries.changed_cons_none _ reread]
      exact ih
    | some again =>
      have first : claims.put ⟨name, some member⟩ again =
          claims.insert name (.ofMap (OrderedMap.insert ∅ member again)) := by
        simp only [put, fresh, Option.bind_none, Option.getD_none]
      rw [rereadMembers, Entries.changed_cons_some _ reread, Option.map_some, Option.getD_some, first]
      exact foldl_add_members claims name _ rest

/-- What is written for a claim comes back as one claim, behind those that are there. -/
theorem foldl_add_ofClaim (fresh : claims.get? name = none) (value : Json) :
    (ofClaim name value).foldl add claims = ((rereadClaim? name value).map (claims.insert name)).getD claims := by
  cases direct : Rule.ofPlace? ⟨name, none⟩ with
  | some rule =>
    rw [Parameters.ofClaim_of_direct direct, foldl_add_written, Parameters.rereadClaim?_of_direct direct]
    rfl
  | none =>
    rw [Parameters.ofClaim_of_group direct, List.filterMap_eq_flatMap_toList, foldl_add_group fresh,
      Parameters.rereadClaim?_of_group direct]
    cases rereadMembers name (value.object?.getD ∅).entries <;> rfl

/-- Claim after claim comes back in its turn. -/
theorem foldl_add_ofClaims {entries : Entries Json} (distinct : Entries.keys (claims.entries ++ entries) |>.Nodup) :
    OrderedMap.entries ((entries.flatMap fun claim => ofClaim claim.1 claim.2).foldl add claims) =
      claims.entries ++ Entries.changed rereadClaim? entries := by
  -- No claim that is still to come is there yet, so each of them goes to the end.
  induction entries generalizing claims with
  | nil => exact (List.append_nil _).symm
  | cons entry rest ih =>
    obtain ⟨name, value⟩ := entry
    have fresh : claims.get? name = none := by
      refine Entries.get?_eq_none_iff.mpr fun member => ?_
      rw [Entries.keys, List.map_append, List.nodup_append] at distinct
      exact distinct.2.2 _ member _ (List.mem_cons_self ..) rfl
    rw [List.flatMap_cons, List.foldl_append, foldl_add_ofClaim fresh]
    cases reread : rereadClaim? name value with
    | none =>
      rw [Entries.changed_cons_none _ reread, Option.map_none, Option.getD_none]
      refine ih (distinct.sublist ?_)
      exact ((List.sublist_cons_self _ rest).append_left claims.entries).map Prod.fst
    | some again =>
      have added : (claims.insert name again).entries = claims.entries ++ [(name, again)] :=
        OrderedMap.entries_insert_of_get?_eq_none fresh
      rw [Entries.changed_cons_some _ reread, Option.map_some, Option.getD_some, ih, added, List.append_assoc]
      · rfl
      · rw [added]
        simpa [Entries.keys] using distinct

/-- Claims that are written and read come back in their order, each reread for itself. -/
theorem entries_reread (claims : Claims) :
    (ofParameters (Parameters.ofClaims claims)).entries = Entries.changed rereadClaim? claims.entries := by
  rw [ofParameters_eq_foldl, Parameters.entries_ofClaims]
  exact foldl_add_ofClaims claims.distinct

end Claims

namespace Parameters

variable {claim : String} {value : Json}

/-- For a reread group the parameters of its reread members are written. -/
theorem ofClaim_rereadGroup (group : Rule.ofPlace? ⟨claim, none⟩ = none) :
    (rereadClaim? claim value).toList.flatMap (ofClaim claim) =
      (rereadMembers claim (value.object?.getD ∅).entries).filterMap fun member =>
        writtenAt? ⟨claim, some member.1⟩ member.2 := by
  have distinct : (Entries.keys (rereadMembers claim (value.object?.getD ∅).entries)).Nodup :=
    (Entries.keys_changed _ _).nodup (value.object?.getD ∅).distinct
  rw [rereadClaim?_of_group group]
  cases reread : rereadMembers claim (value.object?.getD ∅).entries with
  | nil => rfl
  | cons member rest =>
    rw [Option.toList_some, List.flatMap_singleton, ofClaim_of_group group, Json.object?_ofMap,
      Option.getD_some, OrderedMap.entries_ofList (by rwa [← reread])]

/-- Rereading a claim that was read changes nothing in what is written for it, but that content items are
lost. -/
theorem ofClaim_rereadClaim? (read : ∀ (slot : Slot) held, slot.place.claim = claim →
      slot.place.within? value = some held → ∃ text, slot.read? text = some held) :
    (rereadClaim? claim value).toList.flatMap (ofClaim claim) =
      (ofClaim claim value).filter fun entry => entry.1 ≠ "content_items" := by
  cases direct : Rule.ofPlace? ⟨claim, none⟩ with
  | some rule =>
    have settled : (rereadAt? ⟨claim, none⟩ value).bind (writtenAt? ⟨claim, none⟩) =
        (writtenAt? ⟨claim, none⟩ value).filter fun entry => entry.1 ≠ "content_items" :=
      writtenAt?_rereadAt? fun slot placed => read slot value (by rw [placed]) (by rw [placed]; rfl)
    rw [rereadClaim?_of_direct direct, ofClaim_of_direct direct, ← Option.toList_filter, ← settled]
    cases rereadAt? ⟨claim, none⟩ value with
    | none => rfl
    | some again =>
      rw [Option.toList_some, List.flatMap_singleton, ofClaim_of_direct direct]
      rfl
  | none =>
    rw [ofClaim_rereadGroup direct, ofClaim_of_group direct, rereadMembers, Entries.changed,
      List.filterMap_filterMap, List.filter_filterMap]
    refine List.filterMap_congr fun member here => ?_
    have settled : (rereadAt? ⟨claim, some member.1⟩ member.2).bind (writtenAt? ⟨claim, some member.1⟩) =
        (writtenAt? ⟨claim, some member.1⟩ member.2).filter fun entry => entry.1 ≠ "content_items" :=
      writtenAt?_rereadAt? fun slot placed => read slot member.2 (by rw [placed]) <| by
        rw [placed]
        exact Json.mem_members_iff.mp here
    rw [← settled]
    cases rereadAt? ⟨claim, some member.1⟩ member.2 <;> rfl

/-- The parameters once they have been claims. -/
def throughClaims (parameters : Parameters) : Parameters := ofClaims (.ofParameters parameters)

theorem entries_throughClaims_throughClaims (parameters : Parameters) :
    parameters.throughClaims.throughClaims.entries =
      parameters.throughClaims.entries.filter fun entry => entry.1 ≠ "content_items" := by
  simp only [throughClaims, entries_ofClaims, Claims.entries_reread, Entries.flatMap_changed, List.filter_flatMap]
  refine List.flatMap_congr fun claim member => ofClaim_rereadClaim? fun slot held sameClaim within => ?_
  have said : (Claims.ofParameters parameters).at? slot.place = some held := by
    rw [Claims.at?_eq_bind, sameClaim, OrderedMap.mem_entries_iff.mp member]
    exact within
  rw [Claims.at?_ofParameters] at said
  obtain ⟨text, _, read⟩ := Option.bind_eq_some_iff.mp said
  exact ⟨text, read⟩

theorem throughClaims_settled (parameters : Parameters) :
    parameters.throughClaims.throughClaims.throughClaims = parameters.throughClaims.throughClaims := by
  refine OrderedMap.eq_of_entries ?_
  rw [entries_throughClaims_throughClaims, entries_throughClaims_throughClaims, List.filter_filter]
  simp only [Bool.and_self]

/-- The graph of content items is no claim. -/
theorem ofParameter?_throughClaims {parameters : Parameters} {name text : String}
    (member : (name, text) ∈ parameters.throughClaims.entries) (items : name = "content_items") :
    Claims.ofParameter? name text = none := by
  obtain ⟨rule, listed, named, _⟩ := Rule.exists_contentItems
  have slot : (Slot.ruled rule listed).parameter = name := named.trans items.symm
  rw [OrderedMap.mem_entries_iff, throughClaims, ← slot, get?_ofClaims, Claims.at?_ofParameters] at member
  obtain ⟨value, said, written⟩ := Option.bind_eq_some_iff.mp member
  obtain ⟨_, _, read⟩ := Option.bind_eq_some_iff.mp said
  have unread : ((Slot.ruled rule listed).write? value).bind (Slot.ruled rule listed).read? = none :=
    Slot.reread?_contentItems named read
  rw [written, Option.bind_some] at unread
  simp [← slot, unread]

end Parameters

namespace Claims

theorem foldl_add_filter {entries : Entries String} {keep : String × String → Bool}
    (idle : ∀ entry ∈ entries, keep entry = false → ofParameter? entry.1 entry.2 = none) (claims : Claims) :
    (entries.filter keep).foldl add claims = entries.foldl add claims := by
  rw [List.foldl_filter]
  refine List.foldl_ext _ _ _ fun claims entry member => ?_
  split
  · rfl
  · next dropped =>
    rw [add, idle entry member (Bool.not_eq_true _ ▸ dropped)]

theorem ofParameters_throughClaims_throughClaims (parameters : Parameters) :
    ofParameters parameters.throughClaims.throughClaims = ofParameters parameters.throughClaims := by
  rw [ofParameters_eq_foldl, ofParameters_eq_foldl, Parameters.entries_throughClaims_throughClaims]
  refine foldl_add_filter (fun entry member dropped => ?_) ∅
  exact Parameters.ofParameter?_throughClaims member (by simpa using dropped)

/-- The claims once they have been parameters. -/
def throughParameters (claims : Claims) : Claims := ofParameters (.ofClaims claims)

end Claims

/-- A second trip through the claims only loses content items, and a third nothing at all. The same holds
of trips through the parameters. -/
theorem conversion_settles :
    (∀ parameters : Parameters,
      parameters.throughClaims.throughClaims.entries =
        (parameters.throughClaims.entries.filter fun entry => entry.1 ≠ "content_items") ∧
      parameters.throughClaims.throughClaims.throughClaims = parameters.throughClaims.throughClaims) ∧
    ∀ claims : Claims, claims.throughParameters.throughParameters.throughParameters =
      claims.throughParameters.throughParameters :=
  ⟨fun parameters => ⟨parameters.entries_throughClaims_throughClaims, parameters.throughClaims_settled⟩,
    fun claims => Claims.ofParameters_throughClaims_throughClaims (.ofClaims claims)⟩

/-- Content items are there after one trip, as a graph, and gone after the second. -/
example :
    (Parameters.throughClaims (.ofList [("content_items", "[]")])).keys = ["content_items"] ∧
      (Parameters.throughClaims (.ofList [("content_items", "[]")])).throughClaims.keys = [] := by
  decide +kernel

end LtiPlatform
