import LtiPlatform.Proofs.Claims.Canonical

namespace LtiPlatform

/-- The pieces between the commas of a text, without white space around them and without empty ones. -/
def commaPieces (text : String) : List String :=
  ((Text.split ',' text).map Text.trim).filter fun piece => !piece.isEmpty

/-- The same texts, each as often as before, in the order of their bytes. -/
structure Text.IsSortingOf (sorted texts : List String) : Prop where
  order : sorted.Pairwise (· ≤ ·)
  perm : sorted.Perm texts

namespace Text

theorem isSortingOf_sort (texts : List String) : IsSortingOf (sort texts) texts :=
  ⟨sort_sorted texts, sort_perm texts⟩

theorem IsSortingOf.eq_sort {sorted texts : List String} (sorting : IsSortingOf sorted texts) :
    sorted = sort texts :=
  (sort_eq_of_perm sorting.order sorting.perm.symm).symm

end Text

namespace MessageType

/-- The LTI 1.3 name of a message. A name that is no legacy name stands for itself. -/
inductive Names : String → String → Prop
  | legacy {name modern : String} (known : (name, modern) ∈ names) : Names name modern
  | other {name : String} (unknown : ∀ message ∈ names, message.1 ≠ name) : Names name name

theorem toModern_eq_iff {name modern : String} : toModern name = modern ↔ Names name modern := by
  have table : ∀ message ∈ names, toModern message.1 = message.2 := by decide
  have unchanged : (∀ message ∈ names, message.1 ≠ name) → toModern name = name := by
    intro unknown
    have absent : names.find? (·.1 == name) = none := by simpa using unknown
    rw [toModern, absent, Option.map_none, Option.getD_none]
  constructor
  · rintro rfl
    by_cases unknown : ∀ message ∈ names, message.1 ≠ name
    · rw [unchanged unknown]
      exact .other unknown
    · push Not at unknown
      obtain ⟨message, member, rfl⟩ := unknown
      rw [table message member]
      exact .legacy member
  · intro meant
    cases meant with
    | legacy known => exact table _ known
    | other unknown => exact unchanged unknown

end MessageType

namespace ValueKind

/-- What a text means as a claim, for each kind of value. Of the names in a vocabulary those that it does not
know mean nothing, and content items mean something only where they are a JSON array. -/
inductive Means : ValueKind → String → Json → Prop
  | text (text : String) : Means .text text (.string text)
  | flag {text : String} {truth : Bool} (isTrue : truth ↔ text = "true") : Means .flag text (.bool truth)
  | list {text : String} {pieces : List String} (sorting : Text.IsSortingOf pieces (commaPieces text)) :
    Means .list text (.ofStrings pieces)
  | roles {text : String} {roles : List String}
    (sorting : Text.IsSortingOf roles ((commaPieces text).filterMap Role.vocabulary.toModern?)) :
    Means .roles text (.ofStrings roles)
  | contextTypes {text : String} {types : List String}
    (sorting : Text.IsSortingOf types ((commaPieces text).filterMap ContextType.vocabulary.toModern?)) :
    Means .contextTypes text (.ofStrings types)
  | messageType {text modern : String} (named : MessageType.Names text modern) :
    Means .messageType text (.string modern)
  | contentItems {text : String} {items : List Json} (parsed : Json.parse? text = some (.array items)) :
    Means .contentItems text (.array items)

variable {kind : ValueKind} {text : String} {value : Json}

/-- The modern forms of sorted pieces are those of the pieces as they stand, once they are sorted. -/
theorem isSortingOf_modernSorted (vocabulary : Vocabulary) (text : String) :
    Text.IsSortingOf (modernSorted vocabulary ((listPieces text).map some))
      ((commaPieces text).filterMap vocabulary.toModern?) := by
  rw [modernSorted_some]
  refine ⟨Text.sort_sorted _, (Text.sort_perm _).trans ?_⟩
  exact (Text.sort_perm (commaPieces text)).filterMap _

theorem read?_eq_some_iff : kind.read? text = some value ↔ kind.Means text value := by
  constructor
  · intro read
    cases kind with
    | text => cases read; exact .text text
    | flag => cases read; exact .flag beq_iff_eq
    | list => cases read; exact .list (Text.isSortingOf_sort _)
    | roles => cases read; exact .roles (isSortingOf_modernSorted _ text)
    | contextTypes => cases read; exact .contextTypes (isSortingOf_modernSorted _ text)
    | messageType => cases read; exact .messageType (MessageType.toModern_eq_iff.mp rfl)
    | contentItems =>
      obtain ⟨items, rfl, parsed⟩ := exists_array_of_contentItems read
      exact .contentItems parsed
  · intro means
    cases means with
    | text => rfl
    | flag isTrue => rw [read?, Bool.eq_iff_iff.mpr (beq_iff_eq.trans isTrue.symm)]
    | list sorting => rw [sorting.eq_sort]; rfl
    | roles sorting => rw [sorting.eq_sort, ← (isSortingOf_modernSorted _ text).eq_sort]; rfl
    | contextTypes sorting => rw [sorting.eq_sort, ← (isSortingOf_modernSorted _ text).eq_sort]; rfl
    | messageType named => rw [read?, MessageType.toModern_eq_iff.mpr named]
    | contentItems parsed => rw [read?, contentItemArray?, parsed]

/-- Every text means something, but for content items. -/
theorem exists_means_iff : (∃ value, kind.Means text value) ↔
    (kind = .contentItems → ∃ items, Json.parse? text = some (.array items)) := by
  constructor
  · rintro ⟨value, means⟩ rfl
    cases means with
    | contentItems parsed => exact ⟨_, parsed⟩
  · intro array
    cases kind with
    | contentItems =>
      obtain ⟨items, parsed⟩ := array rfl
      exact ⟨_, .contentItems parsed⟩
    | _ => exact ⟨_, read?_eq_some_iff.mp rfl⟩

end ValueKind

namespace Parameters

/-- The place among the claims that a parameter stands for: that of its rule, or a member of the open group that it
begins like. -/
inductive StandsFor (name : String) : Place → Prop
  | ruled {rule : Rule} (member : rule ∈ Rule.table) (named : rule.parameter = name) : StandsFor name rule.place
  | free (group : OpenGroup) {member : String} (named : group.parameter member = name)
    (unmapped : ∀ rule ∈ Rule.table, rule.parameter ≠ name) : StandsFor name ⟨group.claim, some member⟩

section StandsFor

variable {name other : String} {place : Place}

theorem standsFor_iff_slot : StandsFor name place ↔ ∃ slot : Slot, slot.parameter = name ∧ slot.place = place := by
  constructor
  · intro stands
    cases stands with
    | ruled member named => exact ⟨.ruled _ member, named, rfl⟩
    | free group named unmapped =>
      exact ⟨.free group _ (Rule.ofParameter?_eq_none_iff.mpr (named ▸ unmapped)), named, rfl⟩
  · rintro ⟨slot, rfl, rfl⟩
    cases slot with
    | ruled rule member => exact .ruled member rfl
    | free group member unmapped => exact .free group rfl (Rule.ofParameter?_eq_none_iff.mp unmapped)

theorem StandsFor.place_unique {otherPlace : Place} (stands : StandsFor name place)
    (stands' : StandsFor name otherPlace) : place = otherPlace := by
  obtain ⟨slot, named, rfl⟩ := standsFor_iff_slot.mp stands
  obtain ⟨slot', named', rfl⟩ := standsFor_iff_slot.mp stands'
  cases Slot.parameter_injective (named.trans named'.symm)
  rfl

theorem StandsFor.name_unique (stands : StandsFor name place) (stands' : StandsFor other place) : name = other := by
  obtain ⟨slot, rfl, placed⟩ := standsFor_iff_slot.mp stands
  obtain ⟨slot', rfl, placed'⟩ := standsFor_iff_slot.mp stands'
  cases Slot.place_injective (placed.trans placed'.symm)
  rfl

end StandsFor

/-- What a parameter says among the claims, and where: in the place of its rule, or else as a member of the
open group that it begins like. -/
inductive Fills (name text : String) : Place → Json → Prop
  | ruled {rule : Rule} {value : Json} (member : rule ∈ Rule.table) (named : rule.parameter = name)
    (means : rule.kind.Means text value) : Fills name text rule.place value
  | free (group : OpenGroup) {member : String} (nonempty : member ≠ "") (named : group.parameter member = name)
    (unmapped : ∀ rule ∈ Rule.table, rule.parameter ≠ name) :
    Fills name text ⟨group.claim, some member⟩ (.string text)

/-- The parameter is a mapped one, content items only as a JSON array, or it begins like those of an open group,
with a name behind it. -/
inductive IsTaken (name text : String) : Prop
  | mapped {rule : Rule} (member : rule ∈ Rule.table) (named : rule.parameter = name)
    (array : name = "content_items" → ∃ items, Json.parse? text = some (.array items))
  | free (group : OpenGroup) {member : String} (nonempty : member ≠ "") (named : group.parameter member = name)
    (unmapped : ∀ rule ∈ Rule.table, rule.parameter ≠ name)

variable {name text : String} {place : Place} {value : Json}

theorem fills_iff_slot : Fills name text place value ↔
    ∃ slot : Slot, slot.parameter = name ∧ slot.place = place ∧ slot.read? text = some value := by
  constructor
  · intro fills
    cases fills with
    | ruled member named means =>
      exact ⟨.ruled _ member, named, rfl, ValueKind.read?_eq_some_iff.mpr means⟩
    | free group nonempty named unmapped =>
      refine ⟨.free group _ ?_, named, rfl, if_neg nonempty⟩
      rw [named]
      exact Rule.ofParameter?_eq_none_iff.mpr unmapped
  · rintro ⟨slot, named, rfl, read⟩
    cases slot with
    | ruled rule member => exact .ruled member named (ValueKind.read?_eq_some_iff.mp read)
    | free group member unmapped =>
      simp only [Slot.read?, Option.ite_none_left_eq_some, Option.some.injEq] at read
      obtain ⟨nonempty, rfl⟩ := read
      rw [show group.parameter member = name from named] at unmapped
      exact .free group nonempty named (Rule.ofParameter?_eq_none_iff.mp unmapped)

theorem isTaken_iff_fills : IsTaken name text ↔ ∃ place value, Fills name text place value := by
  constructor
  · intro taken
    cases taken with
    | mapped member named array =>
      obtain ⟨value, means⟩ := ValueKind.exists_means_iff.mpr fun kind =>
        array (named.symm.trans (Rule.parameter_of_contentItems _ member kind))
      exact ⟨_, value, .ruled member named means⟩
    | free group nonempty named unmapped => exact ⟨_, _, .free group nonempty named unmapped⟩
  · rintro ⟨place, value, fills⟩
    cases fills with
    | ruled member named means =>
      refine .mapped member named fun items => ?_
      obtain ⟨listed, listedMember, listedNamed, kind⟩ := Rule.exists_contentItems
      cases Rule.parameter_injective listedMember member (listedNamed.trans (items.symm.trans named.symm))
      exact ValueKind.exists_means_iff.mp ⟨_, means⟩ kind
    | free group nonempty named unmapped => exact .free group nonempty named unmapped

theorem Fills.standsFor (fills : Fills name text place value) : StandsFor name place := by
  cases fills with
  | ruled member named _ => exact .ruled member named
  | free group _ named unmapped => exact .free group named unmapped

theorem Fills.value_unique {otherValue : Json} (fills : Fills name text place value)
    (fills' : Fills name text place otherValue) : value = otherValue := by
  obtain ⟨slot, _, placed, read⟩ := fills_iff_slot.mp fills
  obtain ⟨slot', _, placed', read'⟩ := fills_iff_slot.mp fills'
  cases Slot.place_injective (placed.trans placed'.symm)
  exact Option.some.inj (read.symm.trans read')

end Parameters

namespace Claims

/-- The places that a claim fills: the claim itself, or each of its members if it is an object. -/
def placesOf (name : String) (value : Json) : List (Place × Json) :=
  match value.object? with
  | none => [(⟨name, none⟩, value)]
  | some members => members.entries.map fun member => (⟨name, some member.1⟩, member.2)

/-- All places that are filled, with what is in them. -/
def places (claims : Claims) : List (Place × Json) :=
  claims.entries.flatMap fun claim => placesOf claim.1 claim.2

variable {claims : Claims} {place : Place} {value : Json}

theorem mem_placesOf_iff {name : String} {whole : Json} : (place, value) ∈ placesOf name whole ↔
    (place = ⟨name, none⟩ ∧ value = whole ∧ whole.object? = none) ∨
      ∃ member, place = ⟨name, some member⟩ ∧ whole.member? member = some value := by
  unfold placesOf
  cases isObject : whole.object? with
  | none => simp [Json.member?, isObject]
  | some members =>
    simp only [List.mem_map, Prod.exists, OrderedMap.mem_entries_iff, Json.member?, isObject, Option.bind_some,
      reduceCtorEq, and_false, false_or, Prod.mk.injEq]
    constructor
    · rintro ⟨member, held, found, rfl, rfl⟩
      exact ⟨member, rfl, found⟩
    · rintro ⟨member, rfl, found⟩
      exact ⟨member, value, found, rfl, rfl⟩

theorem nodup_placesOf (name : String) (whole : Json) : ((placesOf name whole).map Prod.fst).Nodup := by
  unfold placesOf
  cases whole.object? with
  | none => simp
  | some members =>
    rw [List.map_map, List.Nodup, List.pairwise_map]
    refine (List.pairwise_map.mp members.distinct).imp fun apart same => apart ?_
    exact Option.some.inj (congrArg Place.member same)

theorem claim_of_mem_placesOf {name : String} {whole : Json} (member : place ∈ (placesOf name whole).map Prod.fst) :
    place.claim = name := by
  obtain ⟨⟨_, held⟩, here, rfl⟩ := List.mem_map.mp member
  rcases mem_placesOf_iff.mp here with ⟨placed, _⟩ | ⟨_, placed, _⟩ <;> rw [placed]

theorem nodup_places (claims : Claims) : (claims.places.map Prod.fst).Nodup := by
  rw [places, List.map_flatMap, List.nodup_flatMap]
  refine ⟨fun claim _ => nodup_placesOf claim.1 claim.2, ?_⟩
  refine (List.pairwise_map.mp claims.distinct).imp fun {claim other} apart => ?_
  intro place member member'
  exact apart ((claim_of_mem_placesOf member).symm.trans (claim_of_mem_placesOf member'))

theorem mem_places_iff : (place, value) ∈ claims.places ↔
    ∃ whole, claims.get? place.claim = some whole ∧ (place, value) ∈ placesOf place.claim whole := by
  simp only [places, List.mem_flatMap, Prod.exists, OrderedMap.mem_entries_iff]
  constructor
  · rintro ⟨name, whole, held, here⟩
    cases claim_of_mem_placesOf (List.mem_map_of_mem here)
    exact ⟨whole, held, here⟩
  · rintro ⟨whole, held, here⟩
    exact ⟨place.claim, whole, held, here⟩

section OfParameters

open Parameters (Fills IsTaken)

variable {parameters others : Parameters}

/-- What was read for a slot and is no member is no object either. -/
theorem object?_eq_none_of_alone {slot : Slot} (alone : slot.place.member = none)
    (held : (ofParameters parameters).at? slot.place = some value) : value.object? = none := by
  rw [at?_ofParameters] at held
  obtain ⟨_, _, read⟩ := Option.bind_eq_some_iff.mp held
  exact Slot.object?_of_read? alone read

/-- The places that claims made from parameters fill are those of slots. -/
theorem mem_places_ofParameters_iff_slot : (place, value) ∈ (ofParameters parameters).places ↔
    ∃ slot : Slot, slot.place = place ∧ (ofParameters parameters).at? place = some value := by
  rw [mem_places_iff, at?_eq_bind]
  constructor
  · rintro ⟨whole, held, here⟩
    rw [held, Option.bind_some]
    rcases mem_placesOf_iff.mp here with ⟨placed, rfl, plain⟩ | ⟨member, placed, found⟩
    · rcases shaped_ofParameters parameters _ _ held with ⟨slot, direct⟩ | ⟨members, isObject, _⟩
      · exact ⟨slot, direct.trans placed.symm, by rw [placed]; rfl⟩
      · rw [plain] at isObject
        cases isObject
    · rcases shaped_ofParameters parameters _ _ held with ⟨slot, direct⟩ | ⟨members, isObject, _, known⟩
      · have alone : (ofParameters parameters).at? slot.place = some whole := by rw [direct, at?, held]
        rw [Json.member?, object?_eq_none_of_alone (congrArg Place.member direct) alone] at found
        cases found
      · have present : (members.get? member).isSome := by
          rw [Json.member?, isObject, Option.bind_some] at found
          rw [found, Option.isSome_some]
        obtain ⟨slot, named⟩ := known member present
        exact ⟨slot, named.trans placed.symm, by rw [placed]; exact found⟩
  · rintro ⟨slot, rfl, held⟩
    obtain ⟨whole, found, within⟩ := Option.bind_eq_some_iff.mp held
    refine ⟨whole, found, mem_placesOf_iff.mpr ?_⟩
    cases named : slot.place.member with
    | none =>
      have plain := object?_eq_none_of_alone named ((at?_eq_bind _ _).trans held)
      rw [Place.within?, named] at within
      cases within
      exact .inl ⟨congrArg (Place.mk _) named, rfl, plain⟩
    | some member =>
      rw [Place.within?, named] at within
      exact .inr ⟨member, congrArg (Place.mk _) named, within⟩

/-- A place is filled by what some parameter says there. -/
theorem mem_places_ofParameters_iff : (place, value) ∈ (ofParameters parameters).places ↔
    ∃ name text, parameters.get? name = some text ∧ Fills name text place value := by
  simp only [mem_places_ofParameters_iff_slot, Parameters.fills_iff_slot]
  constructor
  · rintro ⟨slot, rfl, held⟩
    rw [at?_ofParameters] at held
    obtain ⟨text, given, read⟩ := Option.bind_eq_some_iff.mp held
    exact ⟨slot.parameter, text, given, slot, rfl, rfl, read⟩
  · rintro ⟨name, text, given, slot, rfl, rfl, read⟩
    exact ⟨slot, rfl, by simp [given, read]⟩

/-- No claim is there without a place in it. -/
theorem exists_place_of_key {name : String} (known : name ∈ (ofParameters parameters).keys) :
    ∃ entry ∈ (ofParameters parameters).places, entry.1.claim = name := by
  obtain ⟨whole, held⟩ := Option.isSome_iff_exists.mp (Entries.get?_isSome_iff.mpr known)
  obtain ⟨slot, rfl, present⟩ := (shaped_ofParameters parameters).exists_slot held
  obtain ⟨value, there⟩ := Option.isSome_iff_exists.mp present
  exact ⟨(slot.place, value), mem_places_ofParameters_iff_slot.mpr ⟨slot, rfl, there⟩, rfl⟩

/-- Parameters that are taken over alike give the same claims. -/
theorem ofParameters_same (alike : ∀ name text, IsTaken name text →
      (parameters.get? name = some text ↔ others.get? name = some text)) :
    (ofParameters parameters).Same (ofParameters others) := by
  refine (shaped_ofParameters _).same (shaped_ofParameters _) fun slot => ?_
  have sameRead : (parameters.get? slot.parameter).bind slot.read? = (others.get? slot.parameter).bind slot.read? := by
    refine Option.ext fun value => ?_
    simp only [Option.bind_eq_some_iff]
    refine exists_congr fun text => and_congr_left fun read => alike _ _ ?_
    exact Parameters.isTaken_iff_fills.mpr ⟨_, value, Parameters.fills_iff_slot.mpr ⟨slot, rfl, rfl, read⟩⟩
  rw [at?_ofParameters, at?_ofParameters, sameRead]
  cases (others.get? slot.parameter).bind slot.read? with
  | none => exact .none
  | some value => exact .some (.refl value)

/-- The claims and the parameters correspond: what fills a place goes back to one parameter, and each parameter that
is taken over fills one place, with the one thing that its text says. -/
structure Transcribes (claims : Claims) (parameters : Parameters) : Prop where
  distinct : (claims.places.map Prod.fst).Nodup
  inhabited : ∀ name ∈ claims.keys, ∃ entry ∈ claims.places, entry.1.claim = name
  filled : ∀ place value, (place, value) ∈ claims.places →
    ∃! name, ∃ text, parameters.get? name = some text ∧ IsTaken name text ∧ Fills name text place value
  taken : ∀ name text, parameters.get? name = some text → IsTaken name text →
    ∃ entry ∈ claims.places, ∀ place value, Fills name text place value ↔ (place, value) = entry

theorem transcribes_ofParameters (parameters : Parameters) : (ofParameters parameters).Transcribes parameters where
  distinct := nodup_places _
  inhabited _ known := exists_place_of_key known
  filled place value here := by
    obtain ⟨name, text, given, fills⟩ := mem_places_ofParameters_iff.mp here
    refine ⟨name, ⟨text, given, Parameters.isTaken_iff_fills.mpr ⟨place, value, fills⟩, fills⟩, ?_⟩
    rintro other ⟨otherText, _, _, fills'⟩
    exact fills'.standsFor.name_unique fills.standsFor
  taken name text given taken := by
    obtain ⟨place, value, fills⟩ := Parameters.isTaken_iff_fills.mp taken
    refine ⟨(place, value), mem_places_ofParameters_iff.mpr ⟨name, text, given, fills⟩, ?_⟩
    intro otherPlace otherValue
    constructor
    · intro fills'
      cases fills.standsFor.place_unique fills'.standsFor
      rw [fills.value_unique fills']
    · intro same
      cases same
      exact fills

/-- Taking parameters over loses, duplicates and mixes nothing. Each fills its own place with what its text means;
their order and parameters that are not taken over make no difference, and a parameter that changes leaves all places
but its own as they are. -/
theorem ofParameters_place_by_place (parameters : Parameters) :
    (ofParameters parameters).Transcribes parameters ∧
    (∀ others : Parameters, parameters.entries.Perm others.entries →
      (ofParameters parameters).Same (ofParameters others)) ∧
    (∀ name, (∀ text, ¬ IsTaken name text) →
      (∀ text, (ofParameters parameters).Same (ofParameters (parameters.insert name text))) ∧
      (ofParameters parameters).Same (ofParameters (parameters.erase name))) ∧
    ∀ name (others : Parameters), (∀ other ≠ name, parameters.get? other = others.get? other) →
      ∀ place, (∀ text value, ¬ Fills name text place value) →
        ∀ value, (place, value) ∈ (ofParameters parameters).places ↔ (place, value) ∈ (ofParameters others).places := by
  refine ⟨transcribes_ofParameters parameters, ?_, ?_, ?_⟩
  · intro others perm
    exact ofParameters_same fun name text _ => by rw [OrderedMap.perm_iff_get?_eq.mp perm name]
  · intro name untaken
    have apart : ∀ other text, IsTaken other text → name ≠ other := by
      rintro other text taken rfl
      exact untaken text taken
    refine ⟨fun text => ofParameters_same fun other text' taken => ?_, ofParameters_same fun other text' taken => ?_⟩
    · rw [OrderedMap.get?_insert_of_ne (apart other text' taken)]
    · rw [OrderedMap.get?_erase_of_ne (apart other text' taken)]
  · intro name others unchanged place elsewhere value
    rw [mem_places_ofParameters_iff, mem_places_ofParameters_iff]
    refine exists_congr fun other => exists_congr fun text => and_congr_left fun fills => ?_
    have different : other ≠ name := by
      rintro rfl
      exact elsewhere text value fills
    rw [unchanged other different]

/-- A custom parameter with a rule goes where its rule says, and content items in another form nowhere. -/
example :
    (ofParameters (.ofList [("custom_lineitems_url", "u"), ("content_items", "x"), ("custom_a", "v")])).places.map
      Prod.fst =
    [⟨Rule.claimRoot "ags" ++ "endpoint", some "lineitems"⟩, ⟨OpenGroup.custom.claim, some "a"⟩] := by
  decide +kernel

end OfParameters

end Claims

end LtiPlatform
