import LtiPlatform.Proofs.Claims.Places
import LtiPlatform.Proofs.Claims.Settling

namespace LtiPlatform

namespace Json

/-- The flat text of a scalar. Null has none. -/
inductive IsScalarText : Json → String → Prop
  | string (text : String) : IsScalarText (.string text) text
  | yes : IsScalarText (.bool true) "true"
  | no : IsScalarText (.bool false) "false"
  | number (number : JsonNumber) : IsScalarText (.number number) number.toText

/-- The flat text of a value. An array of scalars is a list of their texts that leaves nulls out, and anything
deeper stays JSON. -/
inductive IsFlatText : Json → String → Prop
  | scalar {value : Json} {text : String} (spelled : IsScalarText value text) : IsFlatText value text
  | list {items : List Json} {texts : List String}
    (each : List.Forall₂ IsScalarText (items.filter fun item => !item.isNull) texts) :
    IsFlatText (.array items) (Text.joinWith "," texts)
  | deep {items : List Json} {item : Json} (member : item ∈ items)
    (collection : item.array?.isSome ∨ item.object?.isSome) : IsFlatText (.array items) (Json.array items).compact
  | object (members : List (String × Json)) : IsFlatText (.object members) (Json.object members).compact

variable {value : Json} {text : String}

theorem scalarText?_eq_some_iff : value.scalarText? = some text ↔ IsScalarText value text := by
  constructor
  · intro spelled
    cases value with
    | string => cases spelled; exact .string _
    | number => cases spelled; exact .number _
    | bool truth => cases truth <;> cases spelled <;> constructor
    | _ => cases spelled
  · intro spelled
    cases spelled <;> rfl

theorem IsScalarText.isScalar (spelled : IsScalarText value text) : value.isScalar ∧ value.isNull = false := by
  cases spelled <;> exact ⟨rfl, rfl⟩

theorem isScalar_eq_false_iff : value.isScalar = false ↔ value.array?.isSome ∨ value.object?.isSome := by
  cases value <;> simp [isScalar, array?, object?]

/-- Scalars that are spelled one by one, nulls left out, are spelled together. -/
theorem forall₂_isScalarText_iff {items : List Json} {texts : List String} :
    List.Forall₂ IsScalarText (items.filter fun item => !item.isNull) texts ↔
      items.all isScalar ∧ items.filterMap scalarText? = texts := by
  induction items generalizing texts with
  | nil => simp [eq_comm]
  | cons item rest ih =>
    cases spelled : item.scalarText? with
    | some text =>
      have isText := scalarText?_eq_some_iff.mp spelled
      obtain ⟨scalar, present⟩ := isText.isScalar
      rw [List.filter_cons_of_pos (by simp [present]), List.filterMap_cons_some spelled, List.all_cons, scalar,
        Bool.true_and]
      constructor
      · intro each
        cases each with
        | cons first later =>
          obtain ⟨scalars, rfl⟩ := ih.mp later
          rw [Option.some.inj (spelled.symm.trans (scalarText?_eq_some_iff.mpr first))]
          exact ⟨scalars, rfl⟩
      · rintro ⟨scalars, rfl⟩
        exact .cons isText (ih.mpr ⟨scalars, rfl⟩)
    | none =>
      rw [List.filterMap_cons_none spelled]
      cases item with
      | null => exact ih
      | bool => cases spelled
      | number => cases spelled
      | string => cases spelled
      | _ =>
        constructor
        · intro each
          cases each with
          | cons first _ => cases first
        · rintro ⟨scalars, _⟩
          cases scalars

theorem flatText?_eq_some_iff : value.flatText? = some text ↔ IsFlatText value text := by
  constructor
  · intro flat
    cases value with
    | null => cases flat
    | array items =>
      rw [flatText?] at flat
      split at flat
      · next scalars =>
        cases flat
        exact .list (forall₂_isScalarText_iff.mpr ⟨scalars, rfl⟩)
      · next nested =>
        cases flat
        obtain ⟨item, member, collection⟩ := List.all_eq_false.mp (Bool.not_eq_true _ ▸ nested)
        exact .deep member (isScalar_eq_false_iff.mp (Bool.not_eq_true _ ▸ collection))
    | object members =>
      cases flat
      exact .object members
    | _ => exact .scalar (scalarText?_eq_some_iff.mp flat)
  · intro flat
    cases flat with
    | scalar spelled => cases spelled <;> rfl
    | list each =>
      obtain ⟨scalars, rfl⟩ := forall₂_isScalarText_iff.mp each
      exact if_pos scalars
    | deep member collection =>
      refine if_neg fun scalars => ?_
      rw [← isScalar_eq_false_iff, List.all_eq_true.mp scalars _ member] at collection
      cases collection
    | object => rfl

theorem flatText?_isSome_iff : value.flatText?.isSome ↔ value ≠ .null := by
  cases value with
  | array items =>
    rw [flatText?]
    split <;> simp
  | _ => simp [flatText?, scalarText?]

end Json

/-- The legacy name of a message, where a claim names one. -/
def MessageType.inLegacyTerms : Json → Json
  | .string name => .string (toLegacy name)
  | other => other

/-- An array of the legacy names of what the vocabulary knows, in the same order. -/
def Vocabulary.inLegacyTerms (vocabulary : Vocabulary) (value : Json) : Json :=
  .ofStrings (vocabulary.legacyTexts value)

namespace Claims

/-- Changes what is in a place, if anything is. -/
def rewrite (claims : Claims) (place : Place) (change : Json → Json) : Claims :=
  match claims.at? place with
  | none => claims
  | some value => claims.put place (change value)

/-- The claims with the legacy names of roles, context types and message type. -/
def inLegacyTerms (claims : Claims) : Claims :=
  ((claims.rewrite ⟨Rule.claimRoot "" ++ "roles", none⟩ Role.vocabulary.inLegacyTerms).rewrite
    ⟨Rule.claimRoot "" ++ "context", some "type"⟩ ContextType.vocabulary.inLegacyTerms).rewrite
    ⟨Rule.claimRoot "" ++ "message_type", none⟩ MessageType.inLegacyTerms

end Claims

namespace Rule

/-- For each kind of name that has a legacy form there is one rule. -/
theorem eq_of_kind : ∀ rule ∈ table, (rule.kind = .roles → rule = core "roles" .roles) ∧
    (rule.kind = .contextTypes → rule = grouped "" "context" "context_type" "type" .contextTypes) ∧
    (rule.kind = .messageType → rule = ⟨"lti_message_type", "", .claim, "message_type", .messageType⟩) := by
  decide

theorem roles_mem : core "roles" .roles ∈ table := by decide

theorem contextTypes_mem : grouped "" "context" "context_type" "type" .contextTypes ∈ table := by decide

theorem messageType_mem : ⟨"lti_message_type", "", .claim, "message_type", .messageType⟩ ∈ table := by decide

end Rule

namespace ValueKind

/-- A value of this kind in its legacy form. -/
def inLegacyTerms : ValueKind → Json → Json
  | .roles => Role.vocabulary.inLegacyTerms
  | .contextTypes => ContextType.vocabulary.inLegacyTerms
  | .messageType => MessageType.inLegacyTerms
  | _ => id

end ValueKind

namespace Slot

def inLegacyTerms : Slot → Json → Json
  | ruled rule _ => rule.kind.inLegacyTerms
  | free .. => id

def roles : Slot := .ruled _ Rule.roles_mem

def contextTypes : Slot := .ruled _ Rule.contextTypes_mem

def messageType : Slot := .ruled _ Rule.messageType_mem

theorem ne_of_parameter {slot other : Slot} (apart : slot.parameter ≠ other.parameter) : slot ≠ other :=
  fun same => apart (congrArg parameter same)

/-- All other slots have values that are the same in both eras. -/
theorem inLegacyTerms_eq_id {slot : Slot} (noRoles : roles ≠ slot) (noTypes : contextTypes ≠ slot)
    (noMessage : messageType ≠ slot) : slot.inLegacyTerms = id := by
  cases slot with
  | free => rfl
  | ruled rule member =>
    obtain ⟨ofRoles, ofTypes, ofMessage⟩ := Rule.eq_of_kind rule member
    simp only [inLegacyTerms]
    cases kind : rule.kind with
    | roles => cases ofRoles kind; exact absurd rfl noRoles
    | contextTypes => cases ofTypes kind; exact absurd rfl noTypes
    | messageType => cases ofMessage kind; exact absurd rfl noMessage
    | _ => rfl

end Slot

namespace Claims

variable {claims : Claims} {slot : Slot}

@[simp]
theorem at?_rewrite_self (claims : Claims) (slot : Slot) (change : Json → Json) :
    (claims.rewrite slot.place change).at? slot.place = (claims.at? slot.place).map change := by
  cases held : claims.at? slot.place <;> simp [rewrite, held]

theorem at?_rewrite_of_ne {other : Slot} (different : slot ≠ other) (change : Json → Json) :
    (claims.rewrite slot.place change).at? other.place = claims.at? other.place := by
  cases held : claims.at? slot.place with
  | none => rw [rewrite, held]
  | some value => rw [rewrite, held, at?_put_of_ne different]

/-- Legacy terms are put in where the kind of the slot asks for them. -/
theorem at?_inLegacyTerms (claims : Claims) (slot : Slot) :
    claims.inLegacyTerms.at? slot.place = (claims.at? slot.place).map slot.inLegacyTerms := by
  have rolesTypes : Slot.roles ≠ Slot.contextTypes := Slot.ne_of_parameter (by decide)
  have rolesMessage : Slot.roles ≠ Slot.messageType := Slot.ne_of_parameter (by decide)
  have typesMessage : Slot.contextTypes ≠ Slot.messageType := Slot.ne_of_parameter (by decide)
  show (((claims.rewrite Slot.roles.place Role.vocabulary.inLegacyTerms).rewrite Slot.contextTypes.place
    ContextType.vocabulary.inLegacyTerms).rewrite Slot.messageType.place MessageType.inLegacyTerms).at? slot.place = _
  by_cases message : Slot.messageType = slot
  · subst message
    rw [at?_rewrite_self, at?_rewrite_of_ne typesMessage, at?_rewrite_of_ne rolesMessage]
    rfl
  rw [at?_rewrite_of_ne message]
  by_cases types : Slot.contextTypes = slot
  · subst types
    rw [at?_rewrite_self, at?_rewrite_of_ne rolesTypes]
    rfl
  rw [at?_rewrite_of_ne types]
  by_cases roles : Slot.roles = slot
  · subst roles
    rw [at?_rewrite_self]
    rfl
  rw [at?_rewrite_of_ne roles, Slot.inLegacyTerms_eq_id roles types message, Option.map_id_apply]

end Claims

namespace Parameters

/-- The text of a parameter for a value: the graph of an array of content items, or else the flat text. -/
inductive IsTextFor (name : String) (value : Json) : String → Prop
  | graph {graph : Json} (named : name = "content_items") (isGraph : ContentItem.legacyGraph? value = some graph) :
    IsTextFor name value graph.compact
  | flat {text : String} (noGraph : name = "content_items" → ContentItem.legacyGraph? value = none)
    (spelled : value.IsFlatText text) : IsTextFor name value text

variable {name text : String} {place : Place} {value : Json}

/-- Only null has no text. -/
theorem exists_isTextFor_iff : (∃ text, IsTextFor name value text) ↔ value ≠ .null := by
  constructor
  · rintro ⟨text, isText⟩ rfl
    cases isText with
    | graph _ isGraph => cases isGraph
    | flat _ spelled => cases spelled with | scalar spelled => cases spelled
  · intro present
    by_cases graph : name = "content_items" ∧ (ContentItem.legacyGraph? value).isSome
    · obtain ⟨graph', isGraph⟩ := Option.isSome_iff_exists.mp graph.2
      exact ⟨_, .graph graph.1 isGraph⟩
    · obtain ⟨text, flat⟩ := Option.isSome_iff_exists.mp (Json.flatText?_isSome_iff.mpr present)
      refine ⟨text, .flat (fun named => ?_) (Json.flatText?_eq_some_iff.mp flat)⟩
      exact Option.not_isSome_iff_eq_none.mp fun isGraph => graph ⟨named, isGraph⟩

theorem isTextFor_iff_of_ne (noItems : name ≠ "content_items") :
    IsTextFor name value text ↔ value.flatText? = some text := by
  rw [Json.flatText?_eq_some_iff]
  constructor
  · intro isText
    cases isText with
    | graph named _ => exact absurd named noItems
    | flat _ spelled => exact spelled
  · exact .flat fun named => absurd named noItems

/-- Of kinds without a graph the flat text is written, once the value is in legacy terms. -/
theorem write?_eq_flatText? {kind : ValueKind} (noItems : kind ≠ .contentItems) (value : Json) :
    kind.write? value = (kind.inLegacyTerms value).flatText? := by
  cases kind with
  | contentItems => exact absurd rfl noItems
  | roles | contextTypes =>
    rw [ValueKind.write?, Vocabulary.legacyEntries_flatText?]
    exact (flatText?_ofStrings _).symm
  | messageType => cases value <;> rfl
  | _ => rfl

/-- What is written for a slot is the text for its value in legacy terms. -/
theorem write?_eq_some_iff {slot : Slot} :
    slot.write? value = some text ↔ IsTextFor slot.parameter (slot.inLegacyTerms value) text := by
  by_cases items : slot.parameter = "content_items"
  · obtain ⟨rule, member, rfl, kind⟩ := Slot.kind_of_contentItems items
    simp only [Slot.write?, Slot.inLegacyTerms, kind, ValueKind.write?, ValueKind.inLegacyTerms, id_eq]
    constructor
    · intro written
      split at written
      · next graph isGraph =>
        cases written
        exact .graph items isGraph
      · next noGraph => exact .flat (fun _ => noGraph) (Json.flatText?_eq_some_iff.mp written)
    · intro isText
      cases isText with
      | graph _ isGraph => rw [isGraph]
      | flat noGraph spelled =>
        rw [noGraph items]
        exact Json.flatText?_eq_some_iff.mpr spelled
  · rw [isTextFor_iff_of_ne items]
    cases slot with
    | free group name unmapped => rfl
    | ruled rule member =>
      have noItems : rule.kind ≠ .contentItems := mt (Rule.parameter_of_contentItems rule member) items
      rw [Slot.write?, Slot.inLegacyTerms, write?_eq_flatText? noItems]

variable {claims others : Claims}

/-- Every parameter that is written stands for a slot. -/
theorem exists_slot_of_key (known : name ∈ (ofClaims claims).keys) : ∃ slot : Slot, slot.parameter = name := by
  obtain ⟨⟨_, text⟩, written, rfl⟩ := List.mem_map.mp known
  rw [entries_ofClaims] at written
  obtain ⟨claim, _, written⟩ := List.mem_flatMap.mp written
  obtain ⟨slot, named, _⟩ := mem_ofClaim_iff.mp written
  exact ⟨slot, named⟩

theorem get?_ofClaims_eq_some_iff : (ofClaims claims).get? name = some text ↔
    ∃ place value, StandsFor name place ∧ claims.inLegacyTerms.at? place = some value ∧
      IsTextFor name value text := by
  constructor
  · intro found
    have known : name ∈ (ofClaims claims).keys := Entries.get?_isSome_iff.mp (Option.isSome_iff_exists.mpr ⟨_, found⟩)
    obtain ⟨slot, rfl⟩ := exists_slot_of_key known
    rw [get?_ofClaims] at found
    obtain ⟨value, held, written⟩ := Option.bind_eq_some_iff.mp found
    refine ⟨slot.place, _, standsFor_iff_slot.mpr ⟨slot, rfl, rfl⟩, ?_, write?_eq_some_iff.mp written⟩
    rw [Claims.at?_inLegacyTerms, held, Option.map_some]
  · rintro ⟨place, value, stands, held, isText⟩
    obtain ⟨slot, rfl, rfl⟩ := standsFor_iff_slot.mp stands
    rw [Claims.at?_inLegacyTerms] at held
    obtain ⟨original, found, rfl⟩ := Option.map_eq_some_iff.mp held
    rw [get?_ofClaims, found, Option.bind_some]
    exact write?_eq_some_iff.mpr isText

theorem mem_keys_ofClaims_iff : name ∈ (ofClaims claims).keys ↔
    ∃ place value, StandsFor name place ∧ claims.inLegacyTerms.at? place = some value ∧ value ≠ .null := by
  have known : name ∈ (ofClaims claims).keys ↔ ∃ text, (ofClaims claims).get? name = some text :=
    Entries.get?_isSome_iff.symm.trans Option.isSome_iff_exists
  simp only [known, get?_ofClaims_eq_some_iff]
  constructor
  · rintro ⟨text, place, value, stands, held, isText⟩
    exact ⟨place, value, stands, held, exists_isTextFor_iff.mp ⟨text, isText⟩⟩
  · rintro ⟨place, value, stands, held, present⟩
    obtain ⟨text, isText⟩ := exists_isTextFor_iff.mpr present
    exact ⟨text, place, value, stands, held, isText⟩

theorem get?_ofClaims_congr (stands : StandsFor name place) (same : claims.at? place = others.at? place) :
    (ofClaims claims).get? name = (ofClaims others).get? name := by
  obtain ⟨slot, rfl, rfl⟩ := standsFor_iff_slot.mp stands
  simp [same]

end Parameters

namespace Claims

/-- The same claims in another order, with the members of group claims in another order too. -/
def Reorders (claims others : Claims) : Prop :=
  ∀ name, claims.get? name = others.get? name ∨
    Rule.ofPlace? ⟨name, none⟩ = none ∧ ∃ members members',
      (claims.get? name).bind Json.object? = some members ∧ (others.get? name).bind Json.object? = some members' ∧
      members.entries.Perm members'.entries

theorem Reorders.at?_eq {claims others : Claims} (reorders : claims.Reorders others) (slot : Slot) :
    claims.at? slot.place = others.at? slot.place := by
  rcases reorders slot.place.claim with same | ⟨group, members, members', isObject, isObject', perm⟩
  · rw [at?_eq_bind, at?_eq_bind, same]
  · cases named : slot.place.member with
    | none =>
      cases slot with
      | free => cases named
      | ruled rule member =>
        have mapped := Rule.ofPlace?_eq_some_iff.mpr ⟨member, congrArg (Place.mk _) named⟩
        rw [show rule.claimName = (Slot.ruled rule member).place.claim from rfl, group] at mapped
        cases mapped
    | some member =>
      have inside : ∀ (claims : Claims) (members : OrderedMap Json),
          (claims.get? slot.place.claim).bind Json.object? = some members →
          claims.at? slot.place = members.get? member := by
        intro claims members isObject
        obtain ⟨whole, held, isObject⟩ := Option.bind_eq_some_iff.mp isObject
        rw [at?_eq_bind, held, Option.bind_some, Place.within?, named]
        simp only [Json.member?, isObject, Option.bind_some]
      rw [inside claims members isObject, inside others members' isObject',
        OrderedMap.perm_iff_get?_eq.mp perm member]

end Claims

namespace Parameters

/-- Each parameter is written from one place and depends on nothing else. It is there if the place holds something
other than null once names are in legacy terms, and its text is the text for what is there. The order of claims, and of
members within a group, only is the order of the parameters. -/
theorem ofClaims_place_by_place (claims : Claims) :
    (∀ name, name ∈ (ofClaims claims).keys ↔
      ∃ place value, StandsFor name place ∧ claims.inLegacyTerms.at? place = some value ∧ value ≠ .null) ∧
    (∀ name text, (ofClaims claims).get? name = some text ↔
      ∃ place value, StandsFor name place ∧ claims.inLegacyTerms.at? place = some value ∧
        IsTextFor name value text) ∧
    (∀ name place other, StandsFor name place → (StandsFor name other ↔ other = place)) ∧
    (∀ name place other, StandsFor name place → (StandsFor other place ↔ other = name)) ∧
    (∀ name place others, StandsFor name place → claims.at? place = others.at? place →
      (ofClaims claims).get? name = (ofClaims others).get? name) ∧
    ∀ others, claims.Reorders others → (ofClaims claims).entries.Perm (ofClaims others).entries := by
  refine ⟨fun _ => mem_keys_ofClaims_iff, fun _ _ => get?_ofClaims_eq_some_iff, ?_, ?_,
    fun _ _ _ => get?_ofClaims_congr, ?_⟩
  · intro name place other stands
    constructor
    · exact fun stands' => stands'.place_unique stands
    · rintro rfl
      exact stands
  · intro name place other stands
    constructor
    · exact fun stands' => stands'.name_unique stands
    · rintro rfl
      exact stands
  · intro others reorders
    refine OrderedMap.perm_iff_get?_eq.mpr fun name => ?_
    by_cases slotted : ∃ slot : Slot, slot.parameter = name
    · obtain ⟨slot, rfl⟩ := slotted
      simp [reorders.at?_eq]
    · have absent : ∀ claims : Claims, (ofClaims claims).get? name = none := fun claims =>
        Entries.get?_eq_none_iff.mpr fun known => slotted (exists_slot_of_key known)
      rw [absent, absent]

end Parameters

end LtiPlatform
