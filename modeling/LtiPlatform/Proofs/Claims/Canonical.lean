import Mathlib.Tactic.Common
import LtiPlatform.Proofs.Claims.Slot
import LtiPlatform.Proofs.Json.Rereading
import LtiPlatform.Proofs.Vocabulary.Spelling

namespace LtiPlatform

@[simp]
theorem modernSorted_some (vocabulary : Vocabulary) (texts : List String) :
    modernSorted vocabulary (texts.map some) = Text.sort (texts.filterMap vocabulary.toModern?) := by
  rw [modernSorted, Vocabulary.toModernAll, List.map_map, List.filterMap_map]
  rfl

@[simp]
theorem stringEntries_ofStrings (texts : List String) :
    (Json.ofStrings texts).stringEntries = texts.map some := by
  rw [Json.ofStrings, Json.stringEntries, List.map_map]
  rfl

@[simp]
theorem flatText?_ofStrings (texts : List String) :
    (Json.ofStrings texts).flatText? = some (Text.joinWith "," texts) := by
  have scalars : (texts.map Json.string).all Json.isScalar := by simp [Json.isScalar]
  have written : (texts.map Json.string).filterMap Json.scalarText? = texts := by
    rw [List.filterMap_map]
    exact List.filterMap_some
  rw [Json.ofStrings, Json.flatText?, if_pos scalars, written]

namespace Vocabulary

/-- The legacy spellings that are written for a value. -/
def legacyTexts (vocabulary : Vocabulary) (value : Json) : List String :=
  value.stringEntries.filterMap (·.bind vocabulary.toLegacy?)

@[simp]
theorem legacyEntries_flatText? (vocabulary : Vocabulary) (value : Json) :
    (legacyEntries vocabulary value).flatText? =
      some (Text.joinWith "," (vocabulary.legacyTexts value)) := by
  rw [legacyEntries, flatText?_ofStrings, toLegacyAll, List.filterMap_map]
  rfl

/-- What is written for a value and then read again. -/
def reread (vocabulary : Vocabulary) (value : Json) : List String :=
  modernSorted vocabulary ((listPieces (Text.joinWith "," (vocabulary.legacyTexts value))).map some)

/-- Modern spellings that have a legacy one, as they come out of a comma-separated list. -/
structure AreTerms (vocabulary : Vocabulary) (texts : List String) : Prop where
  items : Text.AreItems texts
  known : ∀ text ∈ texts, vocabulary.isModern text ∧ (vocabulary.toLegacy? text).isSome

variable {vocabulary : Vocabulary} {texts : List String}

theorem mem_legacyTexts {value : Json} {legacy : String} (member : legacy ∈ vocabulary.legacyTexts value) :
    ∃ text, vocabulary.toLegacy? text = some legacy := by
  obtain ⟨entry, _, spelled⟩ := List.mem_filterMap.mp member
  obtain ⟨text, _, spelled⟩ := Option.bind_eq_some_iff.mp spelled
  exact ⟨text, spelled⟩

theorem Settled.reread_eq (settled : vocabulary.Settled) (value : Json) :
    vocabulary.reread value =
      Text.sort ((vocabulary.legacyTexts value).filterMap vocabulary.toModern?) := by
  have items : ∀ text ∈ vocabulary.legacyTexts value, Text.IsItem text := by
    intro text member
    obtain ⟨_, spelled⟩ := mem_legacyTexts member
    exact settled.isItem_of_toLegacy? spelled
  rw [reread, listPieces_joinWith items, modernSorted_some]
  refine Text.sort_eq_of_perm (Text.sort_sorted _) ?_
  exact ((Text.sort_perm _).filterMap _).trans (Text.sort_perm _).symm

theorem Settled.reread_areTerms (settled : vocabulary.Settled) (value : Json) :
    vocabulary.AreTerms (vocabulary.reread value) := by
  rw [settled.reread_eq]
  have origin : ∀ modern ∈ Text.sort ((vocabulary.legacyTexts value).filterMap vocabulary.toModern?),
      ∃ text legacy, vocabulary.toLegacy? text = some legacy ∧ vocabulary.toModern? legacy = some modern := by
    intro modern member
    obtain ⟨legacy, member, meant⟩ := List.mem_filterMap.mp ((Text.sort_perm _).subset member)
    obtain ⟨text, spelled⟩ := mem_legacyTexts member
    exact ⟨text, legacy, spelled, meant⟩
  refine ⟨⟨Text.sort_sorted _, fun modern member => ?_⟩, fun modern member => ?_⟩
  · obtain ⟨_, _, _, meant⟩ := origin modern member
    exact settled.isItem_of_toModern? meant
  · obtain ⟨_, _, spelled, meant⟩ := origin modern member
    exact settled.modern_of_toLegacy? spelled meant

theorem Settled.reread_ofStrings (settled : vocabulary.Settled) (terms : vocabulary.AreTerms texts) :
    vocabulary.reread (.ofStrings texts) = texts := by
  rw [settled.reread_eq]
  refine Text.sort_eq_of_perm terms.items.sorted (.of_eq ?_)
  rw [legacyTexts, stringEntries_ofStrings, List.filterMap_map, List.filterMap_filterMap]
  have back : ∀ text ∈ texts, (vocabulary.toLegacy? text).bind vocabulary.toModern? = some text := by
    intro text member
    obtain ⟨known, spelled⟩ := terms.known text member
    obtain ⟨legacy, spelled⟩ := Option.isSome_iff_exists.mp spelled
    rw [spelled, Option.bind_some]
    exact settled.toModern?_toLegacy? known spelled
  exact (List.filterMap_congr back).trans List.filterMap_some

end Vocabulary

namespace MessageType

/-- No message is called by its legacy name. -/
def IsModern (name : String) : Prop := ∀ message ∈ names, name ≠ message.1

instance (name : String) : Decidable (IsModern name) :=
  inferInstanceAs (Decidable (∀ message ∈ names, name ≠ message.1))

theorem toModern_isModern (name : String) : IsModern (toModern name) := by
  have apart : ∀ message ∈ names, IsModern message.2 := by decide
  unfold toModern
  cases found : names.find? (·.1 == name) with
  | none =>
    intro message member same
    exact List.find?_eq_none.mp found message member (by simpa using same.symm)
  | some message => exact apart message (List.mem_of_find?_eq_some found)

theorem toModern_toLegacy {name : String} (modern : IsModern name) : toModern (toLegacy name) = name := by
  have back : ∀ message ∈ names, toModern message.1 = message.2 := by decide
  unfold toLegacy
  cases found : names.find? (·.2 == name) with
  | none =>
    have unknown : names.find? (·.1 == name) = none :=
      List.find?_eq_none.mpr fun message member same =>
        modern message member (by simpa using Eq.symm (beq_iff_eq.mp same))
    simp only [Option.map_none, Option.getD_none, toModern, unknown]
  | some message =>
    have named : message.2 = name := by simpa using List.find?_some found
    simp only [Option.map_some, Option.getD_some, back message (List.mem_of_find?_eq_some found), named]

end MessageType

namespace ValueKind

/-- The values of each kind that are read as they were before they were written. Content items never
are, because they are written as a graph. -/
def Canonical : ValueKind → Json → Prop
  | .text, value => ∃ text, value = .string text
  | .flag, value => ∃ truth, value = .bool truth
  | .messageType, value => ∃ name, value = .string name ∧ MessageType.IsModern name
  | .list, value => ∃ texts, value = .ofStrings texts ∧ Text.AreItems texts
  | .roles, value => ∃ texts, value = .ofStrings texts ∧ Role.vocabulary.AreTerms texts
  | .contextTypes, value =>
    ∃ texts, value = .ofStrings texts ∧ Text.AreItems texts ∧
      ∀ text ∈ texts, ContextType.vocabulary.isModern text
  | .contentItems, _ => False

/-- The value read from what is written for another. -/
def reread? (kind : ValueKind) (value : Json) : Option Json := (kind.write? value).bind kind.read?

variable {kind : ValueKind} {value read : Json}

@[simp]
theorem reread?_roles : roles.reread? value = some (.ofStrings (Role.vocabulary.reread value)) := by
  rw [reread?, write?, Vocabulary.legacyEntries_flatText?]
  rfl

@[simp]
theorem reread?_contextTypes :
    contextTypes.reread? value = some (.ofStrings (ContextType.vocabulary.reread value)) := by
  rw [reread?, write?, Vocabulary.legacyEntries_flatText?]
  rfl

theorem areTerms_contextTypes {texts : List String} : ContextType.vocabulary.AreTerms texts ↔
    Text.AreItems texts ∧ ∀ text ∈ texts, ContextType.vocabulary.isModern text := by
  constructor
  · exact fun terms => ⟨terms.items, fun text member => (terms.known text member).1⟩
  · rintro ⟨items, known⟩
    exact ⟨items, fun text member =>
      ⟨known text member, ContextType.toLegacy?_isSome (known text member)⟩⟩

theorem exists_array_of_contentItems {text : String} (reads : contentItems.read? text = some read) :
    ∃ items, read = .array items ∧ Json.parse? text = some (.array items) := by
  simp only [read?, contentItemArray?] at reads
  split at reads
  · next items parsed =>
    cases reads
    exact ⟨items, rfl, parsed⟩
  · cases reads

/-- What is written for a list of content items is no list. -/
theorem reread?_contentItems_array (items : List Json) : contentItems.reread? (.array items) = none := by
  rw [← Option.not_isSome_iff_eq_none, Option.isSome_iff_exists]
  rintro ⟨read, reread⟩
  obtain ⟨text, written, reads⟩ := Option.bind_eq_some_iff.mp reread
  obtain ⟨items', _, parsed⟩ := exists_array_of_contentItems reads
  cases written
  obtain ⟨members, isObject⟩ := Json.isObject_of_parse?_compact (by rfl) parsed
  cases isObject

/-- So whatever is reread as a list was none. -/
theorem not_same_reread?_contentItems (reread : contentItems.reread? value = some read) :
    ¬ Json.Same read value := by
  obtain ⟨_, _, reads⟩ := Option.bind_eq_some_iff.mp reread
  obtain ⟨items, rfl, _⟩ := exists_array_of_contentItems reads
  intro same
  cases same with
  | array each =>
    rw [reread?_contentItems_array] at reread
    cases reread

theorem canonical_of_reread? (reread : kind.reread? value = some read) (same : Json.Same read value) :
    kind.Canonical value := by
  cases kind with
  | contentItems => exact not_same_reread?_contentItems reread same
  | roles =>
    cases reread?_roles.symm.trans reread
    exact ⟨_, Json.Same.ofStrings_iff.mp same, Role.vocabulary_settled.reread_areTerms value⟩
  | contextTypes =>
    cases reread?_contextTypes.symm.trans reread
    exact ⟨_, Json.Same.ofStrings_iff.mp same,
      areTerms_contextTypes.mp (ContextType.vocabulary_settled.reread_areTerms value)⟩
  | text =>
    obtain ⟨text, _, reads⟩ := Option.bind_eq_some_iff.mp reread
    cases reads
    exact ⟨text, Json.Same.string_iff.mp same⟩
  | flag =>
    obtain ⟨text, _, reads⟩ := Option.bind_eq_some_iff.mp reread
    cases reads
    exact ⟨text == "true", Json.Same.bool_iff.mp same⟩
  | list =>
    obtain ⟨text, _, reads⟩ := Option.bind_eq_some_iff.mp reread
    cases reads
    exact ⟨_, Json.Same.ofStrings_iff.mp same, listPieces_areItems text⟩
  | messageType =>
    obtain ⟨text, _, reads⟩ := Option.bind_eq_some_iff.mp reread
    cases reads
    exact ⟨_, Json.Same.string_iff.mp same, MessageType.toModern_isModern text⟩

theorem reread?_of_canonical (canonical : kind.Canonical value) : kind.reread? value = some value := by
  cases kind with
  | contentItems => cases canonical
  | roles =>
    obtain ⟨texts, rfl, terms⟩ := canonical
    rw [reread?_roles, Role.vocabulary_settled.reread_ofStrings terms]
  | contextTypes =>
    obtain ⟨texts, rfl, terms⟩ := canonical
    rw [reread?_contextTypes,
      ContextType.vocabulary_settled.reread_ofStrings (areTerms_contextTypes.mpr terms)]
  | text =>
    obtain ⟨text, rfl⟩ := canonical
    rfl
  | flag =>
    obtain ⟨truth, rfl⟩ := canonical
    cases truth <;> rfl
  | list =>
    obtain ⟨texts, rfl, items⟩ := canonical
    rw [reread?, write?, flatText?_ofStrings, Option.bind_some, read?, listPieces_joinWith items.each,
      Text.sort_eq_of_perm items.sorted (.refl texts)]
  | messageType =>
    obtain ⟨name, rfl, modern⟩ := canonical
    rw [reread?, write?, Option.bind_some, read?, MessageType.toModern_toLegacy modern]

end ValueKind

namespace Slot

/-- The values of a slot that survive conversion. -/
def Canonical : Slot → Json → Prop
  | ruled rule _, value => rule.kind.Canonical value
  | free _ name _, value => name ≠ "" ∧ ∃ text, value = .string text

def reread? (slot : Slot) (value : Json) : Option Json := (slot.write? value).bind slot.read?

variable {slot : Slot} {value read : Json}

theorem canonical_of_reread? (reread : slot.reread? value = some read) (same : Json.Same read value) :
    slot.Canonical value := by
  cases slot with
  | ruled rule member => exact ValueKind.canonical_of_reread? reread same
  | free group name unmapped =>
    obtain ⟨text, _, reads⟩ := Option.bind_eq_some_iff.mp reread
    simp only [read?, Option.ite_none_left_eq_some, Option.some.injEq] at reads
    obtain ⟨named, rfl⟩ := reads
    exact ⟨named, text, Json.Same.string_iff.mp same⟩

theorem reread?_of_canonical (canonical : slot.Canonical value) : slot.reread? value = some value := by
  cases slot with
  | ruled rule member => exact ValueKind.reread?_of_canonical canonical
  | free group name unmapped =>
    obtain ⟨named, text, rfl⟩ := canonical
    simp only [reread?, write?, Json.flatText?, Json.scalarText?, Option.bind_some, read?, if_neg named]

end Slot

/-- A claim of the mapping table, of a group of the table, or of an open group, with a value that
survives conversion to parameters and back. -/
inductive CanonicalClaim (name : String) (value : Json) : Prop
  | single (rule : Rule) (member : rule ∈ Rule.table) (placed : rule.place = ⟨name, none⟩)
    (canonical : rule.kind.Canonical value)
  | grouped (members : OrderedMap Json) (isObject : value.object? = some members)
    (nonempty : members.entries ≠ [])
    (each : ∀ entry ∈ members.entries, ∃ rule ∈ Rule.table,
      rule.place = ⟨name, some entry.1⟩ ∧ rule.kind.Canonical entry.2)
  | opened (group : OpenGroup) (named : name = group.claim) (members : OrderedMap Json)
    (isObject : value.object? = some members) (nonempty : members.entries ≠ [])
    (each : ∀ entry ∈ members.entries, entry.1 ≠ "" ∧
      Rule.ofParameter? (group.parameter entry.1) = none ∧ ∃ text, entry.2 = .string text)

namespace CanonicalClaim

variable {name : String} {value : Json}

/-- A canonical claim is the value of a slot, or an object of such values. -/
theorem slots (canonical : CanonicalClaim name value) :
    (∃ slot : Slot, slot.place = ⟨name, none⟩ ∧ slot.Canonical value) ∨
    ∃ members, value.object? = some members ∧ members.entries ≠ [] ∧
      ∀ entry ∈ members.entries, ∃ slot : Slot, slot.place = ⟨name, some entry.1⟩ ∧
        slot.Canonical entry.2 := by
  cases canonical with
  | single rule member placed canonical => exact .inl ⟨.ruled rule member, placed, canonical⟩
  | grouped members isObject nonempty each =>
    refine .inr ⟨members, isObject, nonempty, fun entry here => ?_⟩
    obtain ⟨rule, member, placed, canonical⟩ := each entry here
    exact ⟨.ruled rule member, placed, canonical⟩
  | opened group named members isObject nonempty each =>
    refine .inr ⟨members, isObject, nonempty, fun entry here => ?_⟩
    obtain ⟨nonempty, unmapped, isText⟩ := each entry here
    exact ⟨.free group entry.1 unmapped, by rw [Slot.place, named], nonempty, isText⟩

theorem of_slot {slot : Slot} (placed : slot.place = ⟨name, none⟩) (canonical : slot.Canonical value) :
    CanonicalClaim name value := by
  cases slot with
  | ruled rule member => exact .single rule member placed canonical
  | free group member unmapped => cases congrArg Place.member placed

/-- The members of one claim all have rules, or all belong to one open group. -/
theorem of_slots {members : OrderedMap Json} (isObject : value.object? = some members)
    (nonempty : members.entries ≠ [])
    (each : ∀ entry ∈ members.entries, ∃ slot : Slot, slot.place = ⟨name, some entry.1⟩ ∧
      slot.Canonical entry.2) :
    CanonicalClaim name value := by
  by_cases opened : ∃ group : OpenGroup, name = group.claim
  · obtain ⟨group, named⟩ := opened
    refine .opened group named members isObject nonempty fun entry here => ?_
    obtain ⟨slot, placed, canonical⟩ := each entry here
    have sameClaim : slot.place.claim = group.claim := by rw [placed, named]
    cases slot with
    | ruled rule member => exact absurd sameClaim (Rule.claimName_ne_open member group)
    | free other member unmapped =>
      cases OpenGroup.claim_injective sameClaim
      cases Option.some.inj (congrArg Place.member placed)
      exact ⟨canonical.1, unmapped, canonical.2⟩
  · refine .grouped members isObject nonempty fun entry here => ?_
    obtain ⟨slot, placed, canonical⟩ := each entry here
    cases slot with
    | ruled rule member => exact ⟨rule, member, placed, canonical⟩
    | free group member unmapped => exact absurd ⟨group, (congrArg Place.claim placed).symm⟩ opened

end CanonicalClaim

namespace Claims

/-- Every claim is canonical. -/
def Canonical (claims : Claims) : Prop :=
  ∀ name value, claims.get? name = some value → CanonicalClaim name value

variable {claims : Claims}

theorem Canonical.shaped (canonical : claims.Canonical) : claims.Shaped := by
  intro name value held
  rcases (canonical name value held).slots with ⟨slot, placed, _⟩ | ⟨members, isObject, nonempty, each⟩
  · exact .inl ⟨slot, placed⟩
  · refine .inr ⟨members, isObject, ?_, fun member present => ?_⟩
    · obtain ⟨⟨member, value⟩, here⟩ := List.exists_mem_of_ne_nil _ nonempty
      exact ⟨member, by rw [OrderedMap.mem_entries_iff.mp here, Option.isSome_some]⟩
    · obtain ⟨value, present⟩ := Option.isSome_iff_exists.mp present
      obtain ⟨slot, placed, _⟩ := each (member, value) (OrderedMap.mem_entries_iff.mpr present)
      exact ⟨slot, placed⟩

theorem Canonical.slot (canonical : claims.Canonical) {slot : Slot} {value : Json}
    (held : claims.at? slot.place = some value) : slot.Canonical value := by
  rw [at?_eq_bind] at held
  obtain ⟨whole, heldWhole, within⟩ := Option.bind_eq_some_iff.mp held
  rcases (canonical _ whole heldWhole).slots with
    ⟨other, placed, canonical⟩ | ⟨members, isObject, nonempty, each⟩
  · have sameClaim : other.place.claim = slot.place.claim := by rw [placed]
    have alone : slot.place.member = none := Slot.member_eq_none_of_claim sameClaim (by rw [placed])
    have samePlace : other.place = slot.place := placed.trans (congrArg (Place.mk _) alone.symm)
    cases Slot.place_injective samePlace
    rw [Place.within?, alone] at within
    cases within
    exact canonical
  · cases named : slot.place.member with
    | none =>
      obtain ⟨entry, here⟩ := List.exists_mem_of_ne_nil _ nonempty
      obtain ⟨other, placed, _⟩ := each entry here
      have alone := Slot.member_eq_none_of_claim (congrArg Place.claim placed).symm named
      rw [placed] at alone
      cases alone
    | some name =>
      have found : members.get? name = some value := by
        simpa only [Place.within?, named, Json.member?, isObject, Option.bind_some] using within
      obtain ⟨other, placed, canonical⟩ := each (name, value) (OrderedMap.mem_entries_iff.mpr found)
      have samePlace : other.place = slot.place := placed.trans (congrArg (Place.mk _) named.symm)
      cases Slot.place_injective samePlace
      exact canonical

theorem at?_roundTrip (claims : Claims) (slot : Slot) :
    (ofParameters (Parameters.ofClaims claims)).at? slot.place =
      (claims.at? slot.place).bind slot.reread? := by
  rw [at?_ofParameters, Parameters.get?_ofClaims, Option.bind_assoc]
  rfl

/-- Claims that are converted to parameters and back are the same claims exactly if they are
canonical. -/
theorem roundTrip_same_iff (claims : Claims) :
    (ofParameters (Parameters.ofClaims claims)).Same claims ↔ claims.Canonical := by
  constructor
  · intro same name value held
    -- What stands in a slot came back the same, so it is canonical.
    have kept : ∀ slot : Slot, ∀ read held, (ofParameters (Parameters.ofClaims claims)).at? slot.place =
        some read → claims.at? slot.place = some held → Json.Same read held → slot.Canonical held := by
      intro slot read held reread heldAt same
      rw [at?_roundTrip, heldAt, Option.bind_some] at reread
      exact Slot.canonical_of_reread? reread same
    have sameHere := same name
    rw [held] at sameHere
    cases back : (ofParameters (Parameters.ofClaims claims)).get? name with
    | none =>
      rw [back] at sameHere
      cases sameHere
    | some read =>
      rw [back] at sameHere
      cases sameHere with
      | some sameValue =>
      rcases shaped_ofParameters _ name read back with
        ⟨slot, placed⟩ | ⟨members, isObject, ⟨member, present⟩, known⟩
      · refine .of_slot placed (kept slot read value ?_ ?_ sameValue)
        · rw [placed, at?, back]
        · rw [placed, at?, held]
      · obtain ⟨others, isObject', each⟩ := sameValue.object? isObject
        have matching : ∀ member, (members.get? member).isSome = (others.get? member).isSome := by
          intro member
          have sameMember := each member
          generalize members.get? member = left, others.get? member = right at sameMember
          cases sameMember <;> rfl
        refine .of_slots isObject' ?_ fun entry here => ?_
        · rw [matching] at present
          obtain ⟨held', present⟩ := Option.isSome_iff_exists.mp present
          exact List.ne_nil_of_mem (OrderedMap.mem_entries_iff.mpr present)
        · obtain ⟨member, held'⟩ := entry
          have found := OrderedMap.mem_entries_iff.mp here
          have present : (members.get? member).isSome := by rw [matching, found, Option.isSome_some]
          obtain ⟨slot, placed⟩ := known member present
          obtain ⟨read', reread⟩ := Option.isSome_iff_exists.mp present
          have sameMember := each member
          rw [found, reread] at sameMember
          refine ⟨slot, placed, kept slot read' held' ?_ ?_ (Option.rel_some_some.mp sameMember)⟩
          · simp only [placed, at?, back, Option.bind_some, Json.member?, isObject, reread]
          · simp only [placed, at?, held, Option.bind_some, Json.member?, isObject', found]
  · intro canonical
    refine (shaped_ofParameters _).same canonical.shaped fun slot => ?_
    rw [at?_roundTrip]
    cases held : claims.at? slot.place with
    | none => exact .none
    | some value =>
      rw [Option.bind_some, Slot.reread?_of_canonical (canonical.slot held)]
      exact .some (.refl value)

end Claims

end LtiPlatform
