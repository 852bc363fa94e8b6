import Mathlib.Tactic.Common
import LtiPlatform.Proofs.Vocabulary.Spelling

namespace LtiPlatform

namespace CodedTerm

def legacyOf? (terms : List CodedTerm) (code : Nat) : Option Nat := (meant? terms code).bind legacy

def modernOf? (terms : List CodedTerm) (code : Nat) : Option Nat := (meant? terms code).bind modern

def spellings (term : CodedTerm) : List Nat :=
  term.legacy.toList ++ term.modern.toList ++ term.handle.toList

/-- A stray keeps its legacy spelling, which its modern one does not lead to; any other spelling leads to the same
legacy one by way of its modern one. And what it is in the modern era has no legacy spelling only if it is new. -/
def isDirect (terms : List CodedTerm) (fresh strays : List Nat) (code : Nat) : Bool :=
  let roundabout := (modernOf? terms code).bind (legacyOf? terms)
  (if strays.contains code then legacyOf? terms code == some code && roundabout != some code
    else legacyOf? terms code == roundabout) &&
  (modernOf? terms code).all fun modern => (legacyOf? terms modern).isNone == fresh.contains modern

end CodedTerm

namespace Vocabulary

variable {vocabulary : Vocabulary} {fresh strays : List String} {text legacy modern : String}

/-- The check of the ways to a legacy spelling, by codes. -/
def isDirect (vocabulary : Vocabulary) (fresh strays : List String) : Bool :=
  (strays.map Text.code ++ vocabulary.coded.flatMap CodedTerm.spellings).all
    (CodedTerm.isDirect vocabulary.coded (fresh.map Text.code) (strays.map Text.code))

/-- The legacy spelling of a text is that of its modern one, strays apart; modern spellings without a legacy one are
the new ones. -/
structure Direct (vocabulary : Vocabulary) (fresh strays : List String) : Prop where
  stray : ∀ text ∈ strays, vocabulary.toLegacy? text = some text ∧
    (vocabulary.toModern? text).bind vocabulary.toLegacy? ≠ some text
  direct : ∀ text, text ∉ strays →
    vocabulary.toLegacy? text = (vocabulary.toModern? text).bind vocabulary.toLegacy?
  lost_iff : ∀ text modern, vocabulary.toModern? text = some modern →
    (vocabulary.toLegacy? modern = none ↔ modern ∈ fresh)

@[simp]
theorem legacyOf?_coded (vocabulary : Vocabulary) (text : String) :
    CodedTerm.legacyOf? vocabulary.coded (Text.code text) = (vocabulary.toLegacy? text).map Text.code := by
  rw [CodedTerm.legacyOf?, meant?_coded, toLegacy?]
  cases vocabulary.term? text <;> rfl

@[simp]
theorem modernOf?_coded (vocabulary : Vocabulary) (text : String) :
    CodedTerm.modernOf? vocabulary.coded (Text.code text) = (vocabulary.toModern? text).map Text.code := by
  rw [CodedTerm.modernOf?, meant?_coded, toModern?]
  cases vocabulary.term? text <;> rfl

theorem roundabout_coded (vocabulary : Vocabulary) (text : String) :
    (CodedTerm.modernOf? vocabulary.coded (Text.code text)).bind (CodedTerm.legacyOf? vocabulary.coded) =
      ((vocabulary.toModern? text).bind vocabulary.toLegacy?).map Text.code := by
  rw [modernOf?_coded]
  cases vocabulary.toModern? text with
  | none => rfl
  | some modern => exact legacyOf?_coded vocabulary modern

theorem code_mem_iff {texts : List String} : Text.code text ∈ texts.map Text.code ↔ text ∈ texts :=
  List.mem_map_of_injective fun _ _ => Text.code_injective

@[simp]
theorem map_code_inj {left right : Option String} : left.map Text.code = right.map Text.code ↔ left = right :=
  Option.map_inj_right fun _ _ => Text.code_injective

/-- What a text is checked for. -/
theorem isDirect_code (checked : CodedTerm.isDirect vocabulary.coded (fresh.map Text.code) (strays.map Text.code)
    (Text.code text)) :
    (if text ∈ strays then vocabulary.toLegacy? text = some text ∧
        (vocabulary.toModern? text).bind vocabulary.toLegacy? ≠ some text
      else vocabulary.toLegacy? text = (vocabulary.toModern? text).bind vocabulary.toLegacy?) ∧
    ∀ modern, vocabulary.toModern? text = some modern → (vocabulary.toLegacy? modern = none ↔ modern ∈ fresh) := by
  have single : some (Text.code text) = (some text).map Text.code := rfl
  rw [CodedTerm.isDirect, roundabout_coded, legacyOf?_coded, modernOf?_coded, Bool.and_eq_true] at checked
  refine ⟨?_, fun modern known => ?_⟩
  · have ways := checked.1
    split at ways
    · next stray =>
      rw [List.contains_iff_mem, code_mem_iff] at stray
      rw [if_pos stray]
      simpa only [Bool.and_eq_true, beq_iff_eq, bne_iff_ne, ne_eq, single, map_code_inj] using ways
    · next plain =>
      rw [List.contains_iff_mem, code_mem_iff] at plain
      rw [if_neg plain]
      simpa only [beq_iff_eq, map_code_inj] using ways
  · have lost := checked.2
    rw [known, Option.map_some, Option.all_some, legacyOf?_coded, Option.isNone_map, beq_iff_eq, Bool.eq_iff_iff,
      Option.isNone_iff_eq_none, List.contains_iff_mem, code_mem_iff] at lost
    exact lost

/-- A text that means a term is one of its spellings. -/
theorem code_mem_spellings {term : Term} (found : vocabulary.term? text = some term) :
    Text.code text ∈ vocabulary.coded.flatMap CodedTerm.spellings := by
  have spelled := List.find?_some found
  refine List.mem_flatMap.mpr ⟨term.coded, List.mem_map_of_mem (term?_mem found), ?_⟩
  simp only [Term.isSpelled, Bool.or_eq_true, beq_iff_eq] at spelled
  simp only [CodedTerm.spellings, Term.coded, List.mem_append, Option.mem_toList]
  rcases spelled with (legacy | modern) | handle
  · exact .inl (.inl (by rw [legacy, Option.map_some]))
  · exact .inl (.inr (by rw [modern, Option.map_some]))
  · exact .inr (by rw [handle, Option.map_some])

theorem direct_of_isDirect (checked : vocabulary.isDirect fresh strays) : vocabulary.Direct fresh strays := by
  rw [isDirect, List.all_append, Bool.and_eq_true, List.all_eq_true, List.all_eq_true] at checked
  obtain ⟨ofStrays, ofSpellings⟩ := checked
  refine ⟨fun text stray => ?_, fun text plain => ?_, fun text modern known => ?_⟩
  · have ways := (isDirect_code (ofStrays _ (List.mem_map_of_mem stray))).1
    rwa [if_pos stray] at ways
  · cases found : vocabulary.term? text with
    | none => rw [toLegacy?, toModern?, found, Option.bind_none, Option.bind_none, Option.bind_none]
    | some term =>
      have ways := (isDirect_code (ofSpellings _ (code_mem_spellings found))).1
      rwa [if_neg plain] at ways
  · obtain ⟨term, found, _⟩ := Option.bind_eq_some_iff.mp known
    exact (isDirect_code (ofSpellings _ (code_mem_spellings found))).2 modern known

namespace Settled

theorem toModern?_toModern? (settled : vocabulary.Settled) (known : vocabulary.toModern? text = some modern) :
    vocabulary.toModern? modern = some modern := by
  obtain ⟨term, isTerm, spelled⟩ := Option.bind_eq_some_iff.mp known
  obtain ⟨first, isFirst, same, _, _⟩ := settled.modern term (term?_mem isTerm) modern spelled
  exact Option.bind_eq_some_iff.mpr ⟨first, isFirst, same⟩

theorem toLegacy?_toLegacy? (settled : vocabulary.Settled) (known : vocabulary.toLegacy? text = some legacy) :
    vocabulary.toLegacy? legacy = some legacy := by
  obtain ⟨term, isTerm, spelled⟩ := Option.bind_eq_some_iff.mp known
  obtain ⟨first, isFirst, same⟩ := settled.legacy term (term?_mem isTerm) legacy spelled
  exact Option.bind_eq_some_iff.mpr ⟨first, isFirst, same⟩

end Settled

/-- What becomes of a list of texts that is put into the modern spelling and from that into the legacy one, where some
terms are new in the modern era and some legacy spellings are strays. -/
structure Converts (vocabulary : Vocabulary) (fresh strays : List String)
    (texts modern legacy : List (Option String)) : Prop where
  modern_again : vocabulary.toModernAll modern = modern
  legacy_again : vocabulary.toLegacyAll legacy = legacy
  back : ∀ (place : Nat) text, legacy[place]? = some (some text) →
    (vocabulary.toModernAll legacy)[place]? = modern[place]?
  lost_iff : ∀ place : Nat, legacy[place]? = some none ↔
    modern[place]? = some none ∨ ∃ term ∈ fresh, modern[place]? = some (some term)
  direct : ∀ place : Nat, (∀ stray ∈ strays, texts[place]? ≠ some (some stray)) →
    (vocabulary.toLegacyAll texts)[place]? = legacy[place]?
  stray : ∀ (place : Nat), ∀ stray ∈ strays, texts[place]? = some (some stray) →
    (vocabulary.toLegacyAll texts)[place]? = some (some stray) ∧ legacy[place]? ≠ some (some stray)

section Entry

variable (entry : Option String)

theorem bind_toModern?_again (settled : vocabulary.Settled) :
    (entry.bind vocabulary.toModern?).bind vocabulary.toModern? = entry.bind vocabulary.toModern? := by
  cases known : entry.bind vocabulary.toModern? with
  | none => rfl
  | some modern =>
    obtain ⟨text, _, known⟩ := Option.bind_eq_some_iff.mp known
    exact settled.toModern?_toModern? known

theorem bind_toLegacy?_again (settled : vocabulary.Settled) :
    (entry.bind vocabulary.toLegacy?).bind vocabulary.toLegacy? = entry.bind vocabulary.toLegacy? := by
  cases known : entry.bind vocabulary.toLegacy? with
  | none => rfl
  | some legacy =>
    obtain ⟨text, _, known⟩ := Option.bind_eq_some_iff.mp known
    exact settled.toLegacy?_toLegacy? known

theorem toModern?_of_roundabout (settled : vocabulary.Settled)
    (known : (entry.bind vocabulary.toModern?).bind vocabulary.toLegacy? = some legacy) :
    vocabulary.toModern? legacy = entry.bind vocabulary.toModern? := by
  obtain ⟨modern, isModern, known⟩ := Option.bind_eq_some_iff.mp known
  obtain ⟨text, _, meant⟩ := Option.bind_eq_some_iff.mp isModern
  rw [isModern, settled.toModern?_toLegacy? (isModern_of_toModern? meant) known]

theorem roundabout_eq_none_iff (direct : vocabulary.Direct fresh strays) :
    (entry.bind vocabulary.toModern?).bind vocabulary.toLegacy? = none ↔
      entry.bind vocabulary.toModern? = none ∨ ∃ term ∈ fresh, entry.bind vocabulary.toModern? = some term := by
  cases known : entry.bind vocabulary.toModern? with
  | none => simp
  | some modern =>
    obtain ⟨text, _, meant⟩ := Option.bind_eq_some_iff.mp known
    simp [direct.lost_iff text modern meant]

theorem toLegacy?_eq_roundabout (direct : vocabulary.Direct fresh strays)
    (plain : ∀ stray ∈ strays, entry ≠ some stray) :
    entry.bind vocabulary.toLegacy? = (entry.bind vocabulary.toModern?).bind vocabulary.toLegacy? := by
  cases entry with
  | none => rfl
  | some text => exact direct.direct text fun stray => plain text stray rfl

end Entry

section Places

variable {texts : List (Option String)} {place : Nat}

@[simp]
theorem getElem?_toModernAll :
    (vocabulary.toModernAll texts)[place]? = texts[place]?.map (·.bind vocabulary.toModern?) := List.getElem?_map ..

@[simp]
theorem getElem?_toLegacyAll :
    (vocabulary.toLegacyAll texts)[place]? = texts[place]?.map (·.bind vocabulary.toLegacy?) := List.getElem?_map ..

@[simp]
theorem getElem?_toDraftAll :
    (vocabulary.toDraftAll texts)[place]? = texts[place]?.map (·.bind vocabulary.toDraft?) := List.getElem?_map ..

end Places

theorem converts (settled : vocabulary.Settled) (direct : vocabulary.Direct fresh strays)
    (texts : List (Option String)) :
    vocabulary.Converts fresh strays texts (vocabulary.toModernAll texts)
      (vocabulary.toLegacyAll (vocabulary.toModernAll texts)) where
  modern_again := by
    simp only [toModernAll, List.map_map, List.map_inj_left, Function.comp_apply]
    exact fun entry _ => bind_toModern?_again entry settled
  legacy_again := by
    simp only [toLegacyAll, List.map_map, List.map_inj_left, Function.comp_apply]
    exact fun entry _ => bind_toLegacy?_again _ settled
  back place text known := by
    simp only [getElem?_toModernAll, getElem?_toLegacyAll, Option.map_map] at known ⊢
    obtain ⟨entry, found, known⟩ := Option.map_eq_some_iff.mp known
    rw [found, Option.map_some, Option.map_some, Option.some_inj]
    simp only [Function.comp_apply] at known ⊢
    rw [known]
    exact toModern?_of_roundabout entry settled known
  lost_iff place := by
    simp only [getElem?_toModernAll, getElem?_toLegacyAll, Option.map_map]
    cases texts[place]? with
    | none => simp
    | some entry => simpa using roundabout_eq_none_iff entry direct
  direct place plain := by
    simp only [getElem?_toModernAll, getElem?_toLegacyAll, Option.map_map]
    cases found : texts[place]? with
    | none => rfl
    | some entry =>
      have apart : ∀ stray ∈ strays, entry ≠ some stray := by
        rintro stray member rfl
        exact plain stray member found
      exact congrArg some (toLegacy?_eq_roundabout entry direct apart)
  stray place stray member found := by
    obtain ⟨kept, other⟩ := direct.stray stray member
    simp only [getElem?_toModernAll, getElem?_toLegacyAll, found, Option.map_some, Option.bind_some, kept, true_and]
    exact fun same => other (Option.some_inj.mp same)

end Vocabulary

namespace Role

/-- The roles that came with LIS v2. -/
def freshTerms : List String :=
  newContextHandles.map membershipUri ++ newSystemNames.map (lisV2 ++ "/system/person#" ++ ·)

/-- The legacy manager, which has no counterpart, and the second spelling of the teaching assistant. -/
def strays : List String :=
  [legacyContextPrefix ++ "Manager", legacyContextPrefix ++ "TeachingAssistant/TeachingAssistant"]

set_option maxRecDepth 100000 in
theorem vocabulary_direct : vocabulary.Direct freshTerms strays :=
  Vocabulary.direct_of_isDirect (by decide +kernel)

/-- The roles of a person in the system and in the institution, each with its spelling in the drafts. -/
inductive IsDrafted : String → String → Prop
  | system (name : String) : IsDrafted (lisV2 ++ "/system/person#" ++ name) (lisV2 ++ "/person#" ++ name)
  | institution (name : String) : IsDrafted (lisV2 ++ "/institution/person#" ++ name) (lisV2 ++ "/person#" ++ name)

variable {role draft : String}

theorem IsDrafted.ne (drafted : IsDrafted role draft) : draft ≠ role := by
  intro same
  cases drafted with
  | system name | institution name =>
    have sameScope := (String.append_right_inj _).mp ((String.append_left_inj _).mp same)
    exact absurd sameScope (by decide)

/-- A role has one spelling in the drafts. -/
theorem IsDrafted.unique {other : String} (drafted : IsDrafted role draft) (drafted' : IsDrafted role other) :
    draft = other := by
  have apart : ∀ name name', lisV2 ++ "/system/person#" ++ name ≠ lisV2 ++ "/institution/person#" ++ name' := by
    intro name name' same
    rw [String.append_assoc, String.append_assoc, String.append_right_inj] at same
    have chars := congrArg String.toList same
    simp only [String.toList_append] at chars
    cases chars
  generalize same : role = role' at drafted'
  cases drafted with
  | system name =>
    cases drafted' with
    | system name' => rw [String.append_right_inj _ |>.mp same]
    | institution name' => exact absurd same (apart name name')
  | institution name =>
    cases drafted' with
    | system name' => exact absurd same.symm (apart name' name)
    | institution name' => rw [String.append_right_inj _ |>.mp same]

theorem begins_of_isDrafted (drafted : IsDrafted role draft) :
    (Text.bytes (lisV2 ++ "/system/person#")).isPrefixOf (Text.bytes role) ∨
      (Text.bytes (lisV2 ++ "/institution/person#")).isPrefixOf (Text.bytes role) := by
  have begins : ∀ start name, Text.isPrefix start (start ++ name) := by
    intro start name
    simp [Text.isPrefix]
  cases drafted with
  | system name => exact .inl (Text.bytes_isPrefixOf (begins _ name))
  | institution name => exact .inr (Text.bytes_isPrefixOf (begins _ name))

/-- No modern spelling of a term without a draft begins like one of a person. -/
def isImpersonal (term : Term) : Bool :=
  term.modern.all fun role =>
    !(Text.bytes (lisV2 ++ "/system/person#")).isPrefixOf (Text.bytes role) &&
      !(Text.bytes (lisV2 ++ "/institution/person#")).isPrefixOf (Text.bytes role)

theorem isImpersonal_of_mem : ∀ term ∈ vocabulary.terms, term.draft = none → isImpersonal term := by
  decide +kernel

theorem draft_of_mem {term : Term} (member : term ∈ vocabulary.terms) (spelled : term.draft = some draft) :
    ∃ role, term.modern = some role ∧ IsDrafted role draft := by
  simp only [vocabulary, List.mem_append, List.mem_map, List.mem_cons, List.not_mem_nil, or_false] at member
  rcases member with ((((((⟨name, _, rfl⟩ | ⟨name, _, rfl⟩) | ⟨_, _, rfl⟩) | ⟨_, _, rfl⟩) | rfl | rfl) |
    ⟨_, _, rfl⟩) | ⟨name, _, rfl⟩)
  · cases spelled
    exact ⟨_, rfl, .system name⟩
  · cases spelled
    exact ⟨_, rfl, .institution name⟩
  all_goals try cases spelled
  exact ⟨_, rfl, .system name⟩

/-- A text that means the role of a person is put into the spelling of the drafts, and any other one into its modern
spelling. -/
theorem toDraft?_cases (text : String) :
    (∃ role draft, vocabulary.toModern? text = some role ∧ IsDrafted role draft ∧
      vocabulary.toDraft? text = some draft) ∨
    (vocabulary.toDraft? text = vocabulary.toModern? text ∧
      ∀ role draft, vocabulary.toModern? text = some role → ¬ IsDrafted role draft) := by
  rw [Vocabulary.toModern?, Vocabulary.toDraft?]
  cases found : vocabulary.term? text with
  | none => exact .inr ⟨rfl, fun role draft meant => by cases meant⟩
  | some term =>
    have member := Vocabulary.term?_mem found
    rw [Option.bind_some, Option.bind_some, Term.draftOrModern]
    cases spelled : term.draft with
    | some draft =>
      obtain ⟨role, meant, drafted⟩ := draft_of_mem member spelled
      exact .inl ⟨role, draft, meant, drafted, rfl⟩
    | none =>
      refine .inr ⟨Option.none_or, fun role draft meant drafted => ?_⟩
      have impersonal := isImpersonal_of_mem term member spelled
      rw [isImpersonal, meant, Option.all_some, Bool.and_eq_true, Bool.not_eq_true', Bool.not_eq_true'] at impersonal
      rcases begins_of_isDrafted drafted with system | institution
      · rw [impersonal.1] at system
        cases system
      · rw [impersonal.2] at institution
        cases institution

/-- What the drafts change of roles in their modern spelling. -/
structure Drafts (modern drafts : List (Option String)) : Prop where
  differ_iff : ∀ place : Nat, drafts[place]? ≠ modern[place]? ↔
    ∃ role draft, modern[place]? = some (some role) ∧ IsDrafted role draft
  drafted : ∀ (place : Nat) (role draft : String), modern[place]? = some (some role) → IsDrafted role draft →
    drafts[place]? = some (some draft)

theorem drafts (texts : List (Option String)) :
    Drafts (vocabulary.toModernAll texts) (vocabulary.toDraftAll texts) := by
  constructor
  · intro place
    rw [Vocabulary.getElem?_toModernAll, Vocabulary.getElem?_toDraftAll]
    cases texts[place]? with
    | none => simp
    | some entry =>
      cases entry with
      | none => simp
      | some text =>
        rcases toDraft?_cases text with ⟨role, draft, meant, drafted, spelled⟩ | ⟨same, plain⟩
        · simp only [Option.map_some, Option.bind_some, meant, spelled, Option.some_inj, ne_eq]
          exact ⟨fun _ => ⟨role, draft, rfl, drafted⟩, fun _ => drafted.ne⟩
        · simp only [Option.map_some, Option.bind_some, same, Option.some_inj, ne_eq, not_true_eq_false, false_iff]
          rintro ⟨role, draft, meant, drafted⟩
          exact plain role draft meant drafted
  · intro place role draft meant drafted
    rw [Vocabulary.getElem?_toModernAll] at meant
    rw [Vocabulary.getElem?_toDraftAll]
    obtain ⟨entry, found, meant⟩ := Option.map_eq_some_iff.mp meant
    obtain ⟨text, rfl, meant⟩ := Option.bind_eq_some_iff.mp meant
    rw [found, Option.map_some, Option.bind_some, Option.some_inj]
    rcases toDraft?_cases text with ⟨role', draft', meant', drafted', spelled⟩ | ⟨_, plain⟩
    · cases meant.symm.trans meant'
      rw [spelled, drafted.unique drafted']
    · exact absurd drafted (plain role draft meant)

end Role

namespace ContextType

theorem vocabulary_direct : vocabulary.Direct [] [] :=
  Vocabulary.direct_of_isDirect (by decide +kernel)

/-- No kind of course that is known is lost on any way. -/
structure Lossless (texts modern legacy : List (Option String)) : Prop where
  byLegacy : vocabulary.toModernAll (vocabulary.toLegacyAll texts) = modern
  byModern : vocabulary.toLegacyAll texts = legacy
  known : ∀ (place : Nat) text, texts[place]? = some (some text) → (∃ term ∈ vocabulary.terms, term.isSpelled text) →
    (∃ uri, modern[place]? = some (some uri)) ∧ ∃ urn, legacy[place]? = some (some urn)

theorem exists_toModern? {text : String} (known : ∃ term ∈ vocabulary.terms, term.isSpelled text) :
    ∃ uri, vocabulary.toModern? text = some uri := by
  obtain ⟨term, found⟩ := Option.isSome_iff_exists.mp (List.find?_isSome.mpr known)
  obtain ⟨handle, _, rfl⟩ := List.mem_map.mp (Vocabulary.term?_mem found)
  exact ⟨_, Option.bind_eq_some_iff.mpr ⟨_, found, rfl⟩⟩

/-- Every kind of course has a legacy spelling, which leads back to it. -/
theorem exists_toLegacy? {text uri : String} (meant : vocabulary.toModern? text = some uri) :
    ∃ urn, vocabulary.toLegacy? uri = some urn ∧ vocabulary.toModern? urn = some uri := by
  have isModern := Vocabulary.isModern_of_toModern? meant
  obtain ⟨urn, spelled⟩ := Option.isSome_iff_exists.mp (toLegacy?_isSome isModern)
  exact ⟨urn, spelled, vocabulary_settled.toModern?_toLegacy? isModern spelled⟩

theorem lossless (texts : List (Option String)) :
    Lossless texts (vocabulary.toModernAll texts) (vocabulary.toLegacyAll (vocabulary.toModernAll texts)) := by
  have byModern : vocabulary.toLegacyAll texts = vocabulary.toLegacyAll (vocabulary.toModernAll texts) := by
    rw [Vocabulary.toLegacyAll, Vocabulary.toLegacyAll, Vocabulary.toModernAll, List.map_map]
    refine List.map_congr_left fun entry _ => ?_
    exact Vocabulary.toLegacy?_eq_roundabout entry vocabulary_direct (by simp)
  refine ⟨?_, byModern, fun place text found known => ?_⟩
  · rw [byModern, Vocabulary.toModernAll, Vocabulary.toModernAll, Vocabulary.toLegacyAll, List.map_map, List.map_map]
    refine List.map_congr_left fun entry _ => ?_
    simp only [Function.comp_apply]
    cases meant : entry.bind vocabulary.toModern? with
    | none => rfl
    | some uri =>
      obtain ⟨text, _, meant⟩ := Option.bind_eq_some_iff.mp meant
      obtain ⟨urn, spelled, back⟩ := exists_toLegacy? meant
      rw [Option.bind_some, spelled, Option.bind_some, back]
  · obtain ⟨uri, meant⟩ := exists_toModern? known
    obtain ⟨urn, spelled, _⟩ := exists_toLegacy? meant
    rw [Vocabulary.getElem?_toLegacyAll, Vocabulary.getElem?_toModernAll, found, Option.map_some, Option.bind_some,
      meant]
    exact ⟨⟨uri, rfl⟩, urn, by rw [Option.map_some, Option.bind_some, spelled]⟩

end ContextType

/-- Roles and kinds of courses in lists, converted to the modern spelling and from that to the legacy one: what has
been converted stays, the legacy spelling leads back wherever there is one, and there is none only for the roles that
are new. The drafts spell nothing but the roles of persons in a way of their own. Kinds of courses are never lost. -/
theorem terms_convert_place_by_place (texts : List (Option String)) :
    Role.vocabulary.Converts Role.freshTerms Role.strays texts (Role.vocabulary.toModernAll texts)
      (Role.vocabulary.toLegacyAll (Role.vocabulary.toModernAll texts)) ∧
    Role.Drafts (Role.vocabulary.toModernAll texts) (Role.vocabulary.toDraftAll texts) ∧
    ContextType.vocabulary.Converts [] [] texts (ContextType.vocabulary.toModernAll texts)
      (ContextType.vocabulary.toLegacyAll (ContextType.vocabulary.toModernAll texts)) ∧
    ContextType.Lossless texts (ContextType.vocabulary.toModernAll texts)
      (ContextType.vocabulary.toLegacyAll (ContextType.vocabulary.toModernAll texts)) := by
  have roles := Vocabulary.converts Role.vocabulary_settled Role.vocabulary_direct texts
  have courses := Vocabulary.converts ContextType.vocabulary_settled ContextType.vocabulary_direct texts
  exact ⟨roles, Role.drafts texts, courses, ContextType.lossless texts⟩

end LtiPlatform
