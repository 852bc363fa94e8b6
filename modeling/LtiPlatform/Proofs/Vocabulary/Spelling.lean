import Mathlib.Tactic.Common
import LtiPlatform.Proofs.Text.Code
import LtiPlatform.Proofs.Text.Pieces

namespace LtiPlatform

namespace Text

theorem isItem_of_isPlain {text : String} (plain : isPlain text) : IsItem text := by
  have solid : ∀ c ∈ text.toList, isBlank c = false := by
    intro c member
    obtain ⟨lower, upper, _⟩ := toNat_of_isPlain plain member
    simp only [isBlank, Bool.or_eq_false_iff, Bool.and_eq_false_iff, decide_eq_false_iff_not,
      beq_eq_false_iff_ne]
    omega
  refine ⟨?_, ?_, fun c first => solid c (List.mem_of_head? first),
    fun c last => solid c (List.mem_of_getLast? last)⟩
  · rintro rfl
    exact absurd plain (by decide)
  · intro comma
    exact (toNat_of_isPlain plain comma).2.2 rfl

end Text

/-- A term with its spellings given by their codes. -/
structure CodedTerm where
  legacy : Option Nat
  modern : Option Nat
  handle : Option Nat

namespace CodedTerm

def isSpelled (term : CodedTerm) (code : Nat) : Bool :=
  term.legacy == some code || term.modern == some code || term.handle == some code

def meant? (terms : List CodedTerm) (code : Nat) : Option CodedTerm :=
  terms.find? (·.isSpelled code)

/-- The legacy spelling means a term that has it. -/
def keepsLegacy (terms : List CodedTerm) (term : CodedTerm) : Bool :=
  term.legacy.all fun legacy => (meant? terms legacy).any (·.legacy == some legacy)

/-- The modern spelling means a term that has it, and a legacy spelling too if this one has; and that
legacy spelling leads back. -/
def keepsModern (terms : List CodedTerm) (term : CodedTerm) : Bool :=
  term.modern.all fun modern =>
    (meant? terms modern).any fun first =>
      first.modern == some modern && (term.legacy.isNone || first.legacy.isSome) &&
        first.legacy.all fun legacy => (meant? terms legacy).any (·.modern == some modern)

end CodedTerm

namespace Term

def coded (term : Term) : CodedTerm :=
  ⟨term.legacy.map Text.code, term.modern.map Text.code, term.handle.map Text.code⟩

def isPlain (term : Term) : Bool := term.legacy.all Text.isPlain && term.modern.all Text.isPlain

theorem code_beq {spelling : Option String} {text : String} :
    (spelling.map Text.code == some (Text.code text)) = (spelling == some text) := by
  cases spelling with
  | none => rfl
  | some spelling =>
    rw [Bool.eq_iff_iff]
    simp only [Option.map_some, beq_iff_eq, Option.some.injEq]
    exact ⟨Text.code_injective, congrArg Text.code⟩

@[simp]
theorem isSpelled_coded (term : Term) (text : String) :
    term.coded.isSpelled (Text.code text) = term.isSpelled text := by
  simp only [CodedTerm.isSpelled, coded, code_beq, isSpelled]

end Term

namespace Vocabulary

def coded (vocabulary : Vocabulary) : List CodedTerm := vocabulary.terms.map Term.coded

/-- The check of all spellings, by their codes. -/
def isSettled (vocabulary : Vocabulary) : Bool :=
  (vocabulary.coded.all fun term =>
    CodedTerm.keepsLegacy vocabulary.coded term && CodedTerm.keepsModern vocabulary.coded term) &&
  vocabulary.terms.all Term.isPlain

/-- Spellings lead from one era to the other and back, and are all plain. -/
structure Settled (vocabulary : Vocabulary) : Prop where
  legacy : ∀ term ∈ vocabulary.terms, ∀ legacy, term.legacy = some legacy →
    ∃ first, vocabulary.term? legacy = some first ∧ first.legacy = some legacy
  modern : ∀ term ∈ vocabulary.terms, ∀ modern, term.modern = some modern →
    ∃ first, vocabulary.term? modern = some first ∧ first.modern = some modern ∧
      (term.legacy.isSome → first.legacy.isSome) ∧
      ∀ legacy, first.legacy = some legacy →
        ∃ second, vocabulary.term? legacy = some second ∧ second.modern = some modern
  legacyItem : ∀ term ∈ vocabulary.terms, ∀ legacy, term.legacy = some legacy → Text.IsItem legacy
  modernItem : ∀ term ∈ vocabulary.terms, ∀ modern, term.modern = some modern → Text.IsItem modern

variable {vocabulary : Vocabulary} {text legacy modern : String}

@[simp]
theorem meant?_coded (vocabulary : Vocabulary) (text : String) :
    CodedTerm.meant? vocabulary.coded (Text.code text) = (vocabulary.term? text).map Term.coded := by
  rw [CodedTerm.meant?, coded, List.find?_map, term?]
  simp only [Function.comp_def, Term.isSpelled_coded]

theorem exists_of_meant?_any {accept : CodedTerm → Bool}
    (found : (CodedTerm.meant? vocabulary.coded (Text.code text)).any accept) :
    ∃ first, vocabulary.term? text = some first ∧ accept first.coded := by
  rw [meant?_coded, Option.any_map] at found
  obtain ⟨first, isFirst, accepted⟩ := Option.any_eq_true _ _ |>.mp found
  exact ⟨first, isFirst, accepted⟩

theorem settled_of_isSettled (checked : vocabulary.isSettled) : vocabulary.Settled := by
  rw [isSettled, Bool.and_eq_true, List.all_eq_true, List.all_eq_true] at checked
  obtain ⟨kept, plain⟩ := checked
  have kept : ∀ term ∈ vocabulary.terms, CodedTerm.keepsLegacy vocabulary.coded term.coded ∧
      CodedTerm.keepsModern vocabulary.coded term.coded := fun term member =>
    Bool.and_eq_true _ _ |>.mp (kept term.coded (List.mem_map_of_mem member))
  refine ⟨?_, ?_, ?_, ?_⟩
  · intro term member legacy spelled
    have keeps := (kept term member).1
    rw [CodedTerm.keepsLegacy, Term.coded, spelled] at keeps
    obtain ⟨first, isFirst, same⟩ := exists_of_meant?_any keeps
    rw [Term.coded, Term.code_beq] at same
    exact ⟨first, isFirst, beq_iff_eq.mp same⟩
  · intro term member modern spelled
    have keeps := (kept term member).2
    rw [CodedTerm.keepsModern, Term.coded, spelled] at keeps
    obtain ⟨first, isFirst, same⟩ := exists_of_meant?_any keeps
    simp only [Term.coded, Term.code_beq, Bool.and_eq_true, beq_iff_eq, Bool.or_eq_true,
      Option.isNone_map, Option.isSome_map] at same
    obtain ⟨⟨same, kept⟩, back⟩ := same
    refine ⟨first, isFirst, same, fun known => ?_, fun legacy spelled => ?_⟩
    · rcases kept with absent | present
      · rw [Option.isNone_iff_eq_none] at absent
        rw [absent] at known
        cases known
      · exact present
    · rw [spelled] at back
      obtain ⟨second, isSecond, same⟩ := exists_of_meant?_any back
      rw [Term.coded, Term.code_beq] at same
      exact ⟨second, isSecond, beq_iff_eq.mp same⟩
  · intro term member legacy spelled
    have plain := plain term member
    rw [Term.isPlain, spelled, Bool.and_eq_true] at plain
    exact Text.isItem_of_isPlain plain.1
  · intro term member modern spelled
    have plain := plain term member
    rw [Term.isPlain, spelled, Bool.and_eq_true] at plain
    exact Text.isItem_of_isPlain plain.2

theorem term?_mem {term : Term} (found : vocabulary.term? text = some term) :
    term ∈ vocabulary.terms := List.mem_of_find?_eq_some found

theorem isModern_of_toModern? (meant : vocabulary.toModern? text = some modern) : vocabulary.isModern modern := by
  obtain ⟨term, isTerm, spelled⟩ := Option.bind_eq_some_iff.mp meant
  exact List.any_eq_true.mpr ⟨term, term?_mem isTerm, beq_iff_eq.mpr spelled⟩

namespace Settled

/-- Of a modern spelling, the legacy one leads back to it. -/
theorem toModern?_toLegacy? (settled : vocabulary.Settled) (known : vocabulary.isModern modern)
    (spelled : vocabulary.toLegacy? modern = some legacy) :
    vocabulary.toModern? legacy = some modern := by
  obtain ⟨term, member, isModern⟩ := List.any_eq_true.mp known
  obtain ⟨first, isFirst, _, _, back⟩ := settled.modern term member modern (beq_iff_eq.mp isModern)
  obtain ⟨first', isFirst', spelled⟩ := Option.bind_eq_some_iff.mp spelled
  cases isFirst.symm.trans isFirst'
  obtain ⟨second, isSecond, same⟩ := back legacy spelled
  exact Option.bind_eq_some_iff.mpr ⟨second, isSecond, same⟩

/-- What is modern for a legacy spelling has a legacy spelling itself. -/
theorem modern_of_toLegacy? (settled : vocabulary.Settled)
    (spelled : vocabulary.toLegacy? text = some legacy)
    (meant : vocabulary.toModern? legacy = some modern) :
    vocabulary.isModern modern ∧ (vocabulary.toLegacy? modern).isSome := by
  obtain ⟨term, isTerm, spelled⟩ := Option.bind_eq_some_iff.mp spelled
  obtain ⟨first, isFirst, isModern⟩ := Option.bind_eq_some_iff.mp meant
  obtain ⟨first', isFirst', hasLegacy⟩ := settled.legacy term (term?_mem isTerm) legacy spelled
  cases isFirst.symm.trans isFirst'
  have member := term?_mem isFirst
  obtain ⟨second, isSecond, _, kept, _⟩ := settled.modern first member modern isModern
  refine ⟨List.any_eq_true.mpr ⟨first, member, beq_iff_eq.mpr isModern⟩, ?_⟩
  rw [toLegacy?, isSecond, Option.bind_some]
  exact kept (by rw [hasLegacy, Option.isSome_some])

theorem isItem_of_toLegacy? (settled : vocabulary.Settled)
    (spelled : vocabulary.toLegacy? text = some legacy) : Text.IsItem legacy := by
  obtain ⟨term, isTerm, spelled⟩ := Option.bind_eq_some_iff.mp spelled
  exact settled.legacyItem term (term?_mem isTerm) legacy spelled

theorem isItem_of_toModern? (settled : vocabulary.Settled)
    (spelled : vocabulary.toModern? text = some modern) : Text.IsItem modern := by
  obtain ⟨term, isTerm, spelled⟩ := Option.bind_eq_some_iff.mp spelled
  exact settled.modernItem term (term?_mem isTerm) modern spelled

end Settled

end Vocabulary

set_option maxRecDepth 100000 in
theorem Role.vocabulary_settled : Role.vocabulary.Settled :=
  Vocabulary.settled_of_isSettled (by decide +kernel)

theorem ContextType.vocabulary_settled : ContextType.vocabulary.Settled :=
  Vocabulary.settled_of_isSettled (by decide +kernel)

/-- Every kind of course has a legacy spelling. -/
theorem ContextType.toLegacy?_isSome {text : String} (known : vocabulary.isModern text) :
    (vocabulary.toLegacy? text).isSome := by
  have complete : ∀ term ∈ vocabulary.terms, term.legacy.isSome := by decide +kernel
  obtain ⟨term, member, isModern⟩ := List.any_eq_true.mp known
  obtain ⟨first, isFirst, _, kept, _⟩ :=
    vocabulary_settled.modern term member text (beq_iff_eq.mp isModern)
  rw [Vocabulary.toLegacy?, isFirst, Option.bind_some]
  exact kept (complete term member)

end LtiPlatform
