import LtiPlatform.Proofs.Json.RoundTrip

namespace LtiPlatform

namespace Json

namespace Reader

open LtiPlatform.Reader

/-- The text is read as the value, and all of it, no matter what follows. -/
abbrev ReadsAlways {α : Type} : Reader α → List Char → α → Prop := ReadsBefore fun _ => True

variable {α : Type} {item : Reader α} {values : List α} {closing : Char}

theorem Blank.lineBreak {indent : String} (blank : Blank indent.toList) : Blank ('\n' :: indent.toList) := by
  intro c member
  rcases List.mem_cons.mp member with rfl | member
  · decide
  · exact blank c member

theorem Blank.deeper {indent : String} (blank : Blank indent.toList) : Blank (indent ++ "  ").toList := by
  intro c member
  rw [String.toList_append, List.mem_append] at member
  rcases member with member | member
  · exact blank c member
  · have space : c ∈ List.replicate 2 ' ' := member
    rw [List.eq_of_mem_replicate space]
    rfl

theorem ReadsAlways.value_of_scalar {text : List Char} {written : WrittenJson}
    (reads : ReadsAlways scalar text written) (depth : Nat) : ReadsAlways (Reader.value depth) text written :=
  ⟨reads.starts, fun rest follows => Reader.value_of_scalar (reads.reads rest follows) depth⟩

theorem readsAlways_member {value : Reader WrittenJson} {text : String} {written : WrittenJson}
    (reads : ReadsAlways value text.toList written) (name : String) :
    ReadsAlways (member value) (quote name ++ ": " ++ text).toList (some name, written) := by
  have chars : (quote name ++ ": " ++ text).toList = (quote name).toList ++ ':' :: ' ' :: text.toList := by
    simp
  refine ⟨?_, fun rest _ => ?_⟩
  · rw [chars, quote_toList]
    exact ⟨_, _, rfl, by decide⟩
  · have colon : isSpace ':' = false := by decide
    have blank : Blank [' '] := by
      intro c member
      cases List.mem_singleton.mp member
      decide
    have space : skipSpace (' ' :: (text.toList ++ rest)) = text.toList ++ rest :=
      (blank.skipSpace_append _).trans (reads.skipSpace rest)
    rw [chars, List.append_assoc, List.cons_append, member, stringLiteral_quote]
    simp only [Option.bind_eq_bind, Option.bind_some, skipSpace_cons colon, expect, if_pos,
      List.cons_append, space, reads.reads rest trivial]

/-- Behind its opening bracket, a block is the sequence of its pieces. -/
theorem sequence_indentedBlock (closes : closing = ']' ∨ closing = '\x7d') {indent : String}
    (blank : Blank indent.toList) {pieces : List String}
    (each : List.Forall₂ (ReadsAlways item) (pieces.map String.toList) values) (opening : Char) :
    ∃ inside, (indentedBlock indent (.singleton opening) (.singleton closing) pieces).toList =
        opening :: inside ∧ ∀ rest, sequence closing item (inside ++ rest) = some (values, rest) := by
  cases pieces with
  | nil =>
    cases each
    exact ⟨[closing], by simp [indentedBlock], sequence_nil closes⟩
  | cons piece pieces =>
    have inner := blank.deeper.lineBreak
    refine ⟨('\n' :: (indent ++ "  ").toList) ++
      ((',' :: '\n' :: (indent ++ "  ").toList).intercalate ((piece :: pieces).map String.toList) ++
        (('\n' :: indent.toList) ++ [closing])), ?_, fun rest => ?_⟩
    · simp [indentedBlock, Text.joinWith]
    · rw [List.append_assoc, List.append_assoc, List.append_assoc, List.singleton_append]
      exact sequence_spaced closes inner inner blank.lineBreak (fun _ => trivial) trivial each (List.cons_ne_nil _ _)

mutual

theorem readsAlways_prettyAt : ∀ (value : Json) {depth : Nat} {indent : String}, value.levels ≤ depth →
    value.numbers = [] → Blank indent.toList →
    ReadsAlways (Reader.value depth) (prettyAt indent value).toList (.ofJson value)
  | .null, depth, _, _, _, _ => by
    rw [prettyAt]
    refine ReadsAlways.value_of_scalar ⟨⟨_, _, rfl, by decide⟩, fun rest _ => ?_⟩ depth
    rfl
  | .bool truth, depth, _, _, _, _ => by
    rw [prettyAt]
    refine ReadsAlways.value_of_scalar ?_ depth
    cases truth
    · exact ⟨⟨_, _, rfl, by decide⟩, fun rest _ => rfl⟩
    · exact ⟨⟨_, _, rfl, by decide⟩, fun rest _ => rfl⟩
  | .number value, _, _, _, numberless, _ => by cases numberless
  | .string text, depth, _, _, _, _ =>
    ReadsAlways.value_of_scalar ⟨⟨_, _, quote_toList text, by decide⟩, fun rest _ => scalar_quote text rest⟩ depth
  | .array items, 0, _, nested, _, _ => by
    rw [levels] at nested
    cases nested
  | .array items, depth + 1, indent, nested, numberless, blank => by
    have each := readsAlways_prettyItems items (Nat.le_of_succ_le_succ nested) numberless blank.deeper
    obtain ⟨inside, chars, read⟩ := sequence_indentedBlock (.inl rfl) blank each '['
    refine ⟨⟨_, _, chars, by decide⟩, fun rest _ => ?_⟩
    have behind : (prettyAt indent (.array items)).toList = '[' :: inside := chars
    rw [behind, List.cons_append, Reader.value, read]
    rfl
  | .object members, 0, _, nested, _, _ => by
    rw [levels] at nested
    cases nested
  | .object members, depth + 1, indent, nested, numberless, blank => by
    have each := readsAlways_prettyMembers members (Nat.le_of_succ_le_succ nested) numberless blank.deeper
    obtain ⟨inside, chars, read⟩ := sequence_indentedBlock (.inr rfl) blank each '\x7b'
    refine ⟨⟨_, _, chars, by decide⟩, fun rest _ => ?_⟩
    have behind : (prettyAt indent (.object members)).toList = '\x7b' :: inside := chars
    rw [behind, List.cons_append, Reader.value, read]
    rfl

theorem readsAlways_prettyItems : ∀ (items : List Json) {depth : Nat} {indent : String},
    levelsOfItems items ≤ depth → numbersOfItems items = [] → Blank indent.toList →
    List.Forall₂ (ReadsAlways (Reader.value depth)) ((prettyItems indent items).map String.toList)
      (WrittenJson.ofItems items)
  | [], _, _, _, _, _ => .nil
  | item :: rest, _, _, nested, numberless, blank => by
    rw [levelsOfItems, Nat.max_le] at nested
    rw [numbersOfItems, List.append_eq_nil_iff] at numberless
    exact .cons (readsAlways_prettyAt item nested.1 numberless.1 blank)
      (readsAlways_prettyItems rest nested.2 numberless.2 blank)

theorem readsAlways_prettyMembers : ∀ (members : List (String × Json)) {depth : Nat} {indent : String},
    levelsOfMembers members ≤ depth → numbersOfMembers members = [] → Blank indent.toList →
    List.Forall₂ (ReadsAlways (member (Reader.value depth)))
      ((prettyMembers indent members).map String.toList) (WrittenJson.ofMembers members)
  | [], _, _, _, _, _ => .nil
  | (name, value) :: rest, _, _, nested, numberless, blank => by
    rw [levelsOfMembers, Nat.max_le] at nested
    rw [numbersOfMembers, List.append_eq_nil_iff] at numberless
    exact .cons (readsAlways_member (readsAlways_prettyAt value nested.1 numberless.1 blank) name)
      (readsAlways_prettyMembers rest nested.2 numberless.2 blank)

end

end Reader

theorem prettyItems_eq_map (indent : String) (items : List Json) :
    prettyItems indent items = items.map (prettyAt indent) := by
  induction items with
  | nil => rfl
  | cons item rest ih => rw [prettyItems, ih, List.map_cons]

theorem prettyMembers_eq_map (indent : String) (members : List (String × Json)) :
    prettyMembers indent members =
      members.map fun member => quote member.1 ++ ": " ++ prettyAt indent member.2 := by
  induction members with
  | nil => rfl
  | cons member rest ih => rw [prettyMembers, ih, List.map_cons]

theorem length_lt_indentedBlock (indent : String) (opening closing : Char) (pieces : List String) :
    (Text.joinWith (",\n" ++ (indent ++ "  ")) pieces).toList.length <
      (indentedBlock indent (.singleton opening) (.singleton closing) pieces).toList.length := by
  cases pieces with
  | nil => simp [indentedBlock, Text.joinWith]
  | cons piece pieces =>
    simp only [indentedBlock, List.isEmpty_cons, if_false, String.toList_append, List.length_append,
      String.toList_singleton, List.length_singleton, Bool.false_eq_true]
    omega

theorem shrinks_prettyAt : Shrinks fun indent value => (prettyAt indent value).toList.length where
  array indent items := by
    refine ⟨indent ++ "  ", _, length_lt_indentedBlock indent '[' ']' (prettyItems (indent ++ "  ") items),
      fun item member => ?_⟩
    rw [prettyItems_eq_map]
    exact length_le_joined (List.mem_map_of_mem member)
  object indent members := by
    refine ⟨indent ++ "  ", _,
      length_lt_indentedBlock indent '\x7b' '\x7d' (prettyMembers (indent ++ "  ") members),
      fun member held => ?_⟩
    rw [prettyMembers_eq_map]
    refine Nat.le_trans ?_ (length_le_joined (List.mem_map_of_mem held))
    simp only [String.toList_append, List.length_append]
    omega

/-- The indented text of a value without numbers is read as that value. -/
theorem written?_pretty {value : Json} (numberless : value.numbers = []) :
    written? value.pretty = some (.ofJson value) := by
  have nested : value.levels ≤ value.pretty.length := by
    rw [← String.length_toList]
    exact shrinks_prettyAt.levels_le value ""
  have blank : Reader.Blank "".toList := Reader.blank_nil
  have reads := Reader.readsAlways_prettyAt value nested numberless blank
  have start := reads.skipSpace []
  have read := reads.reads [] trivial
  rw [List.append_nil, ← pretty] at start read
  rw [written?, Reader.whole, start, read]
  rfl

end Json

end LtiPlatform
