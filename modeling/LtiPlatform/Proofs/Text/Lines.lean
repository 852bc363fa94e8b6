import LtiPlatform.Proofs.Text.Pieces

namespace LtiPlatform.Text

/-- White space that does not break the line. -/
def IsGap (chars : List Char) : Prop := ∀ c ∈ chars, isBlank c ∧ c ≠ '\n'

/-- The entry is a whole line of the text, apart from white space around it. -/
structure StandsAlone (entry text : List Char) : Prop where
  nonempty : entry ≠ []
  oneLine : '\n' ∉ entry
  trimmed : IsTrimmed entry
  isLine : ∃ before left right after, text = before ++ (left ++ (entry ++ right) ++ after) ∧
    IsGap left ∧ IsGap right ∧ (∀ c ∈ before.getLast?, c = '\n') ∧ ∀ c ∈ after.head?, c = '\n'

section Pieces

variable {separator : Char} {piece chars before after : List Char}

theorem exists_of_intercalate (left right : List (List Char)) (piece : List Char) :
    ∃ before after, [separator].intercalate (left ++ piece :: right) = before ++ (piece ++ after) ∧
      (∀ c ∈ before.getLast?, c = separator) ∧ ∀ c ∈ after.head?, c = separator := by
  induction left with
  | nil =>
    cases right with
    | nil => exact ⟨[], [], by simp, by simp, by simp⟩
    | cons next right =>
      refine ⟨[], separator :: [separator].intercalate (next :: right), ?_, by simp, by simp⟩
      rw [List.nil_append, List.intercalate_cons_cons, List.append_assoc, List.singleton_append, List.nil_append]
  | cons first left ih =>
    obtain ⟨before, after, joined, ends, begins⟩ := ih
    obtain ⟨next, more, isCons⟩ := List.exists_cons_of_ne_nil (List.append_ne_nil_of_right_ne_nil left
      (List.cons_ne_nil piece right))
    refine ⟨first ++ separator :: before, after, ?_, ?_, begins⟩
    · rw [List.cons_append, isCons, List.intercalate_cons_cons, ← isCons, joined]
      simp
    · intro c last
      rw [List.getLast?_append, List.getLast?_cons] at last
      cases isLast : before.getLast? with
      | none =>
        rw [isLast] at last
        exact (Option.some_inj.mp last).symm
      | some c' =>
        rw [isLast] at last
        exact (Option.some_inj.mp last) ▸ ends c' isLast

/-- The pieces are what stands between two separators, or between one and an end of the text. -/
theorem mem_splitChars_iff : piece ∈ splitChars separator chars ↔ separator ∉ piece ∧
    ∃ before after, chars = before ++ (piece ++ after) ∧
      (∀ c ∈ before.getLast?, c = separator) ∧ ∀ c ∈ after.head?, c = separator := by
  constructor
  · intro member
    refine ⟨not_mem_of_mem_splitChars member, ?_⟩
    rw [splitChars_eq_splitOn] at member
    obtain ⟨left, right, pieces⟩ := List.append_of_mem member
    have joined : [separator].intercalate (chars.splitOn separator) = chars := List.intercalate_splitOn separator
    rw [← joined, pieces]
    exact exists_of_intercalate left right piece
  · rintro ⟨free, before, after, rfl, ends, begins⟩
    have first : piece ∈ (piece ++ after).splitOn separator := by
      cases after with
      | nil =>
        rw [List.append_nil, List.splitOn_eq_singleton free]
        exact List.mem_singleton_self piece
      | cons c after =>
        rw [begins c rfl, List.splitOn_append_cons_self_of_not_mem free]
        exact List.mem_cons_self ..
    rw [splitChars_eq_splitOn]
    rcases List.eq_nil_or_concat before with rfl | ⟨before, c, rfl⟩
    · exact first
    · rw [ends c (by simp), List.concat_eq_append, List.append_assoc, List.singleton_append,
        List.splitOn_append_cons_self]
      exact List.mem_append_right _ first

theorem splitChars_append_cons (free : separator ∉ piece) (rest : List Char) :
    splitChars separator (piece ++ separator :: rest) = piece :: splitChars separator rest := by
  rw [splitChars_eq_splitOn, splitChars_eq_splitOn, List.splitOn_append_cons_self_of_not_mem free]

theorem splitChars_eq_singleton (free : separator ∉ piece) : splitChars separator piece = [piece] := by
  rw [splitChars_eq_splitOn, List.splitOn_eq_singleton free]

end Pieces

section Trimming

variable {chars left middle right : List Char}

/-- White space around a trimmed text is all that trimming takes away. -/
theorem trimChars_between (blankLeft : ∀ c ∈ left, isBlank c) (blankRight : ∀ c ∈ right, isBlank c)
    (trimmed : IsTrimmed middle) : trimChars (left ++ (middle ++ right)) = middle := by
  have behind : (middle ++ right).rdropWhile isBlank = middle := by
    rw [List.rdropWhile, List.reverse_append, List.dropWhile_append_of_pos (by simpa using blankRight)]
    refine List.rdropWhile_eq_self_iff.mpr fun nonempty blank => ?_
    rw [trimmed.2 _ (List.getLast?_eq_some_getLast nonempty)] at blank
    cases blank
  rw [trimChars_eq_rdropWhile, List.dropWhile_append_of_pos blankLeft]
  cases middle with
  | nil =>
    rw [List.nil_append, List.dropWhile_eq_nil_iff.mpr blankRight]
    rfl
  | cons c rest =>
    have solid := trimmed.1 c rfl
    rw [List.cons_append, List.dropWhile_cons_of_neg (by simp [solid]), ← List.cons_append, behind]

/-- Trimming takes away white space at both ends. -/
theorem exists_around_trimChars (chars : List Char) :
    ∃ left right, chars = left ++ (trimChars chars ++ right) ∧ (∀ c ∈ left, isBlank c) ∧
      ∀ c ∈ right, isBlank c := by
  refine ⟨chars.takeWhile isBlank, (chars.dropWhile isBlank).rtakeWhile isBlank, ?_,
    fun c => List.mem_takeWhile_imp, fun c => List.mem_rtakeWhile_imp⟩
  rw [trimChars_eq_rdropWhile, List.rdropWhile_append_rtakeWhile, List.takeWhile_append_dropWhile]

/-- A carriage return at the end of a line is white space. -/
theorem trimChars_dropReturn (chars : List Char) : trimChars (dropReturn chars) = trimChars chars := by
  rw [dropReturn]
  split
  · next last =>
    obtain ⟨left, right, whole, blankLeft, blankRight⟩ := exists_around_trimChars chars.dropLast
    have returned : chars.dropLast ++ ['\r'] = chars := List.dropLast_append_getLast? '\r' last
    have blankReturned : ∀ c ∈ right ++ ['\r'], isBlank c := by
      intro c member
      rcases List.mem_append.mp member with member | member
      · exact blankRight c member
      · rw [List.mem_singleton.mp member]
        rfl
    conv_rhs => rw [← returned, whole, List.append_assoc, List.append_assoc,
      trimChars_between blankLeft blankReturned (isTrimmed_trimChars _)]
  · rfl

end Trimming

/-- The lines of a text, trimmed and without those that are empty then, are what is left of the pieces between line
feeds. -/
theorem filter_trim_lines (text : String) :
    ((lines text).map trim).filter (fun line => !line.isEmpty) =
      (((splitChars '\n' text.toList).map trimChars).filter (fun line => !line.isEmpty)).map .ofList := by
  have pieces : splitChars '\n' text.toList =
      (splitChars '\n' text.toList).dropLast ++ [(splitChars '\n' text.toList).getLast?.getD []] := by
    have nonempty : splitChars '\n' text.toList ≠ [] := by
      rw [splitChars_eq_splitOn]
      exact List.splitOn_ne_nil _ _
    rw [List.getLast?_eq_some_getLast nonempty, Option.getD_some, List.dropLast_concat_getLast nonempty]
  have kept : ((lineChars text.toList).map trimChars).filter (fun line => !line.isEmpty) =
      ((splitChars '\n' text.toList).map trimChars).filter (fun line => !line.isEmpty) := by
    conv_rhs => rw [pieces]
    simp only [lineChars, List.map_append, List.filter_append, List.map_map, Function.comp_def, trimChars_dropReturn]
    congr 1
    split
    · next empty =>
      rw [List.isEmpty_iff.mp empty]
      rfl
    · rfl
  have trimmed : (lines text).map trim = ((lineChars text.toList).map trimChars).map .ofList := by
    simp only [lines, List.map_map, List.map_inj_left, Function.comp_apply]
    intro line _
    rw [trim, String.toList_ofList]
  have isEmpty : ∀ line : List Char, (String.ofList line).isEmpty = line.isEmpty := by
    intro line
    rw [Bool.eq_iff_iff, String.isEmpty_iff, List.isEmpty_iff, ← String.toList_inj, String.toList_ofList]
    rfl
  rw [trimmed, List.filter_map, ← kept]
  simp only [Function.comp_def, isEmpty]

end LtiPlatform.Text
