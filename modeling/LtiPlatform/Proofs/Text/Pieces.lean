import Mathlib.Data.List.DropRight
import Mathlib.Tactic.Common
import LtiPlatform.Claims.Value

namespace LtiPlatform

namespace Text

variable {text : String} {texts others : List String} {chars : List Char}

theorem splitChars_eq_splitOn (separator : Char) (chars : List Char) :
    splitChars separator chars = chars.splitOn separator := by
  induction chars with
  | nil => rfl
  | cons c rest ih =>
    rw [splitChars, List.splitOn_cons_eq_if_modifyHead]
    by_cases here : c = separator
    · simp [here, ih]
    · rw [if_neg here, if_neg (by simpa using here), ih]
      cases pieces : rest.splitOn separator with
      | nil => exact absurd pieces (List.splitOn_ne_nil _ _)
      | cons piece pieces => rfl

theorem split_joinWith (separator : Char) (free : ∀ text ∈ texts, separator ∉ text.toList)
    (nonempty : texts ≠ []) : split separator (joinWith (String.singleton separator) texts) = texts := by
  rw [split, splitChars_eq_splitOn, joinWith, String.toList_intercalate, String.toList_singleton,
    List.splitOn_intercalate]
  · simp [Function.comp_def]
  · simpa using free
  · simpa using nonempty

theorem not_mem_of_mem_splitChars {separator : Char} {piece : List Char}
    (member : piece ∈ splitChars separator chars) : separator ∉ piece := by
  induction chars generalizing piece with
  | nil =>
    rw [List.mem_singleton.mp member]
    simp
  | cons c rest ih =>
    rw [splitChars] at member
    split at member
    · rcases List.mem_cons.mp member with rfl | later
      · simp
      · exact ih later
    · next other =>
      split at member
      · rw [List.mem_singleton.mp member]
        simpa using Ne.symm other
      · next first later cut =>
        rcases List.mem_cons.mp member with rfl | member
        · have free : separator ∉ first := ih (by rw [cut]; exact List.mem_cons_self ..)
          simpa [Ne.symm other] using free
        · exact ih (by rw [cut]; exact List.mem_cons_of_mem _ member)

theorem not_mem_of_mem_split {separator : Char} {piece : String} (member : piece ∈ split separator text) :
    separator ∉ piece.toList := by
  obtain ⟨chars, cut, rfl⟩ := List.mem_map.mp member
  rw [String.toList_ofList]
  exact not_mem_of_mem_splitChars cut

/-- Neither begins nor ends with white space. -/
def IsTrimmed (chars : List Char) : Prop :=
  (∀ c ∈ chars.head?, isBlank c = false) ∧ ∀ c ∈ chars.getLast?, isBlank c = false

theorem trimChars_eq_rdropWhile (chars : List Char) :
    trimChars chars = (chars.dropWhile isBlank).rdropWhile isBlank := rfl

theorem trimChars_of_isTrimmed (trimmed : IsTrimmed chars) : trimChars chars = chars := by
  have start : chars.dropWhile isBlank = chars := by
    cases chars with
    | nil => rfl
    | cons c rest =>
      have solid := trimmed.1 c rfl
      exact List.dropWhile_cons_of_neg (by simp [solid])
  rw [trimChars_eq_rdropWhile, start, List.rdropWhile_eq_self_iff]
  intro nonempty blank
  rw [trimmed.2 _ (List.getLast?_eq_some_getLast nonempty)] at blank
  cases blank

theorem isTrimmed_trimChars (chars : List Char) : IsTrimmed (trimChars chars) := by
  rw [trimChars_eq_rdropWhile]
  have start := List.head?_dropWhile_not isBlank chars
  generalize chars.dropWhile isBlank = rest at start
  constructor
  · intro c first
    obtain ⟨dropped, split⟩ := List.rdropWhile_prefix isBlank rest
    have firstOfRest : rest.head? = some c := by
      rw [← split, List.head?_append, first, Option.some_or]
    rw [firstOfRest] at start
    exact start
  · intro c last
    have nonempty : rest.rdropWhile isBlank ≠ [] := by
      intro empty
      rw [empty] at last
      cases last
    have solid := List.rdropWhile_last_not isBlank rest nonempty
    rw [List.getLast?_eq_some_getLast nonempty] at last
    cases last
    simpa using solid

theorem mem_of_mem_trimChars {c : Char} (member : c ∈ trimChars chars) : c ∈ chars := by
  rw [trimChars_eq_rdropWhile] at member
  exact (List.dropWhile_sublist _).subset ((List.rdropWhile_prefix _ _).subset member)

theorem sort_perm (texts : List String) : (sort texts).Perm texts := List.mergeSort_perm _ _

theorem sort_sorted (texts : List String) : (sort texts).Pairwise (· ≤ ·) := by
  have trans : ∀ first second third : String,
      decide (first ≤ second) → decide (second ≤ third) → decide (first ≤ third) := by
    intro first second third
    simp only [decide_eq_true_eq]
    exact String.le_trans
  have total : ∀ left right : String, decide (left ≤ right) || decide (right ≤ left) := by
    intro left right
    simpa using String.le_total left right
  exact (List.pairwise_mergeSort trans total texts).imp fun order => of_decide_eq_true order

theorem sort_eq_of_perm (sorted : texts.Pairwise (· ≤ ·)) (perm : others.Perm texts) :
    sort others = texts :=
  ((sort_perm others).trans perm).eq_of_pairwise (fun _ _ _ _ => String.le_antisymm)
    (sort_sorted others) sorted

/-- What can stand in a comma-separated list: not empty, without a comma, and without white space
at its ends. -/
structure IsItem (text : String) : Prop where
  nonempty : text ≠ ""
  noComma : ',' ∉ text.toList
  trimmed : IsTrimmed text.toList

/-- Sorted items, as they come out of a comma-separated list. -/
structure AreItems (texts : List String) : Prop where
  sorted : texts.Pairwise (· ≤ ·)
  each : ∀ text ∈ texts, IsItem text

theorem trim_of_isItem (item : IsItem text) : trim text = text := by
  rw [trim, trimChars_of_isTrimmed item.trimmed, String.ofList_toList]

end Text

variable {texts : List String}

theorem listPieces_areItems (text : String) : Text.AreItems (listPieces text) := by
  refine ⟨Text.sort_sorted _, fun piece member => ?_⟩
  have member := (Text.sort_perm _).subset member
  simp only [List.mem_filter, List.mem_map, Bool.not_eq_eq_eq_not, Bool.not_true,
    String.isEmpty_eq_false_iff] at member
  obtain ⟨⟨whole, cut, rfl⟩, nonempty⟩ := member
  refine ⟨nonempty, ?_, ?_⟩
  · rw [Text.trim, String.toList_ofList]
    exact fun comma => Text.not_mem_of_mem_split cut (Text.mem_of_mem_trimChars comma)
  · rw [Text.trim, String.toList_ofList]
    exact Text.isTrimmed_trimChars _

/-- Items that are joined by commas come back, sorted. -/
theorem listPieces_joinWith (items : ∀ text ∈ texts, Text.IsItem text) :
    listPieces (Text.joinWith "," texts) = Text.sort texts := by
  unfold listPieces
  by_cases empty : texts = []
  · subst empty
    rfl
  · have cut : Text.split ',' (Text.joinWith "," texts) = texts :=
      Text.split_joinWith ',' (fun text member => (items text member).noComma) empty
    have kept : texts.map Text.trim = texts := by
      rw [List.map_congr_left fun text member => Text.trim_of_isItem (items text member), List.map_id']
    rw [cut, kept, List.filter_eq_self.mpr]
    intro text member
    simpa using (items text member).nonempty

end LtiPlatform
