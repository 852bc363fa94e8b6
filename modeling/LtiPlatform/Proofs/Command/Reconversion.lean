import LtiPlatform.Command.Run
import LtiPlatform.Proofs.Json.Parsed

namespace LtiPlatform

open Json (HoldsRegular)

namespace ContentItem

section Depth

variable {fits : JsonNumber → Prop} {depth : Nat} {item : OrderedMap Json} {value : Json}

theorem regular_imageWithId (regular : value.Regular fits depth) : (imageWithId value).Regular fits depth := by
  rw [imageWithId]
  split
  · exact regular
  · next members isObject =>
    split
    · exact regular
    · next url address =>
      obtain ⟨inner, rfl, holds⟩ := regular.exists_of_object? isObject
      exact .ofMap ((holds.erase "url").insert "@id" (holds _ _ address))

theorem holdsRegular_dimensions {advice : OrderedMap Json} (holds : HoldsRegular fits depth advice)
    (regular : value.Regular fits depth) : HoldsRegular fits depth (dimensions value advice) :=
  (holds.insertSome "displayWidth" fun _ found => regular.member? found).insertSome "displayHeight" fun _ found =>
    regular.member? found

theorem holdsRegular_placementAdvice? {advice : OrderedMap Json} (holds : HoldsRegular fits depth item)
    (advised : placementAdvice? item = some advice) : HoldsRegular fits depth advice := by
  have named : ∀ target, HoldsRegular fits depth (.ofList [("presentationDocumentTarget", .string target)]) :=
    fun target => HoldsRegular.empty.insert _ (.string target)
  rw [placementAdvice?] at advised
  split at advised
  · next iframe _ found =>
    cases advised
    exact holdsRegular_dimensions (named "iframe") (holds _ _ found)
  · next window _ _ found =>
    cases advised
    have regular := holds _ _ found
    exact holdsRegular_dimensions ((named "window").insertSome _ fun _ found => regular.member? found) regular
  · next presentation _ _ found =>
    cases advised
    have regular := holds _ _ found
    exact holdsRegular_dimensions (HoldsRegular.empty.insertSome _ fun _ found => regular.member? found) regular
  · cases advised

/-- What a member is wrapped in takes no more levels than the value that has the member. -/
theorem regular_of_wrapped {wrap : Json → Json} (regular : value.Regular fits depth)
    (wraps : ∀ {inner held}, held.Regular fits inner → (wrap held).Regular fits (inner + 1)) {name : String}
    {found : Json} (made : (value.member? name).map wrap = some found) : found.Regular fits depth := by
  obtain ⟨held, isHeld, rfl⟩ := Option.map_eq_some_iff.mp made
  obtain ⟨inner, rfl, inside⟩ := regular.exists_of_member? isHeld
  exact wraps inside

/-- The expanded line item is a level deeper than the line item. -/
theorem regular_lineItem (regular : value.Regular fits depth) : (lineItem value).Regular fits (depth + 1) := by
  have member : ∀ name held, value.member? name = some held → held.Regular fits depth :=
    fun _ _ found => regular.member? found
  have activity : ∀ found, ((value.member? "resourceId").map fun id => Json.object [("activityId", id)]) = some found →
      found.Regular fits depth :=
    fun _ => regular_of_wrapped regular fun inside => .object (by simp [Entries.keys]) (by simpa using inside)
  have constraints : ∀ found, ((value.member? "scoreMaximum").map fun maximum =>
      Json.object [("@type", .string "NumericLimits"), ("totalMaximum", maximum)]) = some found →
      found.Regular fits depth :=
    fun _ => regular_of_wrapped regular fun inside => .object (by simp [Entries.keys])
      (by simpa using ⟨.string _, inside⟩)
  have fixed : HoldsRegular fits depth
      (.ofList [("@type", .string "LineItem"), ("reportingMethod", .string totalScore)]) :=
    (HoldsRegular.empty.insert _ (.string _)).insert _ (.string _)
  have named := (fixed.insertSome "label" (member "label")).insertSome "tag" (member "tag")
  have limited := (named.insertSome "assignedActivity" activity).insertSome "scoreConstraints" constraints
  exact .ofMap (limited.insertSome "submissionReview" (member "submissionReview"))

theorem holdsRegular_updateMember (name : String) {change : Json → Json} (holds : HoldsRegular fits depth item)
    (keeps : ∀ value : Json, value.Regular fits depth → (change value).Regular fits depth) :
    HoldsRegular fits depth (updateMember item name change) := by
  refine holds.insertSome name fun changed made => ?_
  obtain ⟨value, found, rfl⟩ := Option.map_eq_some_iff.mp made
  exact keeps value (holds name value found)

/-- The members of a legacy item are at most one level deeper. -/
theorem holdsRegular_legacyMembers (holds : HoldsRegular fits depth item) :
    HoldsRegular fits (depth + 1) (legacyMembers item) := by
  have texts : ∀ (text? : Option String) (value : Json), text?.map Json.string = some value →
      value.Regular fits depth := by
    intro text? value made
    obtain ⟨text, _, rfl⟩ := Option.map_eq_some_iff.mp made
    exact .string text
  have advised : ∀ advice, (placementAdvice? item).map Json.ofMap = some advice → advice.Regular fits (depth + 1) := by
    intro advice made
    obtain ⟨members, found, rfl⟩ := Option.map_eq_some_iff.mp made
    exact .ofMap (holdsRegular_placementAdvice? holds found)
  have expanded : ∀ value, (item.get? "lineItem").map lineItem = some value → value.Regular fits (depth + 1) := by
    intro value made
    obtain ⟨source, found, rfl⟩ := Option.map_eq_some_iff.mp made
    exact regular_lineItem (holds _ _ found)
  rw [legacyMembers]
  generalize ((item.get? "type").bind Json.string?).bind legacyType? = kind
  have typed : HoldsRegular fits depth
      (((item.erase "type").insertSome "@type" (kind.map (.string ·.1))).insertSome "mediaType"
        (kind.bind fun found => found.2.map .string)) := by
    refine ((holds.erase "type").insertSome _ fun value made => ?_).insertSome _ fun value made => ?_
    · exact texts (kind.map (·.1)) value (by rwa [Option.map_map])
    · obtain ⟨found, _, made⟩ := Option.bind_eq_some_iff.mp made
      exact texts found.2 value made
  have worded := (typed.erase "html").insertSome "text" fun value found => typed "html" value found
  have bare := ((worded.erase "iframe").erase "window").erase "presentation"
  have placed := (bare.mono (Nat.le_succ depth)).insertSome "placementAdvice" advised
  have pictured := holdsRegular_updateMember "thumbnail"
    (holdsRegular_updateMember "icon" placed fun _ => regular_imageWithId) fun _ => regular_imageWithId
  exact pictured.insertSome "lineItem" expanded

theorem regular_toLegacy (regular : value.Regular fits depth) : (toLegacy value).Regular fits (depth + 1) := by
  rw [toLegacy]
  split
  · exact regular.mono (Nat.le_succ depth)
  · next members isObject =>
    obtain ⟨inner, rfl, holds⟩ := regular.exists_of_object? isObject
    exact .ofMap (holdsRegular_legacyMembers holds)

/-- The graph nests at most two levels deeper than the items, one for itself and one for expanded line items. -/
theorem regular_legacyGraph? {items graph : Json} (regular : items.Regular fits depth)
    (formed : legacyGraph? items = some graph) : graph.Regular fits (depth + 2) := by
  obtain ⟨list, isArray, rfl⟩ := Option.map_eq_some_iff.mp formed
  cases items with
  | array list' =>
    cases isArray
    obtain ⟨inner, rfl, inside⟩ := regular.exists_of_array
    have each : (Json.array (list.map toLegacy)).Regular fits (inner + 2) := by
      refine .array fun legacy member => ?_
      obtain ⟨item, among, rfl⟩ := List.mem_map.mp member
      exact regular_toLegacy (inside item among)
    exact .object (by simp [Entries.keys]) (by simpa using ⟨.string _, each⟩)
  | _ => cases isArray

end Depth

/-- The graph for the items of the text, if they are an array, nests no deeper than can be read. -/
def FitsReader (text : String) : Prop :=
  ∀ items graph, Json.parse? text = some items → legacyGraph? items = some graph → graph.levels ≤ Json.depthLimit

/-- The graph for the items of the text, if they are an array and it nests no deeper than can be read, is read
back from its text. -/
def GraphReadsBack (text : String) : Prop :=
  ∀ items graph, Json.parse? text = some items → legacyGraph? items = some graph →
    graph.levels ≤ Json.depthLimit → Json.parse? graph.compact = some graph

/-- A graph is no array of items. -/
theorem legacyGraph?_graph {items graph : Json} (formed : legacyGraph? items = some graph) :
    legacyGraph? graph = none := by
  obtain ⟨list, _, rfl⟩ := Option.map_eq_some_iff.mp formed
  rfl

section Again

variable {text : String} {items graph : Json}

theorem fitsReader_iff (parsed : Json.parse? text = some items) (formed : legacyGraph? items = some graph) :
    FitsReader text ↔ graph.levels ≤ Json.depthLimit := by
  refine ⟨fun fits => fits items graph parsed formed, fun bound found graph' parsed' formed' => ?_⟩
  cases parsed.symm.trans parsed'
  cases formed.symm.trans formed'
  exact bound

theorem fitsReader_of_noArray (parsed : Json.parse? text = some items) (noArray : legacyGraph? items = none) :
    FitsReader text := by
  intro found graph parsed' formed
  cases parsed.symm.trans parsed'
  cases noArray.symm.trans formed

/-- Items that leave room for two levels always fit. -/
theorem fitsReader_of_flat (parsed : Json.parse? text = some items) (flat : items.levels ≤ 125) :
    FitsReader text := by
  have regular := (Json.regular_of_parse? parsed).mono flat
  intro found graph parsed' formed
  cases parsed.symm.trans parsed'
  exact (regular_legacyGraph? regular formed).nested

theorem legacyText_of_graph (parsed : Json.parse? text = some items) (formed : legacyGraph? items = some graph) :
    legacyText text = .ok graph.compact := by
  simp only [legacyText, parsed, formed]

/-- What is no array stays as it is. -/
theorem again_of_noArray (parsed : Json.parse? text = some items) (noArray : legacyGraph? items = none) :
    legacyText text = .ok text ∧ legacyJson text = .ok items := by
  constructor
  · simp only [legacyText, parsed, noArray]
  · simp only [legacyJson, legacyText, parsed, noArray]

/-- The text of a graph is read as the graph and stays as it is. -/
theorem again_of_fits (back : GraphReadsBack text) (parsed : Json.parse? text = some items)
    (formed : legacyGraph? items = some graph) (fits : graph.levels ≤ Json.depthLimit) :
    legacyText graph.compact = .ok graph.compact ∧ legacyJson text = .ok graph := by
  have parsed' := back items graph parsed formed fits
  constructor
  · simp only [legacyText, parsed', legacyGraph?_graph formed]
  · simp only [legacyJson, legacyText, parsed, formed, parsed']

/-- Where the graph nests too deep, its text is no longer read. -/
theorem again_of_deep (parsed : Json.parse? text = some items) (formed : legacyGraph? items = some graph)
    (deep : Json.depthLimit < graph.levels) :
    legacyText graph.compact = .error .malformed ∧ legacyJson text = .error .json := by
  have unread := Json.parse?_compact_eq_none deep
  constructor
  · simp only [legacyText, unread]
  · simp only [legacyJson, legacyText, parsed, formed, unread]

/-- A text that was converted comes back unchanged when it is converted again, and the command that reads it again
succeeds, exactly if the graph of its items can be read. This is so for every text without an array, and for every text
of at most 125 levels. Otherwise the conversion refuses the text that it gave, and the command fails. -/
theorem legacyText_again (back : GraphReadsBack text) {converted : String}
    (converts : legacyText text = .ok converted) :
    (legacyText converted = .ok converted ↔ FitsReader text) ∧
    ((∃ json, legacyJson text = .ok json) ↔ FitsReader text) ∧
    (¬ FitsReader text → legacyText converted = .error .malformed ∧ legacyJson text = .error .json) ∧
    ∀ items, Json.parse? text = some items → legacyGraph? items = none ∨ items.levels ≤ 125 → FitsReader text := by
  have always : ∀ items, Json.parse? text = some items → legacyGraph? items = none ∨ items.levels ≤ 125 →
      FitsReader text := fun items parsed small =>
    small.elim (fitsReader_of_noArray parsed) (fitsReader_of_flat parsed)
  cases parsed : Json.parse? text with
  | none =>
    simp only [legacyText, parsed] at converts
    cases converts
  | some items =>
    rw [parsed] at always
    cases formed : legacyGraph? items with
    | none =>
      have fits := fitsReader_of_noArray parsed formed
      obtain ⟨again, json⟩ := again_of_noArray parsed formed
      cases converts.symm.trans again
      exact ⟨iff_of_true again fits, iff_of_true ⟨_, json⟩ fits, fun deep => absurd fits deep, always⟩
    | some graph =>
      cases converts.symm.trans (legacyText_of_graph parsed formed)
      by_cases fits : FitsReader text
      · obtain ⟨again, json⟩ := again_of_fits back parsed formed ((fitsReader_iff parsed formed).mp fits)
        exact ⟨iff_of_true again fits, iff_of_true ⟨_, json⟩ fits, fun deep => absurd fits deep, always⟩
      · have deep := Nat.lt_of_not_le (mt (fitsReader_iff parsed formed).mpr fits)
        obtain ⟨again, json⟩ := again_of_deep parsed formed deep
        refine ⟨iff_of_false ?_ fits, iff_of_false ?_ fits, fun _ => ⟨again, json⟩, always⟩
        · rw [again]
          exact fun same => by cases same
        · rw [json]
          exact fun ⟨_, same⟩ => by cases same

theorem seven_again : ∃ converted, legacyText "[7]" = .ok converted ∧ legacyText converted = .ok converted ∧
    ∃ json, legacyJson "[7]" = .ok json := by
  have parsed : Json.parse? "[7]" = some (.array [.ofInt 7]) := by rfl
  have formed : legacyGraph? (.array [.ofInt 7]) = some (.object
      [("@context", .string graphContext), ("@graph", .array [.ofInt 7])]) := rfl
  have converts := legacyText_of_graph parsed formed
  have back : GraphReadsBack "[7]" := by
    intro items graph parsed' formed' _
    cases parsed.symm.trans parsed'
    cases formed.symm.trans formed'
    have portable : (Json.array [.ofInt 7]).Portable 1 := .array (List.forall_mem_singleton.mpr (.ofInt (by decide)))
    exact Json.parse?_compact (regular_legacyGraph? portable formed) (by decide) (by decide)
  obtain ⟨again, json, _, always⟩ := legacyText_again back converts
  have fits := always _ parsed (.inr (by decide))
  exact ⟨_, converts, again.mpr fits, json.mpr fits⟩

/-- Arrays one in the other. -/
def nested : Nat → Json
  | 0 => .array []
  | depth + 1 => .array [nested depth]

@[simp]
theorem levels_nested (depth : Nat) : (nested depth).levels = depth + 1 := by
  induction depth with
  | zero => rfl
  | succ depth ih => simp [nested, Json.levels, Json.levelsOfItems, ih]

theorem portable_nested (depth : Nat) : (nested depth).Portable (depth + 1) := by
  induction depth with
  | zero => exact .array (List.forall_mem_nil _)
  | succ depth ih => exact .array fun item member => List.mem_singleton.mp member ▸ ih

theorem isPlain_nested (depth : Nat) : (nested depth).isPlain := by
  induction depth with
  | zero => rfl
  | succ depth ih => exact Json.isPlain_array_iff.mpr (List.forall_mem_singleton.mpr ih)

/-- A text of as many levels as can be read is converted to one that cannot. -/
theorem nested_refused_again :
    ∃ converted, legacyText (nested 126).compact = .ok converted ∧ legacyText converted = .error .malformed ∧
      legacyJson (nested 126).compact = .error .json := by
  have parsed : Json.parse? (nested 126).compact = some (nested 126) :=
    Json.parse?_compact (portable_nested 126) (isPlain_nested 126) (by rw [levels_nested]; decide)
  have formed : legacyGraph? (nested 126) = some (.object
      [("@context", .string graphContext), ("@graph", .array [nested 125])]) := rfl
  have deep : Json.depthLimit < (Json.object
      [("@context", .string graphContext), ("@graph", .array [nested 125])]).levels := by
    simp only [Json.levels, Json.levelsOfMembers, Json.levelsOfItems, levels_nested]
    decide
  exact ⟨_, legacyText_of_graph parsed formed, again_of_deep parsed formed deep⟩

end Again

end ContentItem

end LtiPlatform
