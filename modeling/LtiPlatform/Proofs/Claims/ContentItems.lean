import LtiPlatform.Proofs.Claims.Slot

namespace LtiPlatform

namespace OrderedMap

variable {α : Type} {map other : OrderedMap α} {table : Entries (Option α)} {name : String}

/-- The map has what the table says under its names, and nothing else. -/
def Holds (map : OrderedMap α) (table : Entries (Option α)) : Prop :=
  ∀ name, map.get? name = (Entries.get? table name).join

theorem Holds.insertSome (holds : map.Holds table) (fresh : name ∉ table.keys) (value? : Option α) :
    (map.insertSome name value?).Holds (table ++ [(name, value?)]) := by
  intro found
  rw [get?_insertSome, Entries.get?_append, Entries.get?_cons, Entries.get?_nil, holds found]
  split
  · next same =>
    rw [← same, Entries.get?_eq_none_iff.mpr fresh]
    exact Option.or_none
  · rw [Option.or_none]

/-- The values of the table that are there, set in turn. -/
def present (table : Entries (Option α)) : OrderedMap α :=
  table.foldl (fun map entry => map.insertSome entry.1 entry.2) ∅

theorem holds_of_present (distinct : table.keys.Nodup) (same : map = present table) : map.Holds table := by
  have step : ∀ (later done : Entries (Option α)) (map : OrderedMap α), map.Holds done →
      (Entries.keys (done ++ later)).Nodup →
      (later.foldl (fun map entry => map.insertSome entry.1 entry.2) map).Holds (done ++ later) := by
    intro later
    induction later with
    | nil =>
      intro done map holds _
      rwa [List.append_nil]
    | cons entry later ih =>
      intro done map holds distinct
      obtain ⟨name, value?⟩ := entry
      have fresh : name ∉ done.keys := by
        intro known
        rw [Entries.keys, List.map_append, List.nodup_append] at distinct
        exact distinct.2.2 _ known _ (List.mem_cons_self ..) rfl
      have built := ih (done ++ [(name, value?)]) _ (holds.insertSome fresh value?) (by rwa [List.append_assoc])
      rwa [List.append_assoc] at built
  rw [same]
  exact step table [] ∅ (fun _ => rfl) distinct

end OrderedMap

namespace ContentItem

/-- The types of items that the legacy form knows. -/
def typeNames : List String := ["ltiResourceLink", "resource-link", "link", "html", "rich", "file"]

/-- The legacy type of an item with its media type. Items of an unknown type keep what they have of both, and so do
files with their media type. -/
inductive IsTyped (item : OrderedMap Json) : Option Json → Option Json → Prop
  | link {name : String} (known : name ∈ ["ltiResourceLink", "resource-link"])
    (named : item.get? "type" = some (.string name)) :
    IsTyped item (some (.string "LtiLinkItem")) (some (.string "application/vnd.ims.lti.v1.ltilink"))
  | page {name : String} (known : name ∈ ["link", "html", "rich"])
    (named : item.get? "type" = some (.string name)) :
    IsTyped item (some (.string "ContentItem")) (some (.string "text/html"))
  | file (named : item.get? "type" = some (.string "file")) :
    IsTyped item (some (.string "FileItem")) (item.get? "mediaType")
  | unknown (unnamed : ∀ name ∈ typeNames, item.get? "type" ≠ some (.string name)) :
    IsTyped item (item.get? "@type") (item.get? "mediaType")

/-- Advice on where to show an item comes from the first of three members that is there, and from that one alone. -/
inductive IsAdvised (item : OrderedMap Json) : Option Json → Prop
  | iframe {source : Json} {advice : OrderedMap Json} (found : item.get? "iframe" = some source)
    (holds : advice.Holds [("presentationDocumentTarget", some (.string "iframe")),
      ("displayWidth", source.member? "width"), ("displayHeight", source.member? "height")]) :
    IsAdvised item (some (.ofMap advice))
  | window {source : Json} {advice : OrderedMap Json} (noFrame : item.get? "iframe" = none)
    (found : item.get? "window" = some source)
    (holds : advice.Holds [("presentationDocumentTarget", some (.string "window")),
      ("windowTarget", source.member? "targetName"),
      ("displayWidth", source.member? "width"), ("displayHeight", source.member? "height")]) :
    IsAdvised item (some (.ofMap advice))
  | presentation {source : Json} {advice : OrderedMap Json} (noFrame : item.get? "iframe" = none)
    (noWindow : item.get? "window" = none) (found : item.get? "presentation" = some source)
    (holds : advice.Holds [("presentationDocumentTarget", source.member? "documentTarget"),
      ("displayWidth", source.member? "width"), ("displayHeight", source.member? "height")]) :
    IsAdvised item (some (.ofMap advice))
  | own (noSource : ∀ name ∈ ["iframe", "window", "presentation"], item.get? name = none) :
    IsAdvised item (item.get? "placementAdvice")

/-- An image with an address has it as its identity. -/
inductive IsImage : Json → Json → Prop
  | unchanged {image : Json} (noAddress : image.member? "url" = none) : IsImage image image
  | identified {image url : Json} {members : OrderedMap Json} (address : image.member? "url" = some url)
    (each : ∀ name, members.get? name =
      if name = "url" then none else if name = "@id" then some url else image.member? name) :
    IsImage image (.ofMap members)

/-- A line item written out, with those of its values that are there. -/
inductive IsLineItem (source : Json) : Json → Prop
  | mk {members : OrderedMap Json}
    (holds : members.Holds [("@type", some (.string "LineItem")),
      ("reportingMethod", some (.string "http://purl.imsglobal.org/ctx/lis/v2p1/Result#totalScore")),
      ("label", source.member? "label"), ("tag", source.member? "tag"),
      ("assignedActivity", (source.member? "resourceId").map fun id => .object [("activityId", id)]),
      ("scoreConstraints", (source.member? "scoreMaximum").map fun maximum =>
        .object [("@type", .string "NumericLimits"), ("totalMaximum", maximum)]),
      ("submissionReview", source.member? "submissionReview")]) : IsLineItem source (.ofMap members)

/-- The members that the legacy form has no place for. -/
def droppedNames : List String := ["type", "html", "iframe", "window", "presentation"]

/-- The members that the legacy form may have from others. -/
def formedNames : List String :=
  ["@type", "mediaType", "text", "placementAdvice", "icon", "thumbnail", "lineItem"]

/-- What the legacy form of an item has under each name. -/
structure IsLegacyOf (item legacy : OrderedMap Json) : Prop where
  dropped : ∀ name ∈ droppedNames, legacy.get? name = none
  typed : IsTyped item (legacy.get? "@type") (legacy.get? "mediaType")
  text : legacy.get? "text" = (item.get? "html").or (item.get? "text")
  advised : IsAdvised item (legacy.get? "placementAdvice")
  images : ∀ name ∈ ["icon", "thumbnail"], Option.Rel IsImage (item.get? name) (legacy.get? name)
  lineItem : Option.Rel IsLineItem (item.get? "lineItem") (legacy.get? "lineItem")
  other : ∀ name ∉ droppedNames ++ formedNames, legacy.get? name = item.get? name

/-- Only objects have a legacy form of their own. -/
inductive IsLegacy : Json → Json → Prop
  | plain {item : Json} (noObject : item.object? = none) : IsLegacy item item
  | object {item : Json} {members legacy : OrderedMap Json} (isObject : item.object? = some members)
    (formed : IsLegacyOf members legacy) : IsLegacy item (.ofMap legacy)

variable {item : OrderedMap Json} {name : String}

theorem get?_updateMember {members : OrderedMap Json} {other : String} {change : Json → Json} :
    (updateMember members other change).get? name =
      if other = name then (members.get? name).map change else members.get? name := by
  rw [updateMember, OrderedMap.get?_insertSome]
  split
  · next same =>
    rw [same]
    cases members.get? name <;> rfl
  · rfl

theorem isImage_imageWithId (image : Json) : IsImage image (imageWithId image) := by
  rw [imageWithId]
  cases isObject : image.object? with
  | none => exact .unchanged (by rw [Json.member?, isObject]; rfl)
  | some members =>
    have member : ∀ name, image.member? name = members.get? name := fun name => by
      rw [Json.member?, isObject, Option.bind_some]
    cases address : members.get? "url" with
    | none =>
      simp only [address]
      exact .unchanged (by rw [member, address])
    | some url =>
      simp only [address]
      refine .identified (by rw [member, address]) fun name => ?_
      rw [OrderedMap.get?_insert, OrderedMap.get?_erase, member]
      by_cases id : name = "@id"
      · simp [id]
      · by_cases url : name = "url"
        · simp [url]
        · simp [id, url, Ne.symm id, Ne.symm url]

theorem isAdvised_placementAdvice? (item : OrderedMap Json) :
    IsAdvised item (((placementAdvice? item).map .ofMap).or (item.get? "placementAdvice")) := by
  cases iframe : item.get? "iframe" with
  | some source =>
    simp only [placementAdvice?, iframe]
    exact .iframe iframe (OrderedMap.holds_of_present (by simp [Entries.keys]) rfl)
  | none =>
    cases window : item.get? "window" with
    | some source =>
      simp only [placementAdvice?, iframe, window]
      exact .window iframe window (OrderedMap.holds_of_present (by simp [Entries.keys]) rfl)
    | none =>
      cases presentation : item.get? "presentation" with
      | some source =>
        simp only [placementAdvice?, iframe, window, presentation]
        exact .presentation iframe window presentation (OrderedMap.holds_of_present (by simp [Entries.keys]) rfl)
      | none =>
        simp only [placementAdvice?, iframe, window, presentation, Option.map_none, Option.none_or]
        exact .own (by simp [iframe, window, presentation])

theorem isLineItem_lineItem (source : Json) : IsLineItem source (lineItem source) :=
  .mk (OrderedMap.holds_of_present (by simp [Entries.keys]) rfl)

theorem legacyType?_eq_none (unknown : name ∉ typeNames) : legacyType? name = none := by
  unfold legacyType?
  split
  all_goals first
    | rfl
    | exact absurd (by decide) unknown

theorem isTyped_legacyType? (item : OrderedMap Json) :
    IsTyped item
      (((((item.get? "type").bind Json.string?).bind legacyType?).map (.string ·.1)).or (item.get? "@type"))
      (((((item.get? "type").bind Json.string?).bind legacyType?).bind fun found => found.2.map .string).or
        (item.get? "mediaType")) := by
  by_cases known : ∃ name ∈ typeNames, item.get? "type" = some (.string name)
  · obtain ⟨name, member, named⟩ := known
    simp only [typeNames, List.mem_cons, List.not_mem_nil, or_false] at member
    rw [named]
    rcases member with rfl | rfl | rfl | rfl | rfl | rfl
    · exact .link (by decide) named
    · exact .link (by decide) named
    · exact .page (by decide) named
    · exact .page (by decide) named
    · exact .page (by decide) named
    · exact .file named
  · have unknown : ((item.get? "type").bind Json.string?).bind legacyType? = none := by
      cases type : item.get? "type" with
      | none => rfl
      | some value =>
        cases value with
        | string name => exact legacyType?_eq_none fun member => known ⟨name, member, type⟩
        | _ => rfl
    rw [unknown]
    exact .unknown fun name member named => known ⟨name, member, named⟩

theorem isLegacyOf_legacyMembers (item : OrderedMap Json) : IsLegacyOf item (legacyMembers item) where
  dropped := by
    simp [droppedNames, legacyMembers, get?_updateMember, OrderedMap.get?_insertSome, OrderedMap.get?_erase]
  typed := by
    have typed := isTyped_legacyType? item
    simpa [legacyMembers, get?_updateMember, OrderedMap.get?_insertSome, OrderedMap.get?_erase] using typed
  text := by
    simp [legacyMembers, get?_updateMember, OrderedMap.get?_insertSome, OrderedMap.get?_erase]
  advised := by
    have advised := isAdvised_placementAdvice? item
    simpa [legacyMembers, get?_updateMember, OrderedMap.get?_insertSome, OrderedMap.get?_erase] using advised
  images := by
    have each : ∀ image? : Option Json, Option.Rel IsImage image? (image?.map imageWithId) := by
      intro image?
      cases image? with
      | none => exact .none
      | some image => exact .some (isImage_imageWithId image)
    simpa [legacyMembers, get?_updateMember, OrderedMap.get?_insertSome, OrderedMap.get?_erase] using
      ⟨each (item.get? "icon"), each (item.get? "thumbnail")⟩
  lineItem := by
    have each : ∀ source? : Option Json, Option.Rel IsLineItem source? ((source?.map lineItem).or source?) := by
      intro source?
      cases source? with
      | none => exact .none
      | some source => exact .some (isLineItem_lineItem source)
    simpa [legacyMembers, get?_updateMember, OrderedMap.get?_insertSome, OrderedMap.get?_erase] using
      each (item.get? "lineItem")
  other := by
    intro name other
    simp only [droppedNames, formedNames, List.cons_append, List.nil_append, List.mem_cons, List.not_mem_nil,
      or_false, not_or] at other
    simp only [legacyMembers, get?_updateMember, OrderedMap.get?_insertSome, OrderedMap.get?_erase]
    simp [Ne.symm, other]

section Unique

variable {left right : OrderedMap Json}

theorem IsTyped.unique {type type' media media' : Option Json} (typed : IsTyped item type media)
    (typed' : IsTyped item type' media') : type = type' ∧ media = media' := by
  cases typed <;> cases typed' <;> grind [typeNames]

theorem same_of_get? (each : ∀ name, Option.Rel Json.Same (left.get? name) (right.get? name)) :
    Json.Same (.ofMap left) (.ofMap right) :=
  .of_object? (Json.object?_ofMap _) (Json.object?_ofMap _) each

theorem same_of_holds {table : Entries (Option Json)} (holds : left.Holds table) (holds' : right.Holds table) :
    Json.Same (.ofMap left) (.ofMap right) := by
  refine same_of_get? fun name => ?_
  rw [holds name, holds' name]
  exact Json.Same.rel_refl _

theorem IsAdvised.unique {advice advice' : Option Json} (advised : IsAdvised item advice)
    (advised' : IsAdvised item advice') : Option.Rel Json.Same advice advice' := by
  cases advised with
  | iframe found holds =>
    cases advised' with
    | iframe found' holds' =>
      cases found.symm.trans found'
      exact .some (same_of_holds holds holds')
    | window noFrame | presentation noFrame => cases found.symm.trans noFrame
    | own noSource => cases found.symm.trans (noSource "iframe" (by decide))
  | window noFrame found holds =>
    cases advised' with
    | iframe found' => cases noFrame.symm.trans found'
    | window _ found' holds' =>
      cases found.symm.trans found'
      exact .some (same_of_holds holds holds')
    | presentation _ noWindow => cases found.symm.trans noWindow
    | own noSource => cases found.symm.trans (noSource "window" (by decide))
  | presentation noFrame noWindow found holds =>
    cases advised' with
    | iframe found' => cases noFrame.symm.trans found'
    | window _ found' => cases noWindow.symm.trans found'
    | presentation _ _ found' holds' =>
      cases found.symm.trans found'
      exact .some (same_of_holds holds holds')
    | own noSource => cases found.symm.trans (noSource "presentation" (by decide))
  | own noSource =>
    cases advised' with
    | iframe found => cases found.symm.trans (noSource "iframe" (by decide))
    | window _ found => cases found.symm.trans (noSource "window" (by decide))
    | presentation _ _ found => cases found.symm.trans (noSource "presentation" (by decide))
    | own => exact Json.Same.rel_refl _

theorem IsImage.unique {image legacy legacy' : Json} (formed : IsImage image legacy) (formed' : IsImage image legacy') :
    Json.Same legacy legacy' := by
  cases formed with
  | unchanged noAddress =>
    cases formed' with
    | unchanged => exact .refl _
    | identified address => cases noAddress.symm.trans address
  | identified address each =>
    cases formed' with
    | unchanged noAddress => cases noAddress.symm.trans address
    | identified address' each' =>
      cases address.symm.trans address'
      refine same_of_get? fun name => ?_
      rw [each, each']
      exact Json.Same.rel_refl _

theorem IsLineItem.unique {source legacy legacy' : Json} (formed : IsLineItem source legacy)
    (formed' : IsLineItem source legacy') : Json.Same legacy legacy' := by
  cases formed with
  | mk holds =>
    cases formed' with
    | mk holds' => exact same_of_holds holds holds'

theorem rel_unique {formed : Json → Json → Prop} {source? legacy? legacy'? : Option Json}
    (rel : Option.Rel formed source? legacy?) (rel' : Option.Rel formed source? legacy'?)
    (unique : ∀ source legacy legacy', formed source legacy → formed source legacy' → Json.Same legacy legacy') :
    Option.Rel Json.Same legacy? legacy'? := by
  cases rel with
  | none =>
    cases rel'
    exact .none
  | some held =>
    cases rel' with
    | some held' => exact .some (unique _ _ _ held held')

/-- But for the order of its members, an item has one legacy form. -/
theorem IsLegacyOf.unique (formed : IsLegacyOf item left) (formed' : IsLegacyOf item right) :
    Json.Same (.ofMap left) (.ofMap right) := by
  refine same_of_get? fun name => ?_
  have refl : ∀ {value? value'? : Option Json}, value? = value'? → Option.Rel Json.Same value? value'? := by
    rintro value? _ rfl
    exact Json.Same.rel_refl _
  by_cases dropped : name ∈ droppedNames
  · exact refl ((formed.dropped name dropped).trans (formed'.dropped name dropped).symm)
  by_cases known : name ∈ formedNames
  · simp only [formedNames, List.mem_cons, List.not_mem_nil, or_false] at known
    rcases known with rfl | rfl | rfl | rfl | rfl | rfl | rfl
    · exact refl (formed.typed.unique formed'.typed).1
    · exact refl (formed.typed.unique formed'.typed).2
    · exact refl (formed.text.trans formed'.text.symm)
    · exact formed.advised.unique formed'.advised
    · exact rel_unique (formed.images "icon" (by decide)) (formed'.images "icon" (by decide))
        fun _ _ _ => IsImage.unique
    · exact rel_unique (formed.images "thumbnail" (by decide)) (formed'.images "thumbnail" (by decide))
        fun _ _ _ => IsImage.unique
    · exact rel_unique formed.lineItem formed'.lineItem fun _ _ _ => IsLineItem.unique
  · have other : name ∉ droppedNames ++ formedNames := by simp [dropped, known]
    exact refl ((formed.other name other).trans (formed'.other name other).symm)

theorem IsLegacy.unique {source legacy legacy' : Json} (formed : IsLegacy source legacy)
    (formed' : IsLegacy source legacy') : Json.Same legacy legacy' := by
  cases formed with
  | plain noObject =>
    cases formed' with
    | plain => exact .refl _
    | object isObject => cases noObject.symm.trans isObject
  | object isObject formed =>
    cases formed' with
    | plain noObject => cases noObject.symm.trans isObject
    | object isObject' formed' =>
      cases isObject.symm.trans isObject'
      exact formed.unique formed'

end Unique

theorem isLegacy_toLegacy (item : Json) : IsLegacy item (toLegacy item) := by
  rw [toLegacy]
  cases isObject : item.object? with
  | none => exact .plain isObject
  | some members => exact .object isObject (isLegacyOf_legacyMembers members)

/-- The page goes before the text and the frame before the window. -/
example :
    toLegacy (.object [("type", .string "link"), ("html", .string "<b>"), ("window", .object []),
      ("iframe", .object [("width", .ofInt 300)]), ("text", .string "B"), ("url", .string "/b")]) =
    .object [("url", .string "/b"), ("mediaType", .string "text/html"), ("text", .string "<b>"),
      ("@type", .string "ContentItem"), ("placementAdvice", .object
        [("presentationDocumentTarget", .string "iframe"), ("displayWidth", .ofInt 300)])] := by
  rfl

/-- The graph of items that are in their legacy form. -/
def graph (items : List Json) : Json :=
  .object [("@context", .string "http://purl.imsglobal.org/ctx/lti/v1/ContentItem"), ("@graph", .array items)]

/-- The items of a graph are the legacy forms of the items of the array, in their order, and there are no others that
are not the same. The text for the text of an array and the parameter for the claim are both the text of that graph. -/
theorem legacyGraph_item_by_item (items : List Json) :
    ∃ converted, List.Forall₂ IsLegacy items converted ∧
      (∀ others, List.Forall₂ IsLegacy items others → List.Forall₂ Json.Same converted others) ∧
      legacyGraph? (.array items) = some (graph converted) ∧
      (∀ text, Json.parse? text = some (.array items) → legacyText text = .ok (graph converted).compact) ∧
      ∀ claims : Claims, claims.get? (Rule.claimRoot "dl" ++ "content_items") = some (.array items) →
        (Parameters.ofClaims claims).get? "content_items" = some (graph converted).compact := by
  have formed : legacyGraph? (.array items) = some (graph (items.map toLegacy)) := rfl
  refine ⟨items.map toLegacy, ?_, fun others each => ?_, formed, fun text parsed => ?_, fun claims held => ?_⟩
  · rw [List.forall₂_map_right_iff]
    exact List.forall₂_same.mpr fun item _ => isLegacy_toLegacy item
  · rw [List.forall₂_map_left_iff]
    exact each.imp fun item other legacy => (isLegacy_toLegacy item).unique legacy
  · simp only [legacyText, parsed, formed]
  · have written := Parameters.get?_ofClaims claims .contentItems
    rw [show claims.at? Slot.contentItems.place = some (.array items) from held, Option.bind_some] at written
    exact written

end ContentItem

end LtiPlatform
