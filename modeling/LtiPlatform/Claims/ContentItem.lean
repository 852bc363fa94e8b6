import LtiPlatform.Json.Parser
import LtiPlatform.Json.Printer

namespace LtiPlatform

inductive ContentItemError where
  | malformed
deriving DecidableEq, Repr

namespace ContentItem

def graphContext : String := "http://purl.imsglobal.org/ctx/lti/v1/ContentItem"

def linkMediaType : String := "application/vnd.ims.lti.v1.ltilink"

def totalScore : String := "http://purl.imsglobal.org/ctx/lis/v2p1/Result#totalScore"

/-- The legacy type of an item and the media type that goes with it. -/
def legacyType? : String → Option (String × Option String)
  | "ltiResourceLink" => some ("LtiLinkItem", some linkMediaType)
  | "resource-link" => some ("LtiLinkItem", some linkMediaType)
  | "link" => some ("ContentItem", some "text/html")
  | "html" => some ("ContentItem", some "text/html")
  | "rich" => some ("ContentItem", some "text/html")
  | "file" => some ("FileItem", none)
  | _ => none

def dimensions (source : Json) (advice : OrderedMap Json) : OrderedMap Json :=
  (advice.insertSome "displayWidth" (source.member? "width")).insertSome
    "displayHeight" (source.member? "height")

/-- Advice on where to show the item, from the first of `iframe`, `window` and `presentation`. -/
def placementAdvice? (item : OrderedMap Json) : Option (OrderedMap Json) :=
  match item.get? "iframe", item.get? "window", item.get? "presentation" with
  | some iframe, _, _ =>
    some (dimensions iframe (.ofList [("presentationDocumentTarget", .string "iframe")]))
  | none, some window, _ =>
    let named := OrderedMap.ofList [("presentationDocumentTarget", .string "window")]
    some (dimensions window (named.insertSome "windowTarget" (window.member? "targetName")))
  | none, none, some presentation =>
    let named := (∅ : OrderedMap Json).insertSome "presentationDocumentTarget"
      (presentation.member? "documentTarget")
    some (dimensions presentation named)
  | none, none, none => none

/-- The identity of an image is its address. -/
def imageWithId (image : Json) : Json :=
  match image.object? with
  | none => image
  | some members =>
    match members.get? "url" with
    | none => image
    | some url => .ofMap ((members.erase "url").insert "@id" url)

def updateMember (members : OrderedMap Json) (name : String) (f : Json → Json) : OrderedMap Json :=
  members.insertSome name ((members.get? name).map f)

def lineItem (source : Json) : Json :=
  let fixed := OrderedMap.ofList
    [("@type", .string "LineItem"), ("reportingMethod", .string totalScore)]
  let named := (fixed.insertSome "label" (source.member? "label")).insertSome
    "tag" (source.member? "tag")
  let assigned := named.insertSome "assignedActivity" <|
    (source.member? "resourceId").map fun id => .object [("activityId", id)]
  let limited := assigned.insertSome "scoreConstraints" <|
    (source.member? "scoreMaximum").map fun maximum =>
      .object [("@type", .string "NumericLimits"), ("totalMaximum", maximum)]
  .ofMap (limited.insertSome "submissionReview" (source.member? "submissionReview"))

/-- Renames the members that the legacy form spells otherwise and keeps all others. -/
def legacyMembers (item : OrderedMap Json) : OrderedMap Json :=
  let kind := ((item.get? "type").bind Json.string?).bind legacyType?
  let typed := ((item.erase "type").insertSome "@type" (kind.map (.string ·.1))).insertSome
    "mediaType" (kind.bind fun found => found.2.map .string)
  let worded := (typed.erase "html").insertSome "text" (typed.get? "html")
  let bare := ((worded.erase "iframe").erase "window").erase "presentation"
  let placed := bare.insertSome "placementAdvice" ((placementAdvice? item).map .ofMap)
  let pictured := updateMember (updateMember placed "icon" imageWithId) "thumbnail" imageWithId
  pictured.insertSome "lineItem" ((item.get? "lineItem").map lineItem)

/-- What is not an object stays as it is. -/
def toLegacy (item : Json) : Json :=
  match item.object? with
  | none => item
  | some members => .ofMap (legacyMembers members)

/-- The graph of an array of items. -/
def legacyGraph? (items : Json) : Option Json :=
  items.array?.map fun items =>
    .object [("@context", .string graphContext), ("@graph", .array (items.map toLegacy))]

/-- The graph's text for the text of an array; other JSON is returned as it was written. -/
def legacyText (text : String) : Except ContentItemError String :=
  match Json.parse? text with
  | none => .error .malformed
  | some items =>
    match legacyGraph? items with
    | none => .ok text
    | some graph => .ok graph.compact

end ContentItem

end LtiPlatform
