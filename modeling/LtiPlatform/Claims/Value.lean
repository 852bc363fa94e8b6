import LtiPlatform.Claims.Rule
import LtiPlatform.Claims.MessageType
import LtiPlatform.Claims.ContentItem
import LtiPlatform.Vocabulary.Role
import LtiPlatform.Vocabulary.ContextType

namespace LtiPlatform

/-- The pieces of a comma-separated list, without white space around them and without empty ones,
sorted. -/
def listPieces (text : String) : List String :=
  Text.sort (((Text.split ',' text).map Text.trim).filter fun piece => !piece.isEmpty)

/-- What the vocabulary knows of the texts, in its LIS v2 spelling and sorted. -/
def modernSorted (vocabulary : Vocabulary) (texts : List (Option String)) : List String :=
  Text.sort ((vocabulary.toModernAll texts).filterMap id)

/-- Content items are taken over only where they are already an array. -/
def contentItemArray? (text : String) : Option Json :=
  match Json.parse? text with
  | some (.array items) => some (.array items)
  | _ => none

namespace ValueKind

/-- The claim for the text of a parameter. Only content items can have none. -/
def read? (kind : ValueKind) (text : String) : Option Json :=
  match kind with
  | .text => some (.string text)
  | .flag => some (.bool (text == "true"))
  | .list => some (.ofStrings (listPieces text))
  | .roles => some (.ofStrings (modernSorted Role.vocabulary ((listPieces text).map some)))
  | .contextTypes =>
    some (.ofStrings (modernSorted ContextType.vocabulary ((listPieces text).map some)))
  | .messageType => some (.string (MessageType.toModern text))
  | .contentItems => contentItemArray? text

end ValueKind

namespace Json

def scalarText? : Json → Option String
  | string value => some value
  | bool value => some (if value then "true" else "false")
  | number value => some value.toText
  | _ => none

/-- The flat text of a claim: a scalar as it stands, an array of scalars joined by commas with nulls
left out, and anything deeper as JSON. Null has no flat text. -/
def flatText? (value : Json) : Option String :=
  match value with
  | null => none
  | array items =>
    if items.all isScalar then some (Text.joinWith "," (items.filterMap scalarText?))
    else some value.compact
  | object _ => some value.compact
  | scalar => scalar.scalarText?

/-- The entries of a list of strings; a lone string is a list of one. -/
def stringEntries : Json → List (Option String)
  | array items => items.map string?
  | string value => [some value]
  | _ => []

end Json

/-- The legacy spellings of the recognised entries, in their order. -/
def legacyEntries (vocabulary : Vocabulary) (value : Json) : Json :=
  .ofStrings ((vocabulary.toLegacyAll value.stringEntries).filterMap id)

namespace ValueKind

/-- The text of the parameter for a claim, if it has one. -/
def write? (kind : ValueKind) (value : Json) : Option String :=
  match kind with
  | .roles => (legacyEntries Role.vocabulary value).flatText?
  | .contextTypes => (legacyEntries ContextType.vocabulary value).flatText?
  | .messageType =>
    match value with
    | .string name => some (MessageType.toLegacy name)
    | other => other.flatText?
  | .contentItems =>
    match ContentItem.legacyGraph? value with
    | some graph => some graph.compact
    | none => value.flatText?
  | .text | .flag | .list => value.flatText?

end ValueKind

end LtiPlatform
