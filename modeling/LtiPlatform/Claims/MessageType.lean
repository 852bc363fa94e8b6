namespace LtiPlatform

/-- The messages of a launch, which carry a legacy name and an LTI 1.3 name. -/
inductive MessageType where
  | resourceLink
  | deepLinking
deriving DecidableEq, Repr, Inhabited

namespace MessageType

def legacyName : MessageType → String
  | resourceLink => "basic-lti-launch-request"
  | deepLinking => "ContentItemSelectionRequest"

/-- Message types under both names, the reply of a deep linking tool included. -/
def names : List (String × String) :=
  [(resourceLink.legacyName, "LtiResourceLinkRequest"),
    (deepLinking.legacyName, "LtiDeepLinkingRequest"),
    ("ContentItemSelection", "LtiDeepLinkingResponse")]

/-- Names outside the table stay as they are. -/
def toModern (name : String) : String :=
  ((names.find? (·.1 == name)).map Prod.snd).getD name

def toLegacy (name : String) : String :=
  ((names.find? (·.2 == name)).map Prod.fst).getD name

end MessageType

end LtiPlatform
