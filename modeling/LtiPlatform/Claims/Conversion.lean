import LtiPlatform.Claims.Value

namespace LtiPlatform

/-- Flat launch parameters. What has no place among the claims is left out when they are converted, and the other
way round; conversion never fails. -/
abbrev Parameters := OrderedMap String

abbrev Claims := OrderedMap Json

/-- The claims that hold a tool's own parameters and those of platform extensions, as members named
without the prefix. -/
inductive OpenGroup where
  | custom
  | ext
deriving DecidableEq, Repr, Inhabited

namespace OpenGroup

/-- What the parameters of the group begin with. -/
def start : OpenGroup → String
  | custom => "custom_"
  | ext => "ext_"

def claim : OpenGroup → String
  | custom => Rule.claimRoot "" ++ "custom"
  | ext => Rule.claimRoot "" ++ "ext"

def parameter (group : OpenGroup) (name : String) : String := group.start ++ name

def ofClaim? (claim : String) : Option OpenGroup :=
  if claim = custom.claim then some custom else if claim = ext.claim then some ext else none

/-- The nonempty name behind the prefix. -/
def member? (group : OpenGroup) (parameter : String) : Option String :=
  (Text.dropPrefix? group.start parameter).filter fun name => !name.isEmpty

end OpenGroup

namespace Claims

/-- Sets a place. A group claim that is not an object becomes one. -/
def put (claims : Claims) (place : Place) (value : Json) : Claims :=
  match place.member with
  | none => claims.insert place.claim value
  | some name =>
    let members := ((claims.get? place.claim).bind Json.object?).getD ∅
    claims.insert place.claim (.ofMap (members.insert name value))

/-- The value at a place. -/
def at? (claims : Claims) (place : Place) : Option Json :=
  match place.member with
  | none => claims.get? place.claim
  | some name => (claims.get? place.claim).bind (·.member? name)

/-- Where a parameter stands among the claims and what it says there. A mapped parameter has the
place of its rule, also where it begins like a custom one. -/
def ofParameter? (parameter text : String) : Option (Place × Json) :=
  match Rule.ofParameter? parameter with
  | some rule => (rule.kind.read? text).map fun value => (rule.place, value)
  | none =>
    match OpenGroup.custom.member? parameter, OpenGroup.ext.member? parameter with
    | some name, _ => some (⟨OpenGroup.custom.claim, some name⟩, .string text)
    | none, some name => some (⟨OpenGroup.ext.claim, some name⟩, .string text)
    | none, none => none

/-- The claims that the parameters stand for. -/
def ofParameters (parameters : Parameters) : Claims :=
  parameters.entries.foldl (fun claims entry =>
    match ofParameter? entry.1 entry.2 with
    | none => claims
    | some (place, value) => claims.put place value) ∅

end Claims

namespace Parameters

/-- The parameter for a member of the custom or extension claim, unless it is a mapped one. -/
def ofOpenMember? (group : OpenGroup) (name : String) (value : Json) :
    Option (String × String) :=
  let parameter := group.parameter name
  match Rule.ofParameter? parameter with
  | some _ => none
  | none => value.flatText?.map fun text => (parameter, text)

/-- The parameter for a place of the mapping table. -/
def ofPlace? (place : Place) (value : Json) : Option (String × String) :=
  (Rule.ofPlace? place).bind fun rule =>
    (rule.kind.write? value).map fun text => (rule.parameter, text)

/-- The parameters of one claim, in the order of its members where it is a group. -/
def ofClaim (claim : String) (value : Json) : List (String × String) :=
  match Rule.ofPlace? ⟨claim, none⟩ with
  | some _ => (ofPlace? ⟨claim, none⟩ value).toList
  | none =>
    let members := (value.object?.getD ∅).entries
    match OpenGroup.ofClaim? claim with
    | some group => members.filterMap fun member => ofOpenMember? group member.1 member.2
    | none => members.filterMap fun member => ofPlace? ⟨claim, some member.1⟩ member.2

/-- The parameters that say what the claims say. -/
def ofClaims (claims : Claims) : Parameters :=
  .ofList (claims.entries.flatMap fun claim => ofClaim claim.1 claim.2)

end Parameters

end LtiPlatform
