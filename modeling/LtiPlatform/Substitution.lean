import LtiPlatform.Claims.Conversion
import LtiPlatform.Tool
import LtiPlatform.User

namespace LtiPlatform

structure Course where
  id : String
  title : Option String := none
  label : Option String := none
  types : List String := []
deriving DecidableEq, Repr, Inhabited

structure ResourceLink where
  id : String
  title : Option String := none
  description : Option String := none
deriving DecidableEq, Repr, Inhabited

/-- What is known when placeholders are replaced. -/
structure LaunchContext where
  user : Option User := none
  course : Option Course := none
  resourceLink : Option ResourceLink := none
  platformName : Option String := none
deriving DecidableEq, Repr, Inhabited

namespace Json

def textMember? (value : Json) (name : String) : Option String :=
  (value.member? name).bind string?

end Json

namespace Course

/-- A course needs an id; of its types only those that are texts count. -/
def ofClaim? (claim : Json) : Option Course :=
  (claim.textMember? "id").map fun id =>
    { id
      title := claim.textMember? "title"
      label := claim.textMember? "label"
      types := (((claim.member? "type").bind Json.array?).getD []).filterMap Json.string? }

end Course

namespace ResourceLink

def ofClaim? (claim : Json) : Option ResourceLink :=
  (claim.textMember? "id").map fun id =>
    { id
      title := claim.textMember? "title"
      description := claim.textMember? "description" }

end ResourceLink

namespace LaunchContext

/-- What the claims of a launch say about its surroundings; they name no user. -/
def ofClaims (claims : Claims) : LaunchContext where
  user := none
  course := (claims.get? (Rule.claimRoot "" ++ "context")).bind Course.ofClaim?
  resourceLink := (claims.get? (Rule.claimRoot "" ++ "resource_link")).bind ResourceLink.ofClaim?
  platformName := (claims.get? (Rule.claimRoot "" ++ "tool_platform")).bind (·.textMember? "name")

def withUser (context : LaunchContext) (user : User) : LaunchContext :=
  { context with user := some user }

end LaunchContext

inductive PersonDatum where
  | id
  | username
  | picture
  | sourcedId
  | fullName
  | givenName
  | familyName
  | email
deriving DecidableEq, Repr, Inhabited

inductive PlatformDatum where
  | courseId
  | courseTitle
  | courseLabel
  | courseTypes
  | linkId
  | linkTitle
  | linkDescription
  | platformName
deriving DecidableEq, Repr, Inhabited

/-- A variable stands for a datum of the user or of the platform. -/
inductive Variable where
  | person (datum : PersonDatum)
  | platform (datum : PlatformDatum)
deriving DecidableEq, Repr, Inhabited

namespace PersonDatum

def value? (user : User) : PersonDatum → Option String
  | id => some user.id
  | username => user.username
  | picture => user.picture
  | sourcedId => user.sourcedId
  | fullName => user.displayName
  | givenName => user.givenName
  | familyName => user.familyName
  | email => user.email

end PersonDatum

namespace PlatformDatum

/-- A course without types has no datum for them. -/
def value? (context : LaunchContext) : PlatformDatum → Option String
  | courseId => context.course.map Course.id
  | courseTitle => context.course.bind Course.title
  | courseLabel => context.course.bind Course.label
  | courseTypes =>
    (context.course.filter fun course => !course.types.isEmpty).map fun course =>
      Text.joinWith "," course.types
  | linkId => context.resourceLink.map ResourceLink.id
  | linkTitle => context.resourceLink.bind ResourceLink.title
  | linkDescription => context.resourceLink.bind ResourceLink.description
  | platformName => context.platformName

end PlatformDatum

namespace Variable

def ofText? : String → Option Variable
  | "$User.id" => some (person .id)
  | "$User.username" => some (person .username)
  | "$User.image" => some (person .picture)
  | "$Person.sourcedId" => some (person .sourcedId)
  | "$Person.name.full" => some (person .fullName)
  | "$Person.name.given" => some (person .givenName)
  | "$Person.name.family" => some (person .familyName)
  | "$Person.email.primary" => some (person .email)
  | "$Context.id" => some (platform .courseId)
  | "$Context.title" => some (platform .courseTitle)
  | "$Context.label" => some (platform .courseLabel)
  | "$Context.type" => some (platform .courseTypes)
  | "$ResourceLink.id" => some (platform .linkId)
  | "$ResourceLink.title" => some (platform .linkTitle)
  | "$ResourceLink.description" => some (platform .linkDescription)
  | "$ToolPlatformInstance.name" => some (platform .platformName)
  | _ => none

def value? (context : LaunchContext) : Variable → Option String
  | person datum => context.user.bind datum.value?
  | platform datum => datum.value? context

end Variable

/-- Replaces a list of values by a list of values. -/
abbrev Substitutor := LaunchContext → List String → List String

namespace Substitution

def isPlaceholder (value : String) : Bool := value.toList.head? == some '$'

def resolve? (context : LaunchContext) (placeholder : String) : Option String :=
  (Variable.ofText? placeholder).bind (Variable.value? context)

def replace (context : LaunchContext) (value : String) : String :=
  if isPlaceholder value then (resolve? context value).getD value else value

/-- Replaces each placeholder that has a datum. -/
def standard : Substitutor := fun context values => values.map (replace context)

/-- What the substitutor makes of named placeholders. It is not asked if there are none; names
beyond the values that it returns are left out. -/
def filled (substitutor : Substitutor) (context : LaunchContext)
    (pending : List (String × String)) : List (String × String) :=
  if pending.isEmpty then []
  else (pending.map Prod.fst).zip (substitutor context (pending.map Prod.snd))

end Substitution

end LtiPlatform
