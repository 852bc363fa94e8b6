import LtiPlatform.Launch.Platform
import LtiPlatform.Launch.Message
import LtiPlatform.Launch.Error
import LtiPlatform.Substitution

namespace LtiPlatform

structure Presentation where
  documentTarget : Option String := none
  locale : Option String := none
  returnUrl : Option String := none
  cssUrl : Option String := none
  width : Option Nat := none
  height : Option Nat := none
deriving DecidableEq, Repr, Inhabited

structure DeepLinking where
  returnUrl : String
  acceptTypes : List String := []
  documentTargets : List String := []
  mediaTypes : Option String := none
  acceptMultiple : Bool := false
  autoCreate : Bool := false
  title : Option String := none
  text : Option String := none
  data : Option String := none
deriving DecidableEq, Repr, Inhabited

/-- A launch that is put together for a tool: an older one gets it as flat parameters, and one with claims is asked
to begin a login, with what is signed into the message hint now. -/
structure LaunchDraft where
  message : MessageType := .resourceLink
  roles : List String := []
  course : Option Course := none
  resourceLink : Option ResourceLink := none
  presentation : Option Presentation := none
  deepLinking : Option DeepLinking := none
  custom : Parameters := ∅
  extra : Parameters := ∅
  targetLinkUri : Option String := none
deriving Inhabited

/-- One decision about a launch. -/
inductive LaunchSetting where
  | message (type : MessageType)
  | roles (roles : List String)
  | course (course : Course)
  | resourceLink (link : ResourceLink)
  | presentation (presentation : Presentation)
  | deepLinking (settings : DeepLinking)
  | custom (name value : String)
  | parameter (name value : String)
  | targetLinkUri (uri : String)
deriving Inhabited

/-- The launch itself, or the invitation to ask for it. -/
inductive LaunchRequest where
  | flat (url : String) (parameters : Parameters)
  | login (initiation : LoginInitiation)

namespace Presentation

def parameters (presentation : Presentation) : List (String × Option String) :=
  [("launch_presentation_document_target", presentation.documentTarget),
    ("launch_presentation_locale", presentation.locale),
    ("launch_presentation_return_url", presentation.returnUrl),
    ("launch_presentation_css_url", presentation.cssUrl),
    ("launch_presentation_width", presentation.width.map toString),
    ("launch_presentation_height", presentation.height.map toString)]

end Presentation

/-- A list parameter is there only if the list is not empty. -/
def listParameter (items : List String) : Option String :=
  if items.isEmpty then none else some (Text.joinWith "," items)

def flagText (flag : Bool) : String := if flag then "true" else "false"

namespace DeepLinking

def parameters (settings : DeepLinking) : List (String × Option String) :=
  [("content_item_return_url", some settings.returnUrl),
    ("accept_types", listParameter settings.acceptTypes),
    ("accept_presentation_document_targets", listParameter settings.documentTargets),
    ("accept_media_types", settings.mediaTypes),
    ("accept_multiple", some (flagText settings.acceptMultiple)),
    ("auto_create", some (flagText settings.autoCreate)),
    ("title", settings.title),
    ("text", settings.text),
    ("data", settings.data)]

end DeepLinking

namespace Course

def parameters (course : Course) : List (String × Option String) :=
  [("context_id", some course.id),
    ("context_title", course.title),
    ("context_label", course.label),
    ("context_type", listParameter course.types)]

end Course

namespace ResourceLink

def parameters (link : ResourceLink) : List (String × Option String) :=
  [("resource_link_id", some link.id),
    ("resource_link_title", link.title),
    ("resource_link_description", link.description)]

end ResourceLink

/-- The parameters that have a value. -/
def presentParameters (parameters : List (String × Option String)) : List (String × String) :=
  parameters.filterMap fun (name, value) => value.map fun value => (name, value)

namespace ToolRegistration

/-- The parameters for a user's names and email, as far as the tool may see them. -/
def disclosedParameters (tool : ToolRegistration) (user : User) : List (String × Option String) :=
  (if tool.sendName = .always then
    [("lis_person_name_given", user.givenName),
      ("lis_person_name_family", user.familyName),
      ("lis_person_name_full", user.displayName),
      ("ext_user_username", user.username)]
  else []) ++
  (if tool.sendEmail = .always then [("lis_person_contact_email_primary", user.email)] else [])

/-- The parameters that a flat launch has for its user. -/
def userParameters (tool : ToolRegistration) (user : User) : List (String × Option String) :=
  [("user_id", some user.id), ("user_image", user.picture),
    ("lis_person_sourcedid", user.sourcedId)] ++ tool.disclosedParameters user

end ToolRegistration

namespace Parameters

def customPlaceholders (parameters : Parameters) : List (String × String) :=
  parameters.entries.filter fun entry =>
    Text.isPrefix OpenGroup.custom.start entry.1 && Substitution.isPlaceholder entry.2

/-- Replaces the placeholders among the custom parameters. -/
def substituted (parameters : Parameters) (substitutor : Substitutor) (context : LaunchContext) :
    Parameters :=
  parameters.insertAll (Substitution.filled substitutor context (customPlaceholders parameters))

end Parameters

namespace LaunchDraft

/-- Deep linking settings also make the launch a deep linking one. -/
def set (draft : LaunchDraft) : LaunchSetting → LaunchDraft
  | .message type => { draft with message := type }
  | .roles roles => { draft with roles }
  | .course course => { draft with course := some course }
  | .resourceLink link => { draft with resourceLink := some link }
  | .presentation presentation => { draft with presentation := some presentation }
  | .deepLinking settings =>
    { draft with message := .deepLinking, deepLinking := some settings }
  | .custom name value => { draft with custom := draft.custom.insert name value }
  | .parameter name value => { draft with extra := draft.extra.insert name value }
  | .targetLinkUri uri => { draft with targetLinkUri := some uri }

def ofSettings (settings : List LaunchSetting) : LaunchDraft := settings.foldl set {}

def target (draft : LaunchDraft) (tool : ToolRegistration) : String :=
  draft.targetLinkUri.getD tool.targetLinkUri

/-- What is known before the user is. -/
def context (draft : LaunchDraft) (platform : Platform) : LaunchContext where
  course := draft.course
  resourceLink := draft.resourceLink
  platformName := platform.inst.name

/-- The parameters that do not depend on the user. Parameters set by name replace those of the
launch, and custom ones replace both. -/
def commonParameters (draft : LaunchDraft) (platform : Platform) (tool : ToolRegistration) :
    Parameters :=
  .ofList <|
    [("lti_message_type", draft.message.legacyName), ("lti_version", tool.version.label)] ++
    platform.inst.parameters ++
    presentParameters
      ([("roles", listParameter draft.roles)] ++
        (draft.course.map Course.parameters).getD [] ++
        (draft.resourceLink.map ResourceLink.parameters).getD [] ++
        (draft.presentation.map Presentation.parameters).getD [] ++
        (draft.deepLinking.map DeepLinking.parameters).getD []) ++
    draft.extra.entries ++
    draft.custom.entries.map fun entry => (OpenGroup.custom.parameter entry.1, entry.2)

/-- The whole launch for an older tool. -/
def flatParameters (draft : LaunchDraft) (platform : Platform) (tool : ToolRegistration)
    (substitutor : Substitutor) (user : User) : Parameters :=
  let parameters := (draft.commonParameters platform tool).insertAll
    (presentParameters (tool.userParameters user))
  Parameters.substituted parameters substitutor ((draft.context platform).withUser user)

/-- What the platform signs into the hint of a login. Nothing of the user is in it. -/
def hintClaims (draft : LaunchDraft) (platform : Platform) (tool : ToolRegistration)
    (substitutor : Substitutor) (stamp : TokenStamp) : Claims :=
  let parameters := ((draft.commonParameters platform tool).insert
    "deployment_id" tool.deploymentId).insert "target_link_uri" (draft.target tool)
  let claims := Claims.ofParameters <|
    Parameters.substituted parameters substitutor (draft.context platform)
  let addressed := claims.insertAll
    [(Claims.registrationId, .string tool.id), ("iss", .string platform.issuer),
      ("aud", .string tool.clientId)]
  Claims.stamped addressed stamp platform.hintLifetime

/-- The invitation for an LTI 1.3 tool, which must have an address to send it to. -/
def login (scheme : SignatureScheme) (draft : LaunchDraft) (platform : Platform)
    (tool : ToolRegistration) (substitutor : Substitutor) (stamp : TokenStamp) (user : User) :
    Except LaunchError LoginInitiation :=
  match tool.initiateLoginUrl with
  | none => .error (.registration ("tool '" ++ tool.name ++ "' has no login initiation URL"))
  | some url =>
    match TokenCodec.issue scheme platform.key
        (draft.hintClaims platform tool substitutor stamp) with
    | .error cause => .error (.signing cause)
    | .ok hint => .ok {
        initiateLoginUrl := url
        issuer := platform.issuer
        loginHint := user.id
        targetLinkUri := draft.target tool
        messageHint := hint
        deploymentId := tool.deploymentId
        clientId := tool.clientId }

def build (scheme : SignatureScheme) (draft : LaunchDraft) (platform : Platform)
    (tool : ToolRegistration) (substitutors : ToolRegistration → Substitutor)
    (stamp : TokenStamp) (user : User) : Except LaunchError LaunchRequest :=
  if tool.version.usesClaims then
    (draft.login scheme platform tool (substitutors tool) stamp user).map .login
  else
    .ok (.flat (draft.target tool) (draft.flatParameters platform tool (substitutors tool) user))

end LaunchDraft

end LtiPlatform
