import LtiPlatform.Json.Record

namespace LtiPlatform

inductive LtiVersion where
  | v10
  | v11
  | v13
deriving DecidableEq, Repr, Inhabited

namespace LtiVersion

def number : LtiVersion → String
  | v10 => "1.0"
  | v11 => "1.1"
  | v13 => "1.3.0"

/-- The value of the version parameter of a launch. -/
def label : LtiVersion → String
  | v10 => "LTI-1p0"
  | v11 => "LTI-1p1"
  | v13 => "1.3.0"

def usesClaims : LtiVersion → Bool
  | v13 => true
  | _ => false

def ofNumber? (number : String) : Option LtiVersion :=
  [v10, v11, v13].find? (·.number == number)

def ofWritten? (value : WrittenJson) : Option LtiVersion := value.alternative?.bind ofNumber?

def parse? (text : String) : Option LtiVersion := (Json.written? text).bind ofWritten?

end LtiVersion

/-- When a kind of personal data is shown to a tool. -/
inductive DisclosurePolicy where
  | never
  | always
  | delegate
deriving DecidableEq, Repr, Inhabited

namespace DisclosurePolicy

def name : DisclosurePolicy → String
  | never => "never"
  | always => "always"
  | delegate => "delegate"

def ofName? (name : String) : Option DisclosurePolicy :=
  [never, always, delegate].find? (·.name == name)

/-- Nothing is shown where nothing is said. -/
def ofWritten? : Option WrittenJson → Option DisclosurePolicy
  | none => some never
  | some value => value.alternative?.bind ofName?

end DisclosurePolicy

/-- What a platform knows of a tool. -/
structure ToolRegistration where
  id : String
  name : String
  clientId : String
  /-- One address a line. -/
  redirectLines : String
  deploymentId : String
  version : LtiVersion
  sendName : DisclosurePolicy
  sendEmail : DisclosurePolicy
  initiateLoginUrl : Option String
  targetLinkUri : String
deriving DecidableEq, Repr, Inhabited

namespace ToolRegistration

def redirectUris (tool : ToolRegistration) : List String :=
  ((Text.lines tool.redirectLines).map Text.trim).filter fun uri => !uri.isEmpty

def allowsRedirectUri (tool : ToolRegistration) (uri : String) : Bool :=
  tool.redirectUris.contains uri

def fieldNames : List String :=
  ["id", "name", "client_id", "redirect_uris", "deployment_id", "version", "send_name",
    "send_email", "initiate_login_url", "target_link_uri"]

def ofRecord? (record : Record) : Option ToolRegistration := do
  let record ← record.check? fieldNames true
  let id ← record.text? 0 "id"
  let name ← record.text? 1 "name"
  let clientId ← record.text? 2 "client_id"
  let redirectLines ← record.text? 3 "redirect_uris"
  let deploymentId ← record.text? 4 "deployment_id"
  let version ← (record.value? 5 "version").bind LtiVersion.ofWritten?
  let sendName ← DisclosurePolicy.ofWritten? (record.value? 6 "send_name")
  let sendEmail ← DisclosurePolicy.ofWritten? (record.value? 7 "send_email")
  let initiateLoginUrl ← record.optionalText? 8 "initiate_login_url"
  let targetLinkUri ← record.text? 9 "target_link_uri"
  some ⟨id, name, clientId, redirectLines, deploymentId, version, sendName, sendEmail,
    initiateLoginUrl, targetLinkUri⟩

def parse? (text : String) : Option ToolRegistration := (Record.parse? text).bind ofRecord?

def ofJson? (value : Json) : Option ToolRegistration := (Record.ofJson? value).bind ofRecord?

def toJson (tool : ToolRegistration) : Json :=
  .object
    [("id", .string tool.id),
      ("name", .string tool.name),
      ("client_id", .string tool.clientId),
      ("redirect_uris", .string tool.redirectLines),
      ("deployment_id", .string tool.deploymentId),
      ("version", .string tool.version.number),
      ("send_name", .string tool.sendName.name),
      ("send_email", .string tool.sendEmail.name),
      ("initiate_login_url", .ofOption tool.initiateLoginUrl),
      ("target_link_uri", .string tool.targetLinkUri)]

end ToolRegistration

end LtiPlatform
