import LtiPlatform.Settings.Format
import LtiPlatform.Settings.Layers
import LtiPlatform.Surroundings

namespace LtiPlatform

/-- The kinds of key that a platform can sign with. -/
inductive KeyKind where
  | rs256
  | es256
deriving DecidableEq, Repr, Inhabited

namespace KeyKind

def name : KeyKind → String
  | rs256 => "RS256"
  | es256 => "ES256"

def ofName? (name : String) : Option KeyKind := [rs256, es256].find? (·.name == name)

end KeyKind

structure LoggingSettings where
  level : String := "info"
  structured : Bool := false
deriving DecidableEq, Repr, Inhabited

/-- Times are in seconds. -/
structure PlatformSettings where
  issuer : String
  keyId : String
  privateKeyPath : String
  keyKind : KeyKind := .rs256
  hintLifetime : Nat := 600
  idTokenLifetime : Nat := 60
  leeway : Nat := 60
  inst : PlatformInstance := {}
  logging : LoggingSettings := {}
deriving DecidableEq, Repr, Inhabited

/-- Why there is no platform. -/
inductive SettingsError where
  | fileNotFound (path : String)
  | unsupportedFormat
  | malformed (detail : String)
  | keyFile (path : String) (cause : FileError)
  | invalidKey (cause : TokenError)
deriving DecidableEq, Repr, Inhabited

namespace SettingsError

def message : SettingsError → String
  | fileNotFound path => "Configuration file not found: " ++ path
  | unsupportedFormat =>
    "Unsupported configuration file format. Use .toml, .yaml, .yml, or .json"
  | malformed detail => "Failed to parse configuration: " ++ detail
  | keyFile path cause => "Failed to read key file " ++ path ++ ": " ++ cause.message
  | invalidKey cause => "Invalid signing key: " ++ cause.message

end SettingsError

namespace Setting

/-- A member that must be there. -/
def required? {α : Type} (members : Entries Setting) (name : String)
    (read : Setting → Option α) : Option α :=
  (members.get? name).bind read

/-- A member with a default for where it is not there at all. -/
def withDefault? {α : Type} (members : Entries Setting) (name : String) (default : α)
    (read : Setting → Option α) : Option α :=
  match members.get? name with
  | none => some default
  | some setting => read setting

/-- A text that may also be said to be absent. -/
def asOptionalText? : Setting → Option (Option String)
  | absent => some none
  | setting => setting.asText?.map some

end Setting

namespace PlatformInstance

def settingNames : List String :=
  ["name", "guid", "product_family_code", "version", "contact_email", "url"]

def ofSetting? (setting : Setting) : Option PlatformInstance := do
  let members ← setting.asRecord? settingNames
  let text? (name : String) := Setting.withDefault? members name none Setting.asOptionalText?
  let name ← text? "name"
  let guid ← text? "guid"
  let productFamilyCode ← text? "product_family_code"
  let version ← text? "version"
  let contactEmail ← text? "contact_email"
  let url ← text? "url"
  some ⟨name, guid, productFamilyCode, version, contactEmail, url⟩

def toJson (inst : PlatformInstance) : Json :=
  .object
    [("name", .ofOption inst.name),
      ("guid", .ofOption inst.guid),
      ("product_family_code", .ofOption inst.productFamilyCode),
      ("version", .ofOption inst.version),
      ("contact_email", .ofOption inst.contactEmail),
      ("url", .ofOption inst.url)]

end PlatformInstance

namespace LoggingSettings

def settingNames : List String := ["level", "structured"]

def ofSetting? (setting : Setting) : Option LoggingSettings := do
  let members ← setting.asRecord? settingNames
  let level ← Setting.withDefault? members "level" "info" Setting.asText?
  let structured ← Setting.withDefault? members "structured" false Setting.asSwitch?
  some ⟨level, structured⟩

def toJson (logging : LoggingSettings) : Json :=
  .object [("level", .string logging.level), ("structured", .bool logging.structured)]

end LoggingSettings

namespace PlatformSettings

/-- What the names of variables of the environment begin with. -/
def variableStart : String := "LTI_LAUNCH"

/-- Members that are not settings are passed over. -/
def ofMembers? (members : Entries Setting) : Option PlatformSettings := do
  let issuer ← Setting.required? members "issuer" Setting.asText?
  let keyId ← Setting.required? members "key_id" Setting.asText?
  let privateKeyPath ← Setting.required? members "private_key_path" Setting.asText?
  let keyKind ← Setting.withDefault? members "key_algorithm" .rs256 fun setting =>
    setting.asName?.bind KeyKind.ofName?
  let hintLifetime ← Setting.withDefault? members "hint_lifetime_secs" 600 Setting.asNatural?
  let idTokenLifetime ← Setting.withDefault? members "id_token_lifetime_secs" 60 Setting.asNatural?
  let leeway ← Setting.withDefault? members "leeway_secs" 60 Setting.asNatural?
  let inst ← Setting.withDefault? members "instance" {} PlatformInstance.ofSetting?
  let logging ← Setting.withDefault? members "logging" {} LoggingSettings.ofSetting?
  some ⟨issuer, keyId, privateKeyPath, keyKind, hintLifetime, idTokenLifetime, leeway, inst, logging⟩

/-- All settings, under the names that they have in a file. -/
def toJson (settings : PlatformSettings) : Json :=
  .object
    [("issuer", .string settings.issuer),
      ("key_id", .string settings.keyId),
      ("private_key_path", .string settings.privateKeyPath),
      ("key_algorithm", .string settings.keyKind.name),
      ("hint_lifetime_secs", .ofInt settings.hintLifetime),
      ("id_token_lifetime_secs", .ofInt settings.idTokenLifetime),
      ("leeway_secs", .ofInt settings.leeway),
      ("instance", settings.inst.toJson),
      ("logging", settings.logging.toJson)]

/-- The settings of a file with those of the environment above them. -/
def ofText? (format : SettingsFormat) (text start : String) (environment : Environment) :
    Option PlatformSettings :=
  (format.parse? text).bind fun file => ofMembers? (Setting.layered file start environment)

/-- Reads the settings at a path. -/
def load {m : Type → Type} [Monad m] (surroundings : Surroundings m) (start path : String) :
    m (Except SettingsError PlatformSettings) := do
  if !(← surroundings.isThere path) then return .error (.fileNotFound path)
  match SettingsFormat.ofPath? path with
  | none => return .error .unsupportedFormat
  | some format =>
    match ← surroundings.readFile path with
    | .error cause => return .error (.malformed cause.message)
    | .ok text =>
      match ofText? format text start surroundings.environment with
      | none => return .error (.malformed "not a platform configuration")
      | some settings => return .ok settings

/-- The key that the settings describe, from the text of its file. -/
def signingKey (settings : PlatformSettings) (pem : String) : Except TokenError SigningKey :=
  match settings.keyKind with
  | .rs256 => SigningKey.ofRsaPem settings.keyId pem
  | .es256 => SigningKey.ofP256Pem settings.keyId pem

/-- The platform that the settings describe, with its key. -/
def platform (settings : PlatformSettings) (key : SigningKey) : Platform :=
  { Platform.ofKey settings.issuer key with
    codec := ({} : TokenCodec).withLeeway settings.leeway
    inst := settings.inst
    hintLifetime := settings.hintLifetime
    idTokenLifetime := settings.idTokenLifetime }

/-- Reads the key of the settings and makes the platform. -/
def makePlatform {m : Type → Type} [Monad m] (surroundings : Surroundings m)
    (settings : PlatformSettings) : m (Except SettingsError Platform) := do
  match ← surroundings.readFile settings.privateKeyPath with
  | .error cause => return .error (.keyFile settings.privateKeyPath cause)
  | .ok pem =>
    match settings.signingKey pem with
    | .error cause => return .error (.invalidKey cause)
    | .ok key => return .ok (settings.platform key)

end PlatformSettings

end LtiPlatform
