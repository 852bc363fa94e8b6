import LtiPlatform.Token.Error
import LtiPlatform.Claims.ContentItem

namespace LtiPlatform

/-- The fields of an authentication request that are checked. -/
inductive RequestField where
  | scope
  | responseType
  | responseMode
  | prompt
  | nonce
  | messageHint
  | clientId
  | redirectUri
deriving DecidableEq, Repr, Inhabited

namespace RequestField

def name : RequestField → String
  | scope => "scope"
  | responseType => "response_type"
  | responseMode => "response_mode"
  | prompt => "prompt"
  | nonce => "nonce"
  | messageHint => "lti_message_hint"
  | clientId => "client_id"
  | redirectUri => "redirect_uri"

def all : List RequestField :=
  [scope, responseType, responseMode, prompt, nonce, messageHint, clientId, redirectUri]

def ofName? (name : String) : Option RequestField := all.find? (·.name == name)

end RequestField

/-- Why a launch was refused. -/
inductive LaunchError where
  | validation (field : RequestField) (detail : String)
  | signature (cause : TokenError)
  | authentication (detail : String)
  | contentItems (cause : ContentItemError)
  | registration (detail : String)
  | signing (cause : TokenError)
deriving DecidableEq, Repr, Inhabited

namespace ContentItemError

def message : ContentItemError → String
  | malformed => "malformed content items JSON: not a JSON text"

end ContentItemError

namespace LaunchError

def message : LaunchError → String
  | validation field detail => "Invalid " ++ field.name ++ ": " ++ detail
  | signature cause => "Invalid lti_message_hint: " ++ cause.message
  | authentication detail => "Authentication failed: " ++ detail
  | contentItems cause => "Invalid content items: " ++ cause.message
  | registration detail => "Tool registration unavailable: " ++ detail
  | signing cause => "Failed to issue id_token: " ++ cause.message

end LaunchError

end LtiPlatform
