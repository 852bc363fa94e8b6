import LtiPlatform.Json.Record

namespace LtiPlatform

structure AuthenticationRequest where
  scope : Option String := none
  responseType : Option String := none
  responseMode : Option String := none
  clientId : Option String := none
  redirectUri : Option String := none
  loginHint : Option String := none
  nonce : Option String := none
  state : Option String := none
  prompt : Option String := none
  messageHint : Option String := none
  deploymentId : Option String := none
deriving DecidableEq, Repr, Inhabited

namespace AuthenticationRequest

def fieldNames : List String :=
  ["scope", "response_type", "response_mode", "client_id", "redirect_uri", "login_hint", "nonce",
    "state", "prompt", "lti_message_hint", "lti_deployment_id"]

def ofRecord? (record : Record) : Option AuthenticationRequest := do
  let record ← record.check? fieldNames false
  let scope ← record.optionalText? 0 "scope"
  let responseType ← record.optionalText? 1 "response_type"
  let responseMode ← record.optionalText? 2 "response_mode"
  let clientId ← record.optionalText? 3 "client_id"
  let redirectUri ← record.optionalText? 4 "redirect_uri"
  let loginHint ← record.optionalText? 5 "login_hint"
  let nonce ← record.optionalText? 6 "nonce"
  let state ← record.optionalText? 7 "state"
  let prompt ← record.optionalText? 8 "prompt"
  let messageHint ← record.optionalText? 9 "lti_message_hint"
  let deploymentId ← record.optionalText? 10 "lti_deployment_id"
  some ⟨scope, responseType, responseMode, clientId, redirectUri, loginHint, nonce, state, prompt,
    messageHint, deploymentId⟩

def parse? (text : String) : Option AuthenticationRequest := (Record.parse? text).bind ofRecord?

def ofJson? (value : Json) : Option AuthenticationRequest := (Record.ofJson? value).bind ofRecord?

def toJson (request : AuthenticationRequest) : Json :=
  .object
    [("scope", .ofOption request.scope),
      ("response_type", .ofOption request.responseType),
      ("response_mode", .ofOption request.responseMode),
      ("client_id", .ofOption request.clientId),
      ("redirect_uri", .ofOption request.redirectUri),
      ("login_hint", .ofOption request.loginHint),
      ("nonce", .ofOption request.nonce),
      ("state", .ofOption request.state),
      ("prompt", .ofOption request.prompt),
      ("lti_message_hint", .ofOption request.messageHint),
      ("lti_deployment_id", .ofOption request.deploymentId)]

end AuthenticationRequest

structure AuthenticationResponse where
  redirectUri : String
  idToken : String
  state : Option String
deriving DecidableEq, Repr, Inhabited

namespace AuthenticationResponse

def fieldNames : List String := ["redirect_uri", "id_token", "state"]

def ofRecord? (record : Record) : Option AuthenticationResponse := do
  let record ← record.check? fieldNames true
  let redirectUri ← record.text? 0 "redirect_uri"
  let idToken ← record.text? 1 "id_token"
  let state ← record.optionalText? 2 "state"
  some ⟨redirectUri, idToken, state⟩

def parse? (text : String) : Option AuthenticationResponse := (Record.parse? text).bind ofRecord?

/-- A state is sent back only if the request had one. -/
def toJson (response : AuthenticationResponse) : Json :=
  .ofMap <| (OrderedMap.ofList
    [("redirect_uri", .string response.redirectUri),
      ("id_token", .string response.idToken)]).insertSome "state" (response.state.map .string)

end AuthenticationResponse

/-- The parameters that start the login at a tool. -/
structure LoginInitiation where
  /-- Where they are sent to. -/
  initiateLoginUrl : String
  issuer : String
  loginHint : String
  targetLinkUri : String
  messageHint : String
  deploymentId : String
  clientId : String
deriving DecidableEq, Repr, Inhabited

namespace LoginInitiation

def fieldNames : List String :=
  ["iss", "login_hint", "target_link_uri", "lti_message_hint", "lti_deployment_id", "client_id"]

/-- The address is not one of the parameters. -/
def ofRecord? (record : Record) : Option LoginInitiation := do
  let record ← record.check? fieldNames true
  let issuer ← record.text? 0 "iss"
  let loginHint ← record.text? 1 "login_hint"
  let targetLinkUri ← record.text? 2 "target_link_uri"
  let messageHint ← record.text? 3 "lti_message_hint"
  let deploymentId ← record.text? 4 "lti_deployment_id"
  let clientId ← record.text? 5 "client_id"
  some ⟨"", issuer, loginHint, targetLinkUri, messageHint, deploymentId, clientId⟩

def parse? (text : String) : Option LoginInitiation := (Record.parse? text).bind ofRecord?

def toJson (login : LoginInitiation) : Json :=
  .object
    [("iss", .string login.issuer),
      ("login_hint", .string login.loginHint),
      ("target_link_uri", .string login.targetLinkUri),
      ("lti_message_hint", .string login.messageHint),
      ("lti_deployment_id", .string login.deploymentId),
      ("client_id", .string login.clientId)]

end LoginInitiation

/-- How far the handling of an authentication request has come. -/
inductive LaunchState where
  | receivedRequest
  | staticallyValidated
  | hintDecoded
  | registrationLoaded
  | userAuthenticated
  | claimsAssembled
  | tokenIssued
  | rejected
deriving DecidableEq, Repr, Inhabited

namespace LaunchState

def name : LaunchState → String
  | receivedRequest => "received_request"
  | staticallyValidated => "statically_validated"
  | hintDecoded => "hint_decoded"
  | registrationLoaded => "registration_loaded"
  | userAuthenticated => "user_authenticated"
  | claimsAssembled => "claims_assembled"
  | tokenIssued => "token_issued"
  | rejected => "rejected"

def all : List LaunchState :=
  [receivedRequest, staticallyValidated, hintDecoded, registrationLoaded, userAuthenticated,
    claimsAssembled, tokenIssued, rejected]

end LaunchState

end LtiPlatform
