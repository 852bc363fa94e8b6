import LtiPlatform.Launch.Draft

namespace LtiPlatform

/-- What the platform's login says of a user. -/
structure UserVerdict where
  successful : Bool := false
  user : Option User := none
deriving DecidableEq, Repr, Inhabited

/-- Whom the authentication asks for registrations, for users and for substitutors. The first two are
asked in a monad, and a failed look-up gives the reason. -/
structure Collaborators (m : Type → Type := Id) where
  registration : String → m (Except String (Option ToolRegistration))
  user : String → m (Except String UserVerdict)
  substitutor : ToolRegistration → Substitutor

/-- Why a request was refused, and how far it had come. -/
structure Refusal where
  reached : LaunchState
  cause : LaunchError
deriving DecidableEq, Repr, Inhabited

namespace LaunchState

/-- The states on the way to success, in order. -/
def path : List LaunchState :=
  [staticallyValidated, hintDecoded, registrationLoaded, userAuthenticated, claimsAssembled,
    tokenIssued]

/-- The states that were entered on the way to one of them. -/
def entered (reached : LaunchState) : List LaunchState :=
  if path.contains reached then path.takeWhile (· ≠ reached) ++ [reached] else []

end LaunchState

namespace Refusal

def states (refusal : Refusal) : List LaunchState :=
  refusal.reached.entered ++ [.rejected]

end Refusal

namespace AuthenticationRequest

/-- A field that is absent counts as empty. -/
def text (field : Option String) : String := field.getD ""

def expect (field : RequestField) (value : Option String) (expected : String) :
    Except LaunchError Unit :=
  if text value = expected then .ok ()
  else .error (.validation field ("expected '" ++ expected ++ "'"))

/-- The fields that the protocol fixes, and the nonce. -/
def validate (request : AuthenticationRequest) : Except LaunchError Unit := do
  expect .scope request.scope "openid"
  expect .responseType request.responseType "id_token"
  expect .responseMode request.responseMode "form_post"
  expect .prompt request.prompt "none"
  if text request.nonce = "" then .error (.validation .nonce "missing")

end AuthenticationRequest

namespace Claims

/-- One level deep: the members of an object join those of the object that is already there, and
any other claim takes the place of the old one. -/
def merge (claims incoming : Claims) : Claims :=
  incoming.entries.foldl (fun merged entry =>
    match entry.2.object?, (merged.get? entry.1).bind Json.object? with
    | some fields, some existing => merged.insert entry.1 (.ofMap (existing.extend fields))
    | _, _ => merged.insert entry.1 entry.2) claims

/-- The custom values that are still placeholders. -/
def customPlaceholders (members : OrderedMap Json) : List (String × String) :=
  members.entries.filterMap fun entry =>
    (entry.2.string?.filter Substitution.isPlaceholder).map fun text => (entry.1, text)

/-- Replaces the placeholders of the custom claim, now that the user is known. -/
def substituted (claims : Claims) (substitutor : Substitutor) (user : User) : Claims :=
  match (claims.get? OpenGroup.custom.claim).bind Json.object? with
  | none => claims
  | some members =>
    let context := (LaunchContext.ofClaims claims).withUser user
    let filled := Substitution.filled substitutor context (customPlaceholders members)
    claims.insert OpenGroup.custom.claim <| .ofMap <|
      members.insertAll (filled.map fun entry => (entry.1, .string entry.2))

/-- What the tool is told of the user. -/
def identity (tool : ToolRegistration) (user : User) : Claims :=
  .ofParameters <| .ofList <| presentParameters <|
    ("user_id", some user.id) :: tool.disclosedParameters user

end Claims

namespace Platform

/-- The claims of a hint that this platform issued. -/
def hintClaims (scheme : SignatureScheme) (platform : Platform) (now : Nat) (hint : String) :
    Except LaunchError Claims :=
  if hint = "" then .error (.validation .messageHint "missing")
  else
    match TokenCodec.verify scheme platform.codec platform.keys now hint with
    | .error cause => .error (.signature cause)
    | .ok claims =>
      if (claims.get? "iss").bind Json.string? = some platform.issuer then .ok claims
      else .error (.validation .messageHint "issued by another platform")

/-- The claims of an id token, from those of the hint. -/
def idTokenClaims (platform : Platform) (substitutor : Substitutor) (tool : ToolRegistration)
    (user : User) (nonce : String) (stamp : TokenStamp) (hint : Claims) : Claims :=
  let assembled :=
    Claims.merge (Claims.substituted hint substitutor user) (Claims.identity tool user)
  let addressed := (assembled.erase Claims.registrationId).insertAll
    [("iss", .string platform.issuer), ("aud", .string tool.clientId),
      ("azp", .string tool.clientId), ("nonce", .string nonce)]
  Claims.stamped addressed stamp platform.idTokenLifetime

end Platform

namespace Claims

/-- The id of the registration that a hint is for, a number in its printed form. -/
def registrationId? (claims : Claims) : Option String :=
  match claims.get? registrationId with
  | some (.string id) => some id
  | some (.number id) => some id.toText
  | _ => none

end Claims

namespace ToolRegistration

/-- What the reply to a look-up comes to. -/
def ofReply (id : String) : Except String (Option ToolRegistration) → Except LaunchError ToolRegistration
  | .ok (some tool) => .ok tool
  | .ok none => .error (.registration ("unknown tool registration '" ++ id ++ "'"))
  | .error reason => .error (.registration ("lookup of '" ++ id ++ "' failed: " ++ reason))

end ToolRegistration

namespace User

/-- What the reply of the login comes to. -/
def ofReply : Except String UserVerdict → Except LaunchError User
  | .error reason => .error (.authentication reason)
  | .ok verdict =>
    match verdict.successful, verdict.user with
    | true, some user => .ok user
    | _, _ => .error (.authentication "user could not be authenticated")

end User

namespace Collaborators

variable {m : Type → Type} [Monad m]

def findRegistration (collaborators : Collaborators m) (hint : Claims) :
    m (Except LaunchError ToolRegistration) :=
  match Claims.registrationId? hint with
  | none => return .error (.validation .messageHint "no tool_registration_id")
  | some id => return ToolRegistration.ofReply id (← collaborators.registration id)

def findUser (collaborators : Collaborators m) (loginHint : String) : m (Except LaunchError User) :=
  return User.ofReply (← collaborators.user loginHint)

end Collaborators

namespace ToolRegistration

/-- Whether the request comes from the tool and may be answered at the address it gives. -/
def checkRequest (tool : ToolRegistration) (request : AuthenticationRequest) :
    Except LaunchError Unit :=
  let redirectUri := AuthenticationRequest.text request.redirectUri
  if AuthenticationRequest.text request.clientId ≠ tool.clientId then
    .error (.validation .clientId "does not match the tool registration")
  else if tool.allowsRedirectUri redirectUri then .ok ()
  else
    .error (.validation .redirectUri ("'" ++ redirectUri ++ "' is not registered for this tool"))

end ToolRegistration

namespace Platform

def during {α : Type} (reached : LaunchState) (result : Except LaunchError α) :
    Except Refusal α :=
  result.mapError fun cause => ⟨reached, cause⟩

/-- Answers a request, or refuses it for the first check that fails. Nobody is asked about a request that
has failed before. -/
def authenticate {m : Type → Type} [Monad m] (scheme : SignatureScheme) (platform : Platform)
    (collaborators : Collaborators m) (stamp : TokenStamp) (request : AuthenticationRequest) :
    m (Except Refusal AuthenticationResponse) := ExceptT.run do
  during .receivedRequest request.validate
  let hint ← during .staticallyValidated <|
    platform.hintClaims scheme stamp.time (AuthenticationRequest.text request.messageHint)
  let tool ← during .hintDecoded (← collaborators.findRegistration hint)
  during .hintDecoded (tool.checkRequest request)
  let user ← during .registrationLoaded <|
    ← collaborators.findUser (AuthenticationRequest.text request.loginHint)
  let claims := platform.idTokenClaims (collaborators.substitutor tool) tool user
    (AuthenticationRequest.text request.nonce) stamp hint
  let idToken ← during .claimsAssembled <|
    (TokenCodec.issue scheme platform.key claims).mapError .signing
  return {
    redirectUri := AuthenticationRequest.text request.redirectUri
    idToken := idToken
    state := request.state }

end Platform

end LtiPlatform
