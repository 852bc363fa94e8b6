import LtiPlatform.Command.Error
import LtiPlatform.Command.Request
import LtiPlatform.Launch.Authentication

namespace LtiPlatform

/-- What becomes of a whole launch without a tool: the platform starts the login, the request is made up from it, and
the platform answers. The registration and the user are the only ones there are. -/
inductive SimulatedLaunch where
  | flat (url : String) (parameters : Parameters)
  | answered (response : AuthenticationResponse) (claims : Claims)
deriving Inhabited

namespace Collaborators

/-- The surroundings of a platform with one tool and one user. -/
def single (tool : ToolRegistration) (user : User) : Collaborators where
  registration := fun id => .ok (if tool.id = id then some tool else none)
  user := fun hint => .ok (if user.id = hint then ⟨true, some user⟩ else {})
  substitutor := fun _ => Substitution.standard

end Collaborators

namespace SimulationChoices

def draft (choices : SimulationChoices) : LaunchDraft :=
  .ofSettings <|
    .roles choices.roles :: choices.custom.map fun (name, value) => .custom name value

/-- Where the tool asks to be answered: the first registered address if none is chosen. -/
def redirectUri? (choices : SimulationChoices) (tool : ToolRegistration) : Option String :=
  choices.redirectUri.or tool.redirectUris.head?

/-- What a tool would ask for after the login has begun. -/
def request (choices : SimulationChoices) (login : LoginInitiation) (redirectUri : String) :
    AuthenticationRequest where
  scope := some "openid"
  responseType := some "id_token"
  responseMode := some "form_post"
  clientId := some login.clientId
  redirectUri := some redirectUri
  loginHint := some login.loginHint
  nonce := some choices.nonce
  state := some choices.state
  prompt := some "none"
  messageHint := some login.messageHint
  deploymentId := some login.deploymentId

end SimulationChoices

namespace SimulatedLaunch

/-- The stamps of the two tokens, and the time at which the second one is read. -/
structure Times where
  hint : TokenStamp
  idToken : TokenStamp
  reading : Nat
deriving DecidableEq, Repr, Inhabited

def answer (scheme : SignatureScheme) (times : Times) (platform : Platform)
    (tool : ToolRegistration) (user : User) (request : AuthenticationRequest) :
    Except CommandError SimulatedLaunch := do
  let response ←
    (platform.authenticate scheme (Collaborators.single tool user) times.idToken request).mapError
      fun refusal => .launch refusal.cause
  let claims ←
    (TokenCodec.verify scheme platform.codec platform.keys times.reading response.idToken).mapError
      .token
  return .answered response claims

def run (scheme : SignatureScheme) (times : Times) (platform : Platform) (tool : ToolRegistration)
    (user : User) (choices : SimulationChoices) : Except CommandError SimulatedLaunch :=
  match choices.draft.build scheme platform tool (fun _ => Substitution.standard) times.hint user with
  | .error cause => .error (.launch cause)
  | .ok (.flat url parameters) => .ok (.flat url parameters)
  | .ok (.login login) =>
    match choices.redirectUri? tool with
    | none => .error (.invalidArguments "registration has no redirect URIs")
    | some redirectUri =>
      answer scheme times platform tool user (choices.request login redirectUri)

end SimulatedLaunch

end LtiPlatform
