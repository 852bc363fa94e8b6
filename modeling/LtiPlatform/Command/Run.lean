import LtiPlatform.Command.Report
import LtiPlatform.Command.Simulation

namespace LtiPlatform

/-- What a run of the program leaves behind. -/
structure Outcome where
  exitCode : UInt32 := 0
  output : String := ""
  errors : String := ""
deriving DecidableEq, Repr, Inhabited

namespace Parameters

/-- A flat parameter's text; a truth value or a number is written out. -/
def scalarText? : Json → Option String
  | .string text => some text
  | .bool value => some (Json.bool value).compact
  | .number value => some value.toText
  | _ => none

/-- Parameters as a JSON object gives them. -/
def ofText (text : String) : Except CommandError Parameters := do
  let some members := Json.parseMap? text | throw .json
  let entries ← members.entries.mapM fun (name, value) =>
    match scalarText? value with
    | some text => .ok (name, text)
    | none => .error (.invalidArguments ("parameter '" ++ name ++ "' must be a string"))
  return .ofList entries

end Parameters

namespace Claims

def ofText (text : String) : Except CommandError Claims :=
  match Json.parseMap? text with
  | some members => .ok members
  | none => .error .json

end Claims

namespace ContentItem

/-- The legacy form of a text, read again as JSON. -/
def legacyJson (text : String) : Except CommandError Json :=
  match legacyText text with
  | .error cause => .error (.contentItems cause)
  | .ok converted =>
    match Json.parse? converted with
    | some json => .ok json
    | none => .error .json

end ContentItem

namespace TermQuery

def roles (query : TermQuery) : List Counterpart :=
  let given := query.values.map some
  query.values.zip <|
    match query.target with
    | .legacy => Role.vocabulary.toLegacyAll given
    | .modern =>
      if query.deprecatedPrefixes then Role.vocabulary.toDraftAll given
      else Role.vocabulary.toModernAll given

def contextTypes (query : TermQuery) : List Counterpart :=
  let given := query.values.map some
  query.values.zip <|
    match query.target with
    | .legacy => ContextType.vocabulary.toLegacyAll given
    | .modern => ContextType.vocabulary.toModernAll given

end TermQuery

namespace ReportStyle

/-- The parameters of a flat launch stand for the whole; where they go is only told on request. -/
def simulated (style : ReportStyle) : SimulatedLaunch → Outcome
  | .answered response claims => { output := style.launch response claims }
  | .flat url parameters => {
      output := style.parameters parameters
      errors :=
        if style.verbose then "Tool uses flat parameters; posting to " ++ url ++ "\n" else "" }

end ReportStyle

namespace Surroundings

variable {m : Type → Type} [Monad m]

/-- Reads the input, or else a file. -/
def read (surroundings : Surroundings m) (path : String) : m (Except CommandError String) := do
  let text ←
    if path = Command.standardInput then surroundings.readInput else surroundings.readFile path
  return text.mapError (.input path)

def loadPlatform (surroundings : Surroundings m) (path : String) :
    m (Except CommandError Platform) := do
  match ← PlatformSettings.load surroundings PlatformSettings.variableStart path with
  | .error cause => return .error (.settings cause)
  | .ok settings => return (← settings.makePlatform surroundings).mapError .settings

/-- Reads a JSON text at a path. -/
def readJson {α : Type} (surroundings : Surroundings m) (path : String)
    (parse? : String → Option α) : m (Except CommandError α) := do
  return (← surroundings.read path).bind fun text =>
    match parse? text with
    | some value => .ok value
    | none => .error .json

def times (surroundings : Surroundings m) : m SimulatedLaunch.Times := do
  let hint ← surroundings.stamp
  let idToken ← surroundings.stamp
  return ⟨hint, idToken, (← surroundings.stamp).time⟩

/-- Reads the configuration, the registration and the user, in this order, and tries the launch. -/
def simulate (surroundings : Surroundings m) (config registration user : String)
    (choices : SimulationChoices) : m (Except CommandError SimulatedLaunch) := do
  match ← surroundings.loadPlatform config with
  | .error cause => return .error cause
  | .ok platform =>
    match ← surroundings.readJson registration ToolRegistration.parse? with
    | .error cause => return .error cause
    | .ok tool =>
      match ← surroundings.readJson user User.parse? with
      | .error cause => return .error cause
      | .ok user =>
        return SimulatedLaunch.run .standard (← surroundings.times) platform tool user choices

end Surroundings

namespace Command

variable {m : Type → Type} [Monad m]

/-- What a command has to say, or why it failed. -/
def outcome? (surroundings : Surroundings m) (style : ReportStyle) :
    Command → m (Except CommandError Outcome)
  | toClaims input => do
    return (← surroundings.read input).bind fun text =>
      (Parameters.ofText text).map fun parameters =>
        { output := style.value (.ofMap (Claims.ofParameters parameters)) }
  | toParameters input => do
    return (← surroundings.read input).bind fun text =>
      (Claims.ofText text).map fun claims =>
        { output := style.parameters (Parameters.ofClaims claims) }
  | contentItems input => do
    return (← surroundings.read input).bind fun text =>
      (ContentItem.legacyJson text).map fun json => { output := style.value json }
  | roles query => return .ok { output := style.counterparts query.roles }
  | contextTypes query => return .ok { output := style.counterparts query.contextTypes }
  | keySet config => do
    let platform ← surroundings.loadPlatform config
    return platform.map fun platform => { output := style.value platform.keys.toJson }
  | simulate config registration user choices => do
    return (← surroundings.simulate config registration user choices).map style.simulated

/-- A command that failed says why, and ends the program with 1. -/
def run (surroundings : Surroundings m) (style : ReportStyle) (command : Command) : m Outcome := do
  match ← command.outcome? surroundings style with
  | .ok outcome => return outcome
  | .error cause => return { exitCode := 1, errors := style.error cause }

end Command

namespace Request

variable {m : Type → Type} [Monad m]

def versionText : String := "lti-launch 0.1.0\n"

def usage : String :=
  "Usage: lti-launch [--format human|json|yaml|table|compact] [--verbose] [--no-color] <command>\n\n" ++
  "  to-claims [FILE]       Flat launch parameters as claims\n" ++
  "  to-params [FILE]       Claims as flat launch parameters\n" ++
  "  content-items [FILE]   Content items as a legacy graph\n" ++
  "  roles VALUES           Roles in another vocabulary (--to modern|legacy)\n" ++
  "  context-types VALUES   Context types in another vocabulary (--to modern|legacy)\n" ++
  "  jwks --config FILE     The public keys of a platform\n" ++
  "  simulate --config FILE --registration FILE --user FILE   A whole launch\n"

def run (surroundings : Surroundings m) : Request → m Outcome
  | help => return { output := usage }
  | version => return { output := versionText }
  | perform style command => command.run surroundings style

/-- Words that ask for nothing end the program with 2. -/
def runWords (surroundings : Surroundings m) (words : List String) : m Outcome :=
  match ofWords? surroundings.environment words with
  | some request => request.run surroundings
  | none => return { exitCode := 2, errors := usage }

end Request

end LtiPlatform
