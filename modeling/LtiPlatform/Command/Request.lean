import LtiPlatform.Command.Reading

namespace LtiPlatform

/-- Texts of which the counterparts are asked for. -/
structure TermQuery where
  values : List String
  target : VocabularyForm := .modern
  deprecatedPrefixes : Bool := false
deriving DecidableEq, Repr, Inhabited

/-- The choices of a simulated launch, files apart. -/
structure SimulationChoices where
  roles : List String := []
  custom : List (String × String) := []
  redirectUri : Option String := none
  state : String := "simulated-state"
  nonce : String := "simulated-nonce"
deriving DecidableEq, Repr, Inhabited

inductive Command where
  | toClaims (input : String)
  | toParameters (input : String)
  | contentItems (input : String)
  | roles (query : TermQuery)
  | contextTypes (query : TermQuery)
  | keySet (config : String)
  | simulate (config registration user : String) (choices : SimulationChoices)
deriving DecidableEq, Repr, Inhabited

inductive CommandName where
  | toClaims
  | toParameters
  | contentItems
  | roles
  | contextTypes
  | keySet
  | simulate
deriving DecidableEq, Repr, Inhabited

namespace CommandName

def text : CommandName → String
  | toClaims => "to-claims"
  | toParameters => "to-params"
  | contentItems => "content-items"
  | roles => "roles"
  | contextTypes => "context-types"
  | keySet => "jwks"
  | simulate => "simulate"

def all : List CommandName :=
  [toClaims, toParameters, contentItems, roles, contextTypes, keySet, simulate]

def ofText? (word : String) : Option CommandName := all.find? (·.text == word)

def options : CommandName → List CommandOption
  | toClaims | toParameters | contentItems => CommandOption.general
  | roles | contextTypes => .target :: .deprecatedPrefixes :: CommandOption.general
  | keySet => .config :: CommandOption.general
  | simulate =>
    [.config, .registration, .user, .role, .custom, .redirectUri, .state, .nonce] ++
      CommandOption.general

/-- Whether the operands could be those of the command, or the first of them. -/
def accepts (name : CommandName) (operands : List String) : Bool :=
  match name with
  | toClaims | toParameters | contentItems => operands.length ≤ 1 && operands.all (· != "")
  | roles | contextTypes => true
  | keySet | simulate => operands.isEmpty

end CommandName

namespace Command

/-- The path that stands for the program's own input. -/
def standardInput : String := "-"

def query? (reading : Reading) : Option TermQuery :=
  if reading.operands.isEmpty then none
  else some {
    values := reading.operands
    target := ((reading.value? .target).bind VocabularyForm.ofName?).getD .modern
    deprecatedPrefixes := reading.has .deprecatedPrefixes }

/-- The path of the configuration, which the environment may give as well. -/
def config? (environment : Entries String) (reading : Reading) : Option String :=
  ((reading.value? .config).or (environment.get? CommandOption.configVariable)).filter (· != "")

def simulation? (environment : Entries String) (reading : Reading) : Option Command := do
  let config ← config? environment reading
  let registration ← reading.value? .registration
  let user ← reading.value? .user
  let usual : SimulationChoices := {}
  some <| simulate config registration user {
    roles := reading.values .role
    custom := (reading.values .custom).filterMap CommandOption.customPair?
    redirectUri := reading.value? .redirectUri
    state := (reading.value? .state).getD usual.state
    nonce := (reading.value? .nonce).getD usual.nonce }

def ofReading? (environment : Entries String) (name : CommandName) (reading : Reading) :
    Option Command :=
  let input := reading.operands.headD standardInput
  match name with
  | .toClaims => some (toClaims input)
  | .toParameters => some (toParameters input)
  | .contentItems => some (contentItems input)
  | .roles => (query? reading).map roles
  | .contextTypes => (query? reading).map contextTypes
  | .keySet => (config? environment reading).map keySet
  | .simulate => simulation? environment reading

end Command

/-- How a command reports. -/
structure ReportStyle where
  format : OutputFormat := .human
  colored : Bool := true
  verbose : Bool := false
deriving DecidableEq, Repr, Inhabited

namespace ReportStyle

/-- What stands behind the command wins over what stands before it. -/
def ofReadings (before behind : Reading) : ReportStyle where
  format :=
    (((behind.value? .format).or (before.value? .format)).bind OutputFormat.ofName?).getD .human
  colored := !(before.has .noColor || behind.has .noColor)
  verbose := before.has .verbose || behind.has .verbose

end ReportStyle

inductive Request where
  | help
  | version
  | perform (style : ReportStyle) (command : Command)
deriving DecidableEq, Repr, Inhabited

namespace Request

/-- The words behind a command's name. -/
def ofCommandWords? (environment : Entries String) (before : Reading) (name : CommandName)
    (words : List String) : Option Request := do
  let reading ← (Reading.ofWords? name.options false words).filter (name.accepts ·.operands)
  if reading.has .help then some help
  else
    let command ← Command.ofReading? environment name reading
    some (perform (.ofReadings before reading) command)

/-- The word that asks for help in place of a command. -/
def helpWord : String := "help"

def ofWords? (environment : Entries String) (words : List String) : Option Request := do
  let before ← Reading.ofWords? (.version :: CommandOption.general) true words
  if before.has .version then some version
  else if before.has .help then some help
  else
    match before.operands with
    | [] => none
    | word :: rest =>
      if word = helpWord then
        match rest with
        | [] => some help
        | [topic] => if topic = helpWord ∨ (CommandName.ofText? topic).isSome then some help else none
        | _ => none
      else
        let name ← CommandName.ofText? word
        ofCommandWords? environment before name rest

end Request

end LtiPlatform
