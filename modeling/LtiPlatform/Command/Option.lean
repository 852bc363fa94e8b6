import LtiPlatform.OrderedMap
import LtiPlatform.Text

namespace LtiPlatform

/-- How results are written. -/
inductive OutputFormat where
  | human
  | json
  | yaml
  | table
  | compact
deriving DecidableEq, Repr, Inhabited

namespace OutputFormat

def name : OutputFormat → String
  | human => "human"
  | json => "json"
  | yaml => "yaml"
  | table => "table"
  | compact => "compact"

def ofName? (name : String) : Option OutputFormat :=
  [human, json, yaml, table, compact].find? (·.name == name)

end OutputFormat

/-- The two sides of a vocabulary. -/
inductive VocabularyForm where
  | modern
  | legacy
deriving DecidableEq, Repr, Inhabited

namespace VocabularyForm

def name : VocabularyForm → String
  | modern => "modern"
  | legacy => "legacy"

def ofName? (name : String) : Option VocabularyForm := [modern, legacy].find? (·.name == name)

end VocabularyForm

/-- What follows an option. -/
inductive OptionKind where
  /-- Nothing follows. -/
  | switch
  /-- A value follows, and the option is given at most once. -/
  | single
  /-- A value follows, and the option may be given again. -/
  | repeated
  /-- Nothing follows, and no word behind the option counts. -/
  | final
deriving DecidableEq, Repr, Inhabited

inductive CommandOption where
  | format
  | verbose
  | noColor
  | help
  | version
  | target
  | deprecatedPrefixes
  | config
  | registration
  | user
  | role
  | custom
  | redirectUri
  | state
  | nonce
deriving DecidableEq, Repr, Inhabited

namespace CommandOption

def long : CommandOption → String
  | format => "format"
  | verbose => "verbose"
  | noColor => "no-color"
  | help => "help"
  | version => "version"
  | target => "to"
  | deprecatedPrefixes => "deprecated-prefixes"
  | config => "config"
  | registration => "registration"
  | user => "user"
  | role => "role"
  | custom => "custom"
  | redirectUri => "redirect-uri"
  | state => "state"
  | nonce => "nonce"

def short? : CommandOption → Option Char
  | format => some 'f'
  | verbose => some 'v'
  | help => some 'h'
  | version => some 'V'
  | target => some 't'
  | config => some 'c'
  | registration => some 'r'
  | user => some 'u'
  | _ => none

def kind : CommandOption → OptionKind
  | verbose | noColor | deprecatedPrefixes => .switch
  | help | version => .final
  | role | custom => .repeated
  | _ => .single

/-- The name and the value of a custom parameter, between which stands the first equals sign. -/
def customPair? (text : String) : Option (String × String) :=
  let name := Text.trim (.ofList (text.toList.takeWhile (· ≠ '=')))
  match text.toList.dropWhile (· ≠ '=') with
  | _ :: value => if name = "" then none else some (name, .ofList value)
  | [] => none

/-- Whether a text may be the value of an option. -/
def accepts (option : CommandOption) (value : String) : Bool :=
  match option with
  | format => (OutputFormat.ofName? value).isSome
  | target => (VocabularyForm.ofName? value).isSome
  | config | registration | user => value != ""
  | custom => (customPair? value).isSome
  | _ => true

/-- The options that stand before a command as well as behind it. -/
def general : List CommandOption := [format, verbose, noColor, help]

/-- A variable of the environment that may stand for the configuration's path. -/
def configVariable : String := "LTI_LAUNCH_CONFIG"

end CommandOption

end LtiPlatform
