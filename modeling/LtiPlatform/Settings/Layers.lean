import LtiPlatform.Settings.Path
import LtiPlatform.Text.LetterCase

namespace LtiPlatform

/-- Variables of the environment. One belongs to the configuration if its name begins with a given word; two underscores
stand for the step from a table to a member. -/
abbrev Environment := Entries String

namespace Setting

def separator : String := "__"

/-- Puts a point for every separator, from the left. -/
def withPoints : List Char → List Char
  | '_' :: '_' :: rest => '.' :: withPoints rest
  | c :: rest => c :: withPoints rest
  | [] => []

/-- What is left behind so many bytes. -/
def dropBytes : Nat → List Char → List Char
  | 0, chars => chars
  | _, [] => []
  | count, c :: rest => dropBytes (count - c.utf8Size) rest

/-- The path at which a variable sets its value, in lower case. -/
def variablePath? (start key : String) : Option String :=
  let start := Text.lowercase (start ++ separator)
  if Text.isPrefix start (Text.lowercase key) then
    let rest := dropBytes start.utf8ByteSize key.toList
    some (Text.lowercase (.ofList (withPoints rest)))
  else none

/-- What the variables of the environment set, in their order. -/
def ofEnvironment (start : String) (environment : Environment) : List (String × Setting) :=
  environment.filterMap fun (key, value) =>
    (variablePath? start key).map fun path => (path, ofText value)

/-- Sets each value at its path in a configuration. -/
def layer (above : List (String × Setting)) (below : Setting) : Setting :=
  above.foldl (fun setting (path, value) => putAt value (PathStep.ofText path) setting) below

/-- The members of a file with those of the environment above them. -/
def layered (file : Entries Setting) (start : String) (environment : Environment) :
    Entries Setting :=
  (layer (ofEnvironment start environment) (layer file (table []))).members

end Setting

end LtiPlatform
