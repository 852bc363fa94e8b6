import LtiPlatform.Settings.Toml
import LtiPlatform.Settings.Yaml
import LtiPlatform.Json.Parser

namespace LtiPlatform

/-- The formats of configuration files. -/
inductive SettingsFormat where
  | toml
  | yaml
  | json
deriving DecidableEq, Repr, Inhabited

namespace SettingsFormat

/-- The last part of a path, less blank and single-point parts. -/
def fileName? (path : String) : Option String :=
  ((Text.split '/' path).filter fun part => part != "" && part != ".").getLast?

/-- What follows the last point of a file name, if the name has a point after its beginning. -/
def extension? (path : String) : Option String := do
  let name ← fileName? path
  let pieces := Text.split '.' name
  if name = ".." ∨ pieces.length < 2 ∨ pieces.dropLast = [""] then none else pieces.getLast?

def ofPath? (path : String) : Option SettingsFormat :=
  match extension? path with
  | some "toml" => some toml
  | some "yaml" => some yaml
  | some "yml" => some yaml
  | some "json" => some json
  | _ => none

/-- A mark of the byte order at the beginning of a file does not count. -/
def withoutMark (text : String) : String := (Text.dropPrefix? "\uFEFF" text).getD text

/-- The members of the table that a file consists of. -/
def parse? (format : SettingsFormat) (text : String) : Option (Entries Setting) :=
  let text := withoutMark text
  match format with
  | toml => Toml.parse? text
  | yaml =>
    match Yaml.parse? text with
    | some (.table members) => some members
    | _ => none
  | json =>
    match (Json.parse? text).map Setting.ofJson with
    | some (.table members) => some members
    | _ => none

end SettingsFormat

end LtiPlatform
