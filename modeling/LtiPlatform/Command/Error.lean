import LtiPlatform.Launch.Error
import LtiPlatform.Settings.Platform

namespace LtiPlatform

/-- Why a command failed. -/
inductive CommandError where
  | launch (cause : LaunchError)
  | settings (cause : SettingsError)
  | token (cause : TokenError)
  | contentItems (cause : ContentItemError)
  | input (path : String) (cause : FileError)
  | invalidArguments (detail : String)
  | json
  | io (cause : FileError)
deriving DecidableEq, Repr, Inhabited

namespace CommandError

def message : CommandError → String
  | launch cause => "Launch error: " ++ cause.message
  | settings cause => "Config error: " ++ cause.message
  | token cause => "Token error: " ++ cause.message
  | contentItems cause => "Content item error: " ++ cause.message
  | input path cause => "Cannot read " ++ path ++ ": " ++ cause.message
  | invalidArguments detail => "Invalid arguments: " ++ detail
  | json => "JSON error: not of the expected form"
  | io cause => "I/O error: " ++ cause.message

def jsonSuggestions : List String :=
  ["Flat parameters must be a JSON object of strings", "Claims must be a JSON object"]

/-- What the reader of the message might try. -/
def suggestions : CommandError → List String
  | settings _ =>
    ["Check that the config file exists and ends in .toml, .yaml or .json",
      "Check that private_key_path points to a readable PEM file",
      "Environment overrides use the LTI_LAUNCH__ prefix"]
  | launch _ =>
    ["Check that the registration lists the redirect URI",
      "Check that the registration client_id matches"]
  | json => jsonSuggestions
  | contentItems _ => jsonSuggestions
  | input _ _ => ["Use '-' to read from stdin"]
  | _ => []

end CommandError

end LtiPlatform
