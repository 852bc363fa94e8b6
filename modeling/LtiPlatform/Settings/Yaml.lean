import LtiPlatform.Settings.Yaml.Document
import LtiPlatform.Settings.Yaml.Tokens

namespace LtiPlatform.Yaml

/-- A text without a document stands for an empty mapping. -/
def parse? (text : String) : Option Setting := do
  let tokens ← tokens? text
  match ← Build.document.run' { tokens } with
  | none => some (.table [])
  | some node => node.setting?

end LtiPlatform.Yaml
