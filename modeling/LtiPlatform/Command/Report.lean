import LtiPlatform.Command.Error
import LtiPlatform.Command.Request
import LtiPlatform.Launch.Message
import LtiPlatform.Report.Color
import LtiPlatform.Report.Table
import LtiPlatform.Report.Yaml

namespace LtiPlatform

/-- A text and what it is called in the vocabulary asked for, if anything. -/
abbrev Counterpart := String × Option String

/-- What stands where there is nothing. -/
def missingMark : String := "-"

namespace Json

def ofParameters (parameters : Parameters) : Json := .ofMap (parameters.map fun _ => .string)

def ofCounterparts (counterparts : List Counterpart) : Json :=
  .array (counterparts.map fun counterpart => .ofOption counterpart.2)

/-- The response and the claims of the id token in it. -/
def ofLaunch (response : AuthenticationResponse) (claims : Claims) : Json :=
  .object [("response", response.toJson), ("claims", .ofMap claims)]

end Json

namespace Table

def ofParameters (parameters : Parameters) : Table where
  header := ["Parameter", "Value"]
  rows := parameters.entries.map fun (name, value) => [name, value]

def ofCounterparts (counterparts : List Counterpart) : Table where
  header := ["Input", "Output"]
  rows := counterparts.map fun (input, output) => [input, output.getD missingMark]

end Table

namespace ReportStyle

def paint (style : ReportStyle) (color : Color) (text : String) : String :=
  if style.colored then color.paint text else text

def paintBold (style : ReportStyle) (color : Color) (text : String) : String :=
  if style.colored then color.paintBold text else text

def heading (style : ReportStyle) (title : String) : String :=
  let underline := String.ofList (List.replicate title.length '=')
  "\n" ++ style.paintBold .cyan title ++ "\n" ++ style.paint .cyan underline ++ "\n"

def pair (style : ReportStyle) (name value : String) : String :=
  "  " ++ style.paintBold .green name ++ ": " ++ value ++ "\n"

/-- A value as JSON, on one line only if the format says so, or as YAML. -/
def value (style : ReportStyle) (json : Json) : String :=
  match style.format with
  | .compact => json.compact ++ "\n"
  | .yaml => YamlText.document json ++ "\n"
  | _ => json.pretty ++ "\n"

def parameters (style : ReportStyle) (parameters : Parameters) : String :=
  match style.format with
  | .human =>
    if parameters.isEmpty then style.paint .blue "No parameters" ++ "\n"
    else
      let pairs := parameters.entries.map fun (name, value) => style.pair name value
      let total := "Total: " ++ toString parameters.size ++ " parameters"
      style.heading "Launch Parameters" ++ String.join pairs ++
        "\n" ++ style.paint .gray total ++ "\n"
  | .table => (Table.ofParameters parameters).render ++ "\n"
  | _ => style.value (.ofParameters parameters)

def counterparts (style : ReportStyle) (counterparts : List Counterpart) : String :=
  match style.format with
  | .human => String.join <| counterparts.map fun (input, output) =>
      style.pair input (output.getD (style.paint .gray missingMark))
  | .table => (Table.ofCounterparts counterparts).render ++ "\n"
  | _ => style.value (.ofCounterparts counterparts)

/-- The form that the tool is sent, and the claims in it. -/
def launch (style : ReportStyle) (response : AuthenticationResponse) (claims : Claims) : String :=
  if style.format = .human ∨ style.format = .table then
    style.heading "Form Post" ++
      style.pair "redirect_uri" response.redirectUri ++
      style.pair "state" (response.state.getD missingMark) ++
      style.pair "id_token" response.idToken ++
      style.heading "Claims" ++
      style.value (.ofMap claims)
  else style.value (.ofLaunch response claims)

def error (style : ReportStyle) (cause : CommandError) : String :=
  let suggestions := cause.suggestions.map fun suggestion =>
    "  " ++ style.paint .blue "•" ++ " " ++ suggestion ++ "\n"
  let advice :=
    if suggestions.isEmpty then ""
    else "\n" ++ style.paintBold .yellow "Suggestions:" ++ "\n" ++ String.join suggestions
  style.paintBold .red "Error" ++ ": " ++ cause.message ++ "\n" ++ advice

end ReportStyle

end LtiPlatform
