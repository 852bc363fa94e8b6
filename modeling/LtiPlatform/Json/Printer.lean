import LtiPlatform.Json.Basic
import LtiPlatform.Binary64.Notation

namespace LtiPlatform

namespace JsonNumber

def toText : JsonNumber → String
  | integer value => toString value
  | double value => value.withExponent "+"

end JsonNumber

namespace Json

def hexDigit (n : Nat) : Char := (Nat.toDigits 16 n).headD '0'

/-- Quotes, backslashes and control characters are escaped, all else stands for itself. -/
def escapeChar (c : Char) : List Char :=
  match c with
  | '"' => ['\\', '"']
  | '\\' => ['\\', '\\']
  | '\x08' => ['\\', 'b']
  | '\x0c' => ['\\', 'f']
  | '\n' => ['\\', 'n']
  | '\r' => ['\\', 'r']
  | '\t' => ['\\', 't']
  | _ =>
    if c.toNat < 0x20 then
      ['\\', 'u', '0', '0', hexDigit (c.toNat / 16), hexDigit (c.toNat % 16)]
    else [c]

def quote (text : String) : String :=
  "\"" ++ .ofList (text.toList.flatMap escapeChar) ++ "\""

mutual

def compact : Json → String
  | null => "null"
  | bool value => if value then "true" else "false"
  | number value => value.toText
  | string value => quote value
  | array items => "[" ++ Text.joinWith "," (compactItems items) ++ "]"
  | object members => "\x7b" ++ Text.joinWith "," (compactMembers members) ++ "\x7d"

def compactItems : List Json → List String
  | [] => []
  | item :: rest => compact item :: compactItems rest

def compactMembers : List (String × Json) → List String
  | [] => []
  | (name, value) :: rest => (quote name ++ ":" ++ compact value) :: compactMembers rest

end

/-- Pieces on lines of their own between brackets, indented one level deeper than the brackets;
without pieces the brackets stand together. -/
def indentedBlock (indent : String) (opening closing : String) (pieces : List String) : String :=
  if pieces.isEmpty then opening ++ closing
  else
    let inner := indent ++ "  "
    opening ++ "\n" ++ inner ++ Text.joinWith (",\n" ++ inner) pieces ++ "\n" ++ indent ++ closing

mutual

def prettyAt (indent : String) : Json → String
  | null => "null"
  | bool value => if value then "true" else "false"
  | number value => value.toText
  | string value => quote value
  | array items => indentedBlock indent "[" "]" (prettyItems (indent ++ "  ") items)
  | object members => indentedBlock indent "\x7b" "\x7d" (prettyMembers (indent ++ "  ") members)

def prettyItems (indent : String) : List Json → List String
  | [] => []
  | item :: rest => prettyAt indent item :: prettyItems indent rest

def prettyMembers (indent : String) : List (String × Json) → List String
  | [] => []
  | (name, value) :: rest =>
    (quote name ++ ": " ++ prettyAt indent value) :: prettyMembers indent rest

end

def pretty (value : Json) : String := prettyAt "" value

end Json

end LtiPlatform
