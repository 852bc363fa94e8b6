import LtiPlatform.Text.GraphemeExtend
import LtiPlatform.Text.Unprintable

namespace LtiPlatform.Text

/-- Whether a character shows a mark of its own. -/
def isVisible (c : Char) : Bool := isPrintable c && !extendsGrapheme c

def quotedChar (c : Char) : List Char :=
  match c with
  | '\x00' => ['\\', '0']
  | '\t' => ['\\', 't']
  | '\r' => ['\\', 'r']
  | '\n' => ['\\', 'n']
  | '\\' => ['\\', '\\']
  | '"' => ['\\', '"']
  | _ =>
    if isVisible c then [c]
    else "\\u\x7b".toList ++ Nat.toDigits 16 c.toNat ++ ['\x7d']

def quoted (text : String) : String :=
  "\"" ++ .ofList (text.toList.flatMap quotedChar) ++ "\""

end LtiPlatform.Text
