namespace LtiPlatform

/-- Bright colours of a terminal. -/
inductive Color where
  | gray
  | red
  | green
  | yellow
  | blue
  | cyan
deriving DecidableEq, Repr, Inhabited

namespace Color

def code : Color → String
  | gray => "90"
  | red => "91"
  | green => "92"
  | yellow => "93"
  | blue => "94"
  | cyan => "96"

/-- The text in a colour, after which the usual one is chosen again. -/
def paint (color : Color) (text : String) : String :=
  "\x1b[" ++ color.code ++ "m" ++ text ++ "\x1b[39m"

def paintBold (color : Color) (text : String) : String :=
  "\x1b[1m" ++ color.paint text ++ "\x1b[0m"

end Color

end LtiPlatform
