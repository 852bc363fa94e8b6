import LtiPlatform.Text.Reader

namespace LtiPlatform.Yaml

/-- What a YAML text consists of. Collections are opened and closed by tokens of their own, also
where only the indentation shows it; properties carry the column at which they stand. -/
inductive Token where
  | version
  | handle (name : String) (expansion : String)
  | documentStart
  | documentEnd
  | blockSequence
  | blockMapping
  | blockEnd
  | flowSequence
  | flowSequenceEnd
  | flowMapping
  | flowMappingEnd
  | blockEntry
  | flowEntry
  | key
  | value
  | alias (name : String)
  | anchor (name : String) (column : Nat)
  | tag (handle suffix : String) (column : Nat)
  | scalar (isPlain : Bool) (text : String)
deriving DecidableEq, Repr, Inhabited

def isBlank (c : Char) : Bool := c == ' ' || c == '\t'

def isBreak (c : Char) : Bool := c == '\n' || c == '\r'

def isGap (c : Char) : Bool := isBlank c || isBreak c

/-- Brackets and the comma. -/
def isFlow (c : Char) : Bool := c == ',' || c == '[' || c == ']' || c == '\x7b' || c == '\x7d'

def isWordChar (c : Char) : Bool := c.isAlphanum || c == '_' || c == '-'

def isUriChar (c : Char) : Bool :=
  (isWordChar c && c != '_') || "#;/?:@&=+$,_.!~*'()[]%".toList.contains c

def isTagChar (c : Char) : Bool := isUriChar c && !isFlow c && c != '!'

def isAnchorChar (c : Char) : Bool := !isGap c && !isFlow c && c != '\ufeff'

/-- Whether a word ends before what follows. -/
def endsWord (rest : List Char) : Bool := rest.head?.all isGap

/-- Whether a line ends before what follows. -/
def endsLine (rest : List Char) : Bool := rest.head?.all isBreak

def startsWithFlow (rest : List Char) : Bool := rest.head?.any isFlow

/-- Whether what follows is the given word. -/
def isMarker (marker : String) (rest : List Char) : Bool :=
  marker.toList.isPrefixOf rest && endsWord (rest.drop marker.length)

def isDocumentMarker (rest : List Char) : Bool := isMarker "---" rest || isMarker "..." rest

end LtiPlatform.Yaml
