import LtiPlatform.Double
import LtiPlatform.Json.Printer

namespace LtiPlatform.YamlText

def isBreak (c : Char) : Bool :=
  c == '\n' || c == '\r' || c.toNat == 0x85 || c.toNat == 0x2028 || c.toNat == 0x2029

/-- Whether a character ends a word, or nothing follows. -/
def endsWord (rest : List Char) : Bool :=
  rest.head?.all fun c => c == ' ' || c == '\t' || c == '\x00' || isBreak c

def isPrintable (c : Char) : Bool :=
  let code := c.toNat
  code == 0x0a || (0x20 ≤ code && code ≤ 0x7e) ||
    (0xa0 ≤ code && code != 0xfeff && code != 0xfffe && code != 0xffff)

def indicators : List Char :=
  ['#', ',', '[', ']', '\x7b', '\x7d', '&', '*', '!', '|', '>', '\'', '"', '%', '@', '\x60']

/-- Whether the beginning would be taken for a mark. -/
def startsAsMark (chars : List Char) : Bool :=
  match chars with
  | [] => false
  | c :: rest =>
    indicators.contains c || ((c == '-' || c == '?' || c == ':') && endsWord rest) ||
      ['-', '-', '-'].isPrefixOf chars || ['.', '.', '.'].isPrefixOf chars

/-- Whether a key or a comment would be seen within the text; the flag says that the preceding
character ends a word. -/
def holdsMark : Bool → List Char → Bool
  | _, [] => false
  | afterWord, c :: rest =>
    (c == ':' && endsWord rest) || (c == '#' && afterWord) || holdsMark (endsWord [c]) rest

def hasPair (first second : Char → Bool) : List Char → Bool
  | a :: b :: rest => (first a && second b) || hasPair first second (b :: rest)
  | _ => false

def isBlank (c : Char) : Bool := c == ' '

def isSpecial (chars : List Char) : Bool := chars.any fun c => !isPrintable c

def allowsPlain (chars : List Char) : Bool :=
  let outer (c : Char) : Bool := isBlank c || isBreak c
  !(startsAsMark chars || holdsMark true chars || chars.head?.any outer ||
    chars.getLast?.any outer || chars.any isBreak || isSpecial chars)

def allowsSingle (chars : List Char) : Bool :=
  !(isSpecial chars || hasPair isBreak isBlank chars || hasPair isBlank isBreak chars)

def allowsLiteral (chars : List Char) : Bool :=
  !(isSpecial chars || hasPair isBlank isBreak chars || chars.getLast?.any isBlank)

def isRadixDigit (base : Nat) (c : Char) : Bool := (Reader.hexValue? c).any (· < base)

/-- Digits with a prefix for their base, below `limit`. -/
def isCoded (limit : Nat) : List Char → Bool
  | '0' :: mark :: digits =>
    let base := if mark == 'x' then 16 else if mark == 'o' then 8 else if mark == 'b' then 2 else 0
    let value := digits.foldl (fun value c => base * value + (Reader.hexValue? c).getD 0) 0
    !digits.isEmpty && digits.all (isRadixDigit base) && value < limit
  | _ => false

/-- Several digits of which the first is zero. -/
def hasLeadingZero (chars : List Char) : Bool :=
  match (Double.signed chars).2 with
  | '0' :: c :: rest => (c :: rest).all Text.isDigit
  | _ => false

def isNumber (chars : List Char) : Bool :=
  let unsigned :=
    match chars with
    | '+' :: rest => if (Double.signed rest).2 == rest then rest else []
    | _ => chars
  let negative :=
    match chars with
    | '-' :: rest => isCoded (Nat.pow 2 127 + 1) rest
    | _ => false
  let isFinite :=
    match Double.ofText? (.ofList unsigned) with
    | some (.finite _) => true
    | _ => false
  isCoded (Nat.pow 2 128) unsigned || negative || isFinite

def otherWords : List String :=
  ["", "~", "null", "Null", "NULL", "true", "True", "TRUE", "false", "False", "FALSE", ".inf", ".Inf",
    ".INF", "+.inf", "+.Inf", "+.INF", "-.inf", "-.Inf", "-.INF", ".nan", ".NaN", ".NAN"]

def readsAsOther (text : String) : Bool :=
  otherWords.contains text || hasLeadingZero text.toList || isNumber text.toList

inductive Style where
  | plain
  | single
  | double
  | literal
deriving DecidableEq, Repr, Inhabited

/-- Several lines make a block of literal lines; all else is plain if it can be, or else in single
quotes; and what neither can hold is written with escapes in double quotes. -/
def styleOf (text : String) : Style :=
  let chars := text.toList
  let quoted := if allowsSingle chars then Style.single else .double
  if chars.contains '\n' then (if allowsLiteral chars then .literal else .double)
  else if readsAsOther text then quoted
  else if allowsPlain chars then .plain
  else quoted

def indentation (indent : Nat) : List Char := List.replicate indent ' '

/-- Indents what follows a line break, unless it is another break; the flag says that a break came
before. -/
def indented (indent : Nat) : Bool → List Char → List Char
  | _, [] => []
  | afterBreak, c :: rest =>
    if isBreak c then c :: indented indent true rest
    else (if afterBreak then indentation indent else []) ++ c :: indented indent false rest

def singleQuoted (indent : Nat) (chars : List Char) : List Char :=
  let doubled := chars.flatMap fun c => if c == '\'' then ['\'', '\''] else [c]
  '\'' :: indented indent false (doubled ++ ['\''])

def hexDigits (count code : Nat) : List Char :=
  let digits := (Nat.toDigits 16 code).map Char.toUpper
  List.replicate (count - digits.length) '0' ++ digits

def escaped (c : Char) : List Char :=
  let code := c.toNat
  match code with
  | 0x00 => ['\\', '0']
  | 0x07 => ['\\', 'a']
  | 0x08 => ['\\', 'b']
  | 0x09 => ['\\', 't']
  | 0x0a => ['\\', 'n']
  | 0x0b => ['\\', 'v']
  | 0x0c => ['\\', 'f']
  | 0x0d => ['\\', 'r']
  | 0x1b => ['\\', 'e']
  | 0x22 => ['\\', '"']
  | 0x5c => ['\\', '\\']
  | 0x85 => ['\\', 'N']
  | 0x2028 => ['\\', 'L']
  | 0x2029 => ['\\', 'P']
  | _ =>
    if isPrintable c then [c]
    else if code ≤ 0xff then '\\' :: 'x' :: hexDigits 2 code
    else if code ≤ 0xffff then '\\' :: 'u' :: hexDigits 4 code
    else '\\' :: 'U' :: hexDigits 8 code

/-- The marks behind the bar: a column where the first line begins with white space, and what becomes
of the line breaks at the end. -/
def literalMarks (chars : List Char) : List Char :=
  let column := if chars.head?.any fun c => isBlank c || isBreak c then ['2'] else []
  let ending :=
    match chars.reverse with
    | [] => ['-']
    | [last] => if isBreak last then ['+'] else ['-']
    | last :: before :: _ =>
      if !isBreak last then ['-'] else if isBreak before then ['+'] else []
  column ++ ending

/-- A text whose further lines are indented. -/
def scalar (indent : Nat) (text : String) : String :=
  let chars := text.toList
  .ofList <|
    match styleOf text with
    | .plain => chars
    | .single => singleQuoted indent chars
    | .double => '"' :: chars.flatMap escaped ++ ['"']
    | .literal => '|' :: literalMarks chars ++ '\n' :: indented indent true chars

/-- A short key on one line stands before its colon; any other key has a mark of its own. -/
def isSimpleKey (key : String) : Bool := key.utf8ByteSize ≤ 128 && !key.toList.any isBreak

def spaces (indent : Nat) : String := .ofList (indentation indent)

/-- A line break, unless the text ends with one. -/
def endLine (text : String) : String :=
  if text.toList.getLast?.any isBreak then text else text ++ "\n"

/-- Pieces below each other at one column, at which the first one stands already. -/
def stacked (indent : Nat) : List String → String
  | [] => ""
  | [piece] => piece
  | piece :: rest => endLine piece ++ spaces indent ++ stacked indent rest

def number : JsonNumber → String
  | .integer value => toString value
  | .double value => value.withExponent ""

mutual

/-- A value that begins where the writing stands, with what it has on further lines indented. -/
def node (indent : Nat) : Json → String
  | .null => "null"
  | .bool value => if value then "true" else "false"
  | .number value => number value
  | .string value => scalar indent value
  | .array [] => "[]"
  | .object [] => "\x7b\x7d"
  | .array (item :: rest) => stacked indent (items indent (item :: rest))
  | .object (first :: rest) => stacked indent (members indent (first :: rest))

def items (indent : Nat) : List Json → List String
  | [] => []
  | item :: rest => ("- " ++ node (indent + 2) item) :: items indent rest

def members (indent : Nat) : List (String × Json) → List String
  | [] => []
  | (key, value) :: rest =>
    let piece :=
      if isSimpleKey key then scalar (indent + 2) key ++ ":" ++ valueAfterKey indent value
      else
        endLine ("? " ++ scalar (indent + 2) key) ++ spaces indent ++ ": " ++
          node (indent + 2) value
    piece :: members indent rest

/-- A member's value: on the line of its key, or below it. -/
def valueAfterKey (indent : Nat) : Json → String
  | .null => " null"
  | .bool value => if value then " true" else " false"
  | .number value => " " ++ number value
  | .string value => " " ++ scalar (indent + 2) value
  | .array [] => " []"
  | .object [] => " \x7b\x7d"
  | .array (item :: rest) => "\n" ++ spaces indent ++ stacked indent (items indent (item :: rest))
  | .object (first :: rest) =>
    "\n" ++ spaces (indent + 2) ++ stacked (indent + 2) (members (indent + 2) (first :: rest))

end

/-- A document that ends with a line break. A text that is the whole document is indented as if it
were a member. -/
def document (value : Json) : String :=
  endLine <|
    match value with
    | .string text => scalar 2 text
    | _ => node 0 value

end LtiPlatform.YamlText
