import LtiPlatform.Json.Written
import LtiPlatform.Text.Reader

namespace LtiPlatform.Json

namespace Reader

open LtiPlatform.Reader

def isSpace (c : Char) : Bool := c == ' ' || c == '\t' || c == '\n' || c == '\r'

def skipSpace (chars : List Char) : List Char := chars.dropWhile isSpace

def codeUnit : Reader Nat := hexDigits 4

def isHighSurrogate (unit : Nat) : Bool := 0xD800 ≤ unit && unit < 0xDC00

def isLowSurrogate (unit : Nat) : Bool := 0xDC00 ≤ unit && unit < 0xE000

/-- The code written after a backslash. -/
def escape : Reader Nat
  | [] => none
  | c :: rest =>
    match c with
    | '"' => some ('"'.toNat, rest)
    | '\\' => some ('\\'.toNat, rest)
    | '/' => some ('/'.toNat, rest)
    | 'b' => some (0x08, rest)
    | 'f' => some (0x0c, rest)
    | 'n' => some (0x0a, rest)
    | 'r' => some (0x0d, rest)
    | 't' => some (0x09, rest)
    | 'u' => codeUnit rest
    | _ => none

/-- The characters of codes of which some may be halves of surrogate pairs; none if a half is
alone. -/
def characters? : List Nat → Option (List Char)
  | [] => some []
  | [code] => if isHighSurrogate code || isLowSurrogate code then none else some [.ofNat code]
  | code :: next :: rest =>
    if isHighSurrogate code then
      if isLowSurrogate next then
        (characters? rest).map
          (Char.ofNat (0x10000 + (code - 0xD800) * 0x400 + (next - 0xDC00)) :: ·)
      else none
    else if isLowSurrogate code then none
    else (characters? (next :: rest)).map (Char.ofNat code :: ·)

/-- The rest of a string up to its closing quote, after the codes `read` in reverse. The number of
steps is bounded by the number of characters. -/
def stringBody : Nat → List Nat → Reader (Option String)
  | 0, _, _ => none
  | _ + 1, _, [] => none
  | steps + 1, read, c :: rest =>
    if c = '"' then some ((characters? read.reverse).map String.ofList, rest)
    else if c = '\\' then do
      let (code, rest) ← escape rest
      stringBody steps (code :: read) rest
    else if c.toNat < 0x20 then none
    else stringBody steps (c.toNat :: read) rest

def stringLiteral : Reader (Option String) := fun chars => do
  let rest ← expect '"' chars
  stringBody (rest.length + 1) [] rest

/-- The digits of a whole part: a lone zero, or digits that do not start with one. -/
def wholeDigits : Reader (List Char) := fun chars =>
  match digits chars with
  | ([], _) => none
  | ('0' :: _ :: _, _) => none
  | found => some found

def fractionDigits : Reader (List Char)
  | '.' :: rest =>
    match digits rest with
    | ([], _) => none
    | found => some found
  | chars => some ([], chars)

/-- Takes digits into a word of 64 bits as long as they fit, and gives the word and the digits left. -/
def takeDigits (word : Nat) : List Char → Nat × List Char
  | [] => (word, [])
  | c :: rest =>
    let next := 10 * word + (c.toNat - '0'.toNat)
    if next < 0x10000000000000000 then takeDigits next rest else (word, c :: rest)

/-- A word for the digits and the power of ten that goes with it. Digits of the whole part that do not
fit count as zeros, and those of the fraction as nothing; the word goes on with the fraction even where
digits of the whole part were left out. -/
def wordOf (whole fraction : List Char) : Nat × Int :=
  let (word, zeros) := takeDigits 0 whole
  let (word, ignored) := takeDigits word fraction
  (word, (zeros.length : Int) - (fraction.length - ignored.length))

/-- A number without fraction and exponent is exact where it fits; minus zero and all others are
doubles, and one that is too great for a double is no number. A double is not always the nearest one. -/
def numberOf (negative : Bool) (whole fraction : List Char) (exponent : Option Int) :
    Option JsonNumber :=
  let value : Int := Text.digitsValue whole
  let signed := if negative then -value else value
  if fraction.isEmpty ∧ exponent.isNone ∧ JsonNumber.isExact signed ∧
      ¬ (negative ∧ value = 0) then
    some (.integer signed)
  else
    let (word, place) := wordOf whole fraction
    (Binary64.scaled? negative word (place + exponent.getD 0)).map .double

def numberLiteral : Reader (Option JsonNumber) := fun chars => do
  let (negative, rest) :=
    match chars with
    | '-' :: rest => (true, rest)
    | _ => (false, chars)
  let (whole, rest) ← wholeDigits rest
  let (fraction, rest) ← fractionDigits rest
  let (exponent, rest) ← exponentPart rest
  some (numberOf negative whole fraction exponent, rest)

def word (text : List Char) (value : WrittenJson) : Reader WrittenJson := fun chars =>
  (text.isPrefixOf? chars).map fun rest => (value, rest)

/-- A value that is neither array nor object. -/
def scalar : Reader WrittenJson
  | [] => none
  | c :: rest =>
    match c with
    | '"' => (stringBody (rest.length + 1) [] rest).map fun (text, rest) => (.string text, rest)
    | 'n' => word ['u', 'l', 'l'] .null rest
    | 't' => word ['r', 'u', 'e'] (.bool true) rest
    | 'f' => word ['a', 'l', 's', 'e'] (.bool false) rest
    | _ => (numberLiteral (c :: rest)).map fun (value, rest) => (.number value, rest)

/-- Items separated by commas up to a closing character. The number of steps is bounded by the
number of characters, since no item is empty. -/
def itemsUntil {α : Type} (closing : Char) (item : Reader α) : Nat → Reader (List α)
  | 0, _ => none
  | steps + 1, chars => do
    let (value, rest) ← item (skipSpace chars)
    match skipSpace rest with
    | [] => none
    | c :: rest =>
      if c = closing then some ([value], rest)
      else if c = ',' then
        let (values, rest) ← itemsUntil closing item steps rest
        some (value :: values, rest)
      else none

/-- What stands between an opening bracket that was just read and its closing one. -/
def sequence {α : Type} (closing : Char) (item : Reader α) : Reader (List α) := fun chars =>
  match skipSpace chars with
  | [] => none
  | c :: rest =>
    if c = closing then some ([], rest)
    else itemsUntil closing item ((c :: rest).length) (c :: rest)

def member (value : Reader WrittenJson) : Reader (Option String × WrittenJson) := fun chars => do
  let (name, rest) ← stringLiteral chars
  let rest ← expect ':' (skipSpace rest)
  let (value, rest) ← value (skipSpace rest)
  some ((name, value), rest)

/-- A value with at most `depth` levels of arrays and objects. -/
def value : (depth : Nat) → Reader WrittenJson
  | 0, chars => scalar chars
  | depth + 1, chars =>
    match chars with
    | '[' :: rest =>
      (sequence ']' (value depth) rest).map fun (items, rest) => (.array items, rest)
    | '\x7b' :: rest =>
      (sequence '\x7d' (member (value depth)) rest).map fun (members, rest) =>
        (.object members, rest)
    | _ => scalar chars

/-- Accepts what was read if only white space follows. -/
def whole {α : Type} (reader : Reader α) (text : String) : Option α :=
  match reader (skipSpace text.toList) with
  | some (value, rest) => if (skipSpace rest).isEmpty then some value else none
  | none => none

end Reader

mutual

/-- In every object a repeated name keeps its first place and its last value. -/
def settle : Json → Json
  | array items => array (settleItems items)
  | object members => .ofMap (.ofList (settleMembers members))
  | scalar => scalar

def settleItems : List Json → List Json
  | [] => []
  | item :: rest => settle item :: settleItems rest

def settleMembers : List (String × Json) → List (String × Json)
  | [] => []
  | (name, value) :: rest => (name, settle value) :: settleMembers rest

end

/-- The value that a text writes, repeated names and all. Its levels are fewer than its characters. -/
def written? (text : String) : Option WrittenJson :=
  Reader.whole (Reader.value text.length) text

/-- Reads a text with at most `depth` nested arrays and objects, repeated names as they are written. -/
def parseWritten? (depth : Nat) (text : String) : Option Json :=
  (written? text).bind (·.toJson? depth)

def depthLimit : Nat := 127

/-- The name that an object begins with if it is not meant as an object, but for the value of a text. -/
def rawName : String := "$serde_json::private::RawValue"

def isRaw : List (String × Json) → Bool
  | [] => false
  | (name, _) :: _ => name == rawName

/-- The text that such an object is for, which has to be its only member. -/
def rawText? : List (String × Json) → Option String
  | [(_, string text)] => some text
  | _ => none

mutual

/-- Puts the value of its text in the place of every object that is for a text. -/
def unwrap? (read? : String → Option Json) : Json → Option Json
  | array items => (unwrapItems? read? items).map array
  | object members =>
    if isRaw members then (rawText? members).bind read?
    else (unwrapMembers? read? members).map object
  | scalar => some scalar

def unwrapItems? (read? : String → Option Json) : List Json → Option (List Json)
  | [] => some []
  | item :: rest => do
    let item ← unwrap? read? item
    let rest ← unwrapItems? read? rest
    some (item :: rest)

def unwrapMembers? (read? : String → Option Json) :
    List (String × Json) → Option (List (String × Json))
  | [] => some []
  | (name, value) :: rest => do
    let value ← unwrap? read? value
    let rest ← unwrapMembers? read? rest
    some ((name, value) :: rest)

end

/-- Reads a text, the texts that its objects are for, and so on for as many turns. -/
def parseWithin? : (turns : Nat) → String → Option Json
  | 0, _ => none
  | turns + 1, text =>
    ((parseWritten? depthLimit text).bind (unwrap? (parseWithin? turns))).map settle

/-- The value of a text. A text inside it is shorter than it is, so there are turns enough. -/
def parse? (text : String) : Option Json := parseWithin? (text.length + 1) text

/-- The members of an object that was read, which itself is always meant as an object. -/
def mapOf? (members : List (String × Json)) : Option (OrderedMap Json) :=
  (unwrapMembers? parse? members).map fun members => .ofList (settleMembers members)

/-- The members of the object that a text writes. -/
def parseMap? (text : String) : Option (OrderedMap Json) :=
  match parseWritten? depthLimit text with
  | some (object members) => mapOf? members
  | _ => none

end LtiPlatform.Json
