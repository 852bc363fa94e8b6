import LtiPlatform.Settings.Toml.Moment
import LtiPlatform.Settings.Value

namespace LtiPlatform.Toml

open LtiPlatform.Reader

def isBlank (c : Char) : Bool := c == ' ' || c == '\t'

def skipBlanks (chars : List Char) : List Char := chars.dropWhile isBlank

/-- Characters that may stand in comments and strings of one line. -/
def isVisible (c : Char) : Bool := c == '\t' || (0x20 ≤ c.toNat && c.toNat != 0x7f)

def skipComment : List Char → List Char
  | '#' :: rest => rest.dropWhile isVisible
  | chars => chars

/-- What follows a line break. -/
def lineBreak : List Char → Option (List Char)
  | '\n' :: rest => some rest
  | '\r' :: '\n' :: rest => some rest
  | _ => none

/-- What follows the rest of a line that holds nothing more. -/
def endLine (chars : List Char) : Option (List Char) :=
  match skipComment (skipBlanks chars) with
  | [] => some []
  | rest => lineBreak rest

/-- Passes over blanks, comments and line breaks, at most so many. -/
def skipLines : Nat → List Char → List Char
  | 0, chars => chars
  | steps + 1, chars =>
    match skipComment (skipBlanks chars) with
    | [] => []
    | rest =>
      match lineBreak rest with
      | some rest => skipLines steps rest
      | none => rest

def skipToContent (chars : List Char) : List Char := skipLines chars.length chars

/-- The character of an escape, after the backslash. -/
def escape : Reader Char
  | [] => none
  | c :: rest =>
    let coded (count : Nat) : Option (Char × List Char) := do
      let (code, rest) ← hexDigits count rest
      if code.isValidChar then some (.ofNat code, rest) else none
    match c with
    | 'b' => some ('\x08', rest)
    | 't' => some ('\t', rest)
    | 'n' => some ('\n', rest)
    | 'f' => some ('\x0c', rest)
    | 'r' => some ('\r', rest)
    | 'e' => some ('\x1b', rest)
    | '"' => some ('"', rest)
    | '\\' => some ('\\', rest)
    | 'x' => coded 2
    | 'u' => coded 4
    | 'U' => coded 8
    | _ => none

/-- A string up to its closing quote, after the characters `read` in reverse. -/
def quotedBody : Nat → List Char → Reader String
  | 0, _, _ => none
  | steps + 1, read, chars =>
    match chars with
    | '"' :: rest => some (.ofList read.reverse, rest)
    | '\\' :: rest => do
      let (c, rest) ← escape rest
      quotedBody steps (c :: read) rest
    | c :: rest => if isVisible c then quotedBody steps (c :: read) rest else none
    | [] => none

def literalBody : Reader String := fun chars =>
  let (body, rest) := chars.span fun c => c != '\'' && isVisible c
  (expect '\'' rest).map fun rest => (.ofList body, rest)

/-- Passes over blanks and line breaks, at most so many. -/
def skipBreaks : Nat → List Char → List Char
  | 0, chars => chars
  | steps + 1, chars =>
    match lineBreak (skipBlanks chars) with
    | some rest => skipBreaks steps rest
    | none => skipBlanks chars

/-- Blanks and at least one line break after a backslash, and all blanks and breaks behind them. -/
def continuation? (chars : List Char) : Option (List Char) :=
  (lineBreak (skipBlanks chars)).map fun rest => skipBreaks (rest.length + 1) rest

/-- The quotes at the end of a string of several lines, of which up to two belong to it. -/
def closingQuotes (quote : Char) (read : List Char) (chars : List Char) :
    Option (String × List Char) :=
  let (quotes, rest) := chars.span (· == quote)
  if 3 ≤ quotes.length ∧ quotes.length ≤ 5 then
    some (.ofList (read.reverse ++ quotes.drop 3), rest)
  else none

def longBody (quote : Char) : Nat → List Char → Reader String
  | 0, _, _ => none
  | steps + 1, read, chars =>
    if [quote, quote, quote].isPrefixOf chars then closingQuotes quote read chars
    else
      match chars with
      | '\n' :: rest => longBody quote steps ('\n' :: read) rest
      | '\r' :: '\n' :: rest => longBody quote steps ('\n' :: '\r' :: read) rest
      | '\\' :: rest =>
        if quote = '\'' then longBody quote steps ('\\' :: read) rest
        else
          match continuation? rest with
          | some rest => longBody quote steps read rest
          | none => do
            let (c, rest) ← escape rest
            longBody quote steps (c :: read) rest
      | c :: rest => if isVisible c then longBody quote steps (c :: read) rest else none
      | [] => none

/-- A line break directly after the opening quotes does not count. -/
def long (quote : Char) : Reader String := fun chars =>
  longBody quote (chars.length + 1) [] ((lineBreak chars).getD chars)

def isKeyChar (c : Char) : Bool := c.isAlphanum || c == '_' || c == '-'

def keyPiece : Reader String := fun chars =>
  match chars with
  | '"' :: rest => quotedBody (rest.length + 1) [] rest
  | '\'' :: rest => literalBody rest
  | _ =>
    match chars.span isKeyChar with
    | ([], _) => none
    | (piece, rest) => some (.ofList piece, rest)

def keyWithin : Nat → Reader (List String)
  | 0, _ => none
  | steps + 1, chars => do
    let (piece, rest) ← keyPiece chars
    match skipBlanks rest with
    | '.' :: rest => do
      let (pieces, rest) ← keyWithin steps (skipBlanks rest)
      some (piece :: pieces, rest)
    | rest => some ([piece], rest)

/-- Pieces with points between them, and the blanks behind. -/
def key : Reader (List String) := fun chars => keyWithin (chars.length + 1) chars

/-- The digits without the underscores, each of which must stand between two digits. -/
def withoutMarks? (isDigit : Char → Bool) : List Char → Option (List Char)
  | [] => none
  | [c] => if isDigit c then some [c] else none
  | c :: '_' :: rest => if isDigit c then (withoutMarks? isDigit rest).map (c :: ·) else none
  | c :: rest => if isDigit c then (withoutMarks? isDigit rest).map (c :: ·) else none

def valueIn (base : Nat) (digits : List Char) : Nat :=
  digits.foldl (fun value c => base * value + (hexValue? c).getD 0) 0

def radixInteger? (base : Nat) (digits : List Char) : Option Int :=
  (withoutMarks? (fun c => (hexValue? c).any (· < base)) digits).map fun digits =>
    valueIn base digits

/-- A single zero, or digits of which the first is not zero. -/
def wholePart? (chars : List Char) : Option (List Char) :=
  (withoutMarks? Text.isDigit chars).filter fun digits => digits.head? != some '0' || digits == ['0']

def integer? (word : List Char) : Option Int :=
  match word with
  | '0' :: 'x' :: digits => radixInteger? 16 digits
  | '0' :: 'o' :: digits => radixInteger? 8 digits
  | '0' :: 'b' :: digits => radixInteger? 2 digits
  | _ =>
    let (negative, rest) := Double.signed word
    (wholePart? rest).map fun digits =>
      let value : Int := Text.digitsValue digits
      if negative then -value else value

def exponent? (chars : List Char) : Option Int :=
  let (negative, rest) := Double.signed chars
  (withoutMarks? Text.isDigit rest).map fun digits =>
    let value : Int := Text.digitsValue digits
    if negative then -value else value

/-- A number with a fraction, an exponent or both, or one of the words for the special numbers. A
number beyond the doubles is none. -/
def decimal? (word : List Char) : Option Double := do
  let (negative, rest) := Double.signed word
  if rest = ['i', 'n', 'f'] then some (.infinite negative)
  else if rest = ['n', 'a', 'n'] then some .undefined
  else
    let (mantissa, scale) := rest.span fun c => c != 'e' && c != 'E'
    let (whole, fraction) := mantissa.span (· != '.')
    let whole ← wholePart? whole
    let fraction ← if fraction.isEmpty then some [] else withoutMarks? Text.isDigit (fraction.drop 1)
    let exponent ← if scale.isEmpty then some 0 else exponent? (scale.drop 1)
    if fraction.isEmpty ∧ scale.isEmpty then none
    else
      let value := Binary64.ofDecimal negative (Text.digitsValue (whole ++ fraction))
        (exponent - fraction.length)
      value.map .finite

def isWordChar (c : Char) : Bool :=
  c.isAlphanum || c == '+' || c == '-' || c == '_' || c == '.' || c == ':'

/-- A word, and the time behind a date and a blank. -/
def word : Reader (List Char) := fun chars =>
  let (first, rest) := chars.span isWordChar
  match rest with
  | ' ' :: next =>
    if Moment.isDate first ∧ next.head?.any Text.isDigit then
      let (second, rest) := next.span isWordChar
      some (first ++ ' ' :: second, rest)
    else some (first, rest)
  | _ => if first.isEmpty then none else some (first, rest)

def wordValue? (word : List Char) : Option Setting :=
  if word = ['t', 'r', 'u', 'e'] then some (.switch true)
  else if word = ['f', 'a', 'l', 's', 'e'] then some (.switch false)
  else
    match integer? word, decimal? word, Moment.ofChars? word with
    | some value, _, _ => if Setting.isInteger value then some (.integer value) else none
    | none, some value, _ => some (.decimal value)
    | none, none, some moment => some (.text (.ofList moment.toChars))
    | none, none, none => none

end LtiPlatform.Toml
