import LtiPlatform.Signature.Base64

namespace LtiPlatform

/-- What stands between the two boundary lines of a key file, in base64 and lines of 64 characters. Text before the
first boundary is passed over, but nothing may follow the last one. -/
structure PemBlock where
  preamble : List Char
  label : String
  /-- What stands between the boundary lines, with the line break before the last one. -/
  text : List Char
deriving DecidableEq, Repr, Inhabited

namespace Pem

def opening (label : String) : String := "-----BEGIN " ++ label ++ "-----"

def closing (label : String) : String := "-----END " ++ label ++ "-----"

def openingMark : List Char := "-----BEGIN ".toList

/-- What follows a line break: LF, CR or both. -/
def afterBreak? : List Char → Option (List Char)
  | '\r' :: '\n' :: rest => some rest
  | '\r' :: rest => some rest
  | '\n' :: rest => some rest
  | _ => none

/-- What stands before a line break at the end. -/
def beforeBreak? (chars : List Char) : Option (List Char) :=
  match chars.reverse with
  | '\n' :: '\r' :: rest => some rest.reverse
  | '\n' :: rest => some rest.reverse
  | '\r' :: rest => some rest.reverse
  | _ => none

/-- Cuts before the first line that begins with the opening mark; a line ends with LF. The text
before it is kept in reverse. -/
def cutPreamble? : List Char → List Char → Option (List Char × List Char)
  | _, [] => none
  | _, '\x00' :: _ => none
  | before, c :: rest =>
    if c = '\n' ∧ openingMark.isPrefixOf rest then some (c :: before, rest)
    else cutPreamble? (c :: before) rest

def splitPreamble? (chars : List Char) : Option (List Char × List Char) :=
  if openingMark.isPrefixOf chars then some ([], chars)
  else (cutPreamble? [] chars).map fun (before, rest) => (before.reverse, rest)

/-- Whether the opening mark stands anywhere in the text. -/
def holdsOpeningMark : List Char → Bool
  | [] => false
  | c :: rest => openingMark.isPrefixOf (c :: rest) || holdsOpeningMark rest

/-- Characters of a label; blanks stand only after the first of them. -/
def isLabelChar (c : Char) : Bool := 0x21 ≤ c.toNat && c.toNat ≤ 0x7e && c != '-'

def isLabel (label : List Char) : Bool :=
  label.head?.all isLabelChar && label.all fun c => isLabelChar c || c == ' ' || c == '\t'

/-- The block of a text. Behind its last boundary there is at most one line break. -/
def block? (text : String) : Option PemBlock := do
  let (preamble, rest) ← splitPreamble? text.toList
  let rest ← openingMark.isPrefixOf? rest
  let label := rest.takeWhile (· ≠ '-')
  let rest ← "-----".toList.isPrefixOf? (rest.drop label.length)
  let rest ← afterBreak? rest
  let rest := (beforeBreak? rest).getD rest
  let body ← (closing (.ofList label)).toList.reverse.isPrefixOf? rest.reverse
  if isLabel label then some ⟨preamble, .ofList label, body.reverse⟩ else none

/-- Lines of exactly 64 characters, and a last one of at most 64 with a line break if it has one. The
number of lines is bounded by the number of characters. -/
def linesWithin : Nat → List Char → Option (List (List Char))
  | 0, _ => none
  | steps + 1, chars =>
    match chars.drop 64 with
    | [] => some [(beforeBreak? chars).getD chars]
    | rest => do
      let rest ← afterBreak? rest
      if rest.isEmpty then some [chars.take 64]
      else
        let lines ← linesWithin steps rest
        some (chars.take 64 :: lines)

end Pem

namespace PemBlock

def contents? (block : PemBlock) : Option Bytes := do
  let text ← Pem.beforeBreak? block.text
  let lines ← Pem.linesWithin text.length text
  Base64.decodePadded? lines.flatten

/-- Whether an empty line stands before the last boundary. -/
def endsWithEmptyLine (block : PemBlock) : Bool :=
  ['\n', '\n'].isPrefixOf block.text.reverse ||
    ['\n', '\r', '\n', '\r'].isPrefixOf block.text.reverse

end PemBlock

namespace Pem

/-- Pieces of 64 characters and a shorter one. -/
def pieces : Nat → List Char → List (List Char)
  | 0, _ => []
  | steps + 1, chars =>
    if chars.isEmpty then [] else chars.take 64 :: pieces steps (chars.drop 64)

/-- A file of one block. -/
def file (label base64 : String) : String :=
  let lines := (pieces base64.length base64.toList).map String.ofList
  "\n".intercalate (opening label :: lines ++ [closing label, ""])

/-- The contents of the block in the text, if it has that label. -/
def contents? (label : String) (text : String) : Option Bytes :=
  (block? text).bind fun block => if block.label = label then block.contents? else none

end Pem

end LtiPlatform
