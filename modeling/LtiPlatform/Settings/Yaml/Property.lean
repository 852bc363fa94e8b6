import LtiPlatform.Settings.Yaml.Lexer

namespace LtiPlatform.Yaml.Scan

open LtiPlatform.Reader

/-- The name behind the mark of an anchor or an alias. -/
def anchorName : Scan String := do
  modify Lexer.pass
  let name ← takeWhile isAnchorChar
  guard !name.isEmpty
  return .ofList name

/-- The byte behind a percent sign. -/
def escapedByte : Scan Nat := do
  match (← get).rest with
  | '%' :: high :: low :: _ =>
    let some byte := (hexDigits 2 [high, low]).map Prod.fst | failure
    modify (Lexer.passAll ['%', high, low])
    return byte
  | _ => failure

/-- The number of bytes that a first byte asks for. -/
def byteCount (byte : Nat) : Nat :=
  if byte < 0x80 then 1
  else if byte / 0x20 = 6 then 2
  else if byte / 0x10 = 14 then 3
  else if byte / 0x08 = 30 then 4
  else 0

/-- Further bytes of an escaped character, which are put behind each other. -/
def furtherBytes : Nat → Nat → Scan Nat
  | 0, code => return code
  | count + 1, code => do
    let byte ← escapedByte
    guard (byte / 0x40 = 2)
    furtherBytes count (0x100 * code + byte)

def escapedChar : Scan Char := do
  let byte ← escapedByte
  guard (byteCount byte ≠ 0)
  let code ← furtherBytes (byteCount byte - 1) byte
  guard code.isValidChar
  return .ofNat code

/-- Characters of a class, some of them escaped. -/
def uriWithin (belongs : Char → Bool) : Nat → Scan (List Char)
  | 0 => failure
  | steps + 1 => do
    match (← get).rest.head? with
    | none => return []
    | some c =>
      if !belongs c then return []
      let c ← if c = '%' then escapedChar else do
        modify Lexer.pass
        pure c
      return c :: (← uriWithin belongs steps)

def uri (belongs : Char → Bool) : Scan (List Char) := do
  uriWithin belongs ((← get).rest.length + 1)

/-- Passes a character that must be there. -/
def expectChar (c : Char) : Scan Unit := do
  guard ((← get).rest.head? = some c)
  modify Lexer.pass

/-- An exclamation mark, a word, and perhaps another mark. -/
def tagHandle (isDirective : Bool) : Scan (List Char) := do
  expectChar '!'
  let word ← takeWhile isWordChar
  if (← get).rest.head? = some '!' then
    modify Lexer.pass
    return '!' :: word ++ ['!']
  guard (!isDirective || word.isEmpty)
  return '!' :: word

/-- A handle and what follows it. A single mark has no handle. -/
def tagParts : Scan (String × String) := do
  let lexer ← get
  if lexer.rest[1]? = some '<' then
    modify (Lexer.passAll ['!', '<'])
    let name ← uri isUriChar
    expectChar '>'
    return ("", .ofList name)
  let handle ← tagHandle false
  let suffix ← uri isTagChar
  if 2 ≤ handle.length && handle.getLast? == some '!' then
    guard !suffix.isEmpty
    return (.ofList handle, .ofList suffix)
  match handle.drop 1 ++ suffix with
  | [] => return ("", "!")
  | name => return ("!", .ofList name)

def tag : Scan Token := do
  let column := (← get).column
  let (handle, suffix) ← tagParts
  let lexer ← get
  guard (endsWord lexer.rest || (lexer.flowDepth ≠ 0 && startsWithFlow lexer.rest))
  return .tag handle suffix column

def versionNumber : Scan Unit := do
  let digits ← takeWhile Text.isDigit
  guard (!digits.isEmpty && digits.length ≤ 9)

def versionDirective : Scan Token := do
  let _ ← passBlanks
  versionNumber
  expectChar '.'
  versionNumber
  return .version

/-- What a handle stands for: a name that begins with a mark, or any other one. -/
def expansion : Scan (List Char) := do
  match (← get).rest.head? with
  | none => failure
  | some c =>
    if c = '!' then
      modify Lexer.pass
      return c :: (← uri isUriChar)
    guard (isTagChar c)
    uri isUriChar

def handleDirective : Scan Token := do
  let _ ← passBlanks
  let handle ← tagHandle true
  let _ ← passBlanks
  let expansion ← expansion
  guard (endsWord (← get).rest)
  return .handle (.ofList handle) (.ofList expansion)

/-- A line that begins with a percent sign. Unknown directives are passed over. -/
def directive : Scan Token := do
  modify Lexer.pass
  let name ← takeWhile isWordChar
  guard (!name.isEmpty && endsWord (← get).rest)
  let token ←
    if name = "YAML".toList then versionDirective
    else if name = "TAG".toList then handleDirective
    else do
      let _ ← takeWhile fun c => !isBreak c
      pure (.handle "" "")
  let _ ← passToLineEnd
  guard (endsLine (← get).rest)
  modify Lexer.passBreak
  return token

end LtiPlatform.Yaml.Scan
