import LtiPlatform.Settings.Yaml.Lexer

namespace LtiPlatform.Yaml.Scan

open LtiPlatform.Reader

/-- The character of an escape, after the backslash. -/
def escape : Reader Char
  | [] => none
  | c :: rest =>
    let coded (count : Nat) : Option (Char × List Char) := do
      let (code, rest) ← hexDigits count rest
      if code.isValidChar then some (.ofNat code, rest) else none
    match c with
    | '0' => some ('\x00', rest)
    | 'a' => some ('\x07', rest)
    | 'b' => some ('\x08', rest)
    | 't' => some ('\t', rest)
    | '\t' => some ('\t', rest)
    | 'n' => some ('\n', rest)
    | 'v' => some ('\x0b', rest)
    | 'f' => some ('\x0c', rest)
    | 'r' => some ('\r', rest)
    | 'e' => some ('\x1b', rest)
    | ' ' => some (' ', rest)
    | '"' => some ('"', rest)
    | '/' => some ('/', rest)
    | '\\' => some ('\\', rest)
    | 'N' => some ('\u0085', rest)
    | '_' => some ('\u00a0', rest)
    | 'L' => some ('\u2028', rest)
    | 'P' => some ('\u2029', rest)
    | 'x' => coded 2
    | 'u' => coded 4
    | 'U' => coded 8
    | _ => none

/-- Characters up to white space or the closing quote; told is whether an escaped line break ended
them. -/
def quotedWord (quote : Char) : Nat → Scan (List Char × Bool)
  | 0 => failure
  | steps + 1 => do
    match (← get).rest with
    | [] => return ([], false)
    | c :: rest =>
      if isGap c then return ([], false)
      else if c = quote then
        if quote = '\'' ∧ rest.head? = some quote then
          modify (Lexer.passAll [quote, quote])
          let (word, escaped) ← quotedWord quote steps
          return (quote :: word, escaped)
        return ([], false)
      else if c = '\\' ∧ quote = '"' then
        if rest.head?.any isBreak then
          modify fun lexer => lexer.pass.passBreak
          return ([], true)
        let some (found, after) := escape rest | failure
        modify (Lexer.passAll (c :: rest.take (rest.length - after.length)))
        let (word, escaped) ← quotedWord quote steps
        return (found :: word, escaped)
      else
        modify Lexer.pass
        let (word, escaped) ← quotedWord quote steps
        return (c :: word, escaped)

/-- White space within quotes: its blanks as long as no line break came, and then the breaks. -/
structure QuotedGap where
  blanks : List Char := []
  /-- Whether a line ended, be its break escaped or not. -/
  hasBreak : Bool := false
  isEscaped : Bool := false
  /-- The breaks after the first one. -/
  furtherBreaks : Nat := 0

/-- One break stands for a blank, further ones for themselves, and an escaped one for nothing. -/
def QuotedGap.text (gap : QuotedGap) : List Char :=
  if !gap.hasBreak then gap.blanks
  else if !gap.isEscaped && gap.furtherBreaks == 0 then [' ']
  else List.replicate gap.furtherBreaks '\n'

/-- Tabs do not indent the lines of a scalar. -/
def quotedGap : Nat → QuotedGap → Scan QuotedGap
  | 0, gap => return gap
  | steps + 1, gap => do
    let lexer ← get
    match lexer.rest.head? with
    | none => return gap
    | some c =>
      if isBreak c then
        modify Lexer.passBreak
        quotedGap steps
          (if gap.hasBreak then { gap with furtherBreaks := gap.furtherBreaks + 1 }
          else { gap with hasBreak := true })
      else if isBlank c then
        guard !(gap.hasBreak && c == '\t' && lexer.column < lexer.indent)
        modify Lexer.passBlank
        quotedGap steps (if gap.hasBreak then gap else { gap with blanks := gap.blanks ++ [c] })
      else return gap

/-- What is left up to the closing quote. -/
def quotedBody (quote : Char) : Nat → Scan (List Char)
  | 0 => failure
  | steps + 1 => do
    let lexer ← get
    guard !(lexer.column == 0 && isDocumentMarker lexer.rest)
    guard (!lexer.rest.isEmpty && lexer.indent ≤ lexer.column)
    let (word, isEscaped) ← quotedWord quote (lexer.rest.length + 1)
    if (← get).rest.head? = some quote then
      modify Lexer.pass
      return word
    let gap ← quotedGap lexer.rest.length { hasBreak := isEscaped, isEscaped }
    return word ++ gap.text ++ (← quotedBody quote steps)

/-- Whether the line of a scalar ends, or a key, or within brackets an item; the second flag says that
the scalar began on its last line. -/
def mayFollow (inFlow onLine : Bool) : List Char → Bool
  | [] => true
  | c :: _ =>
    isBreak c || (inFlow && (c == ',' || c == ']' || c == '\x7d')) ||
      (c == ':' && (inFlow || onLine))

def quoted (quote : Char) : Scan Token := do
  let line := (← get).line
  modify Lexer.pass
  let text ← quotedBody quote ((← get).rest.length + 1)
  let _ ← passToLineEnd
  let lexer ← get
  guard (mayFollow (lexer.flowDepth != 0) (line == lexer.line) lexer.rest)
  return .scalar false (.ofList text)

end LtiPlatform.Yaml.Scan
