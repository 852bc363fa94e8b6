import LtiPlatform.Settings.Yaml.Lexer

namespace LtiPlatform.Yaml.Scan

/-- Whether a scalar may go on: a colon ends it before white space, and within brackets also they and
the comma do. -/
def goesOn (inFlow : Bool) : List Char → Bool
  | [] => false
  | c :: rest =>
    if isGap c then false
    else if c = ':' ∧ (endsWord rest ∨ (inFlow ∧ startsWithFlow rest)) then false
    else !(inFlow && isFlow c)

/-- The characters of a scalar up to white space or its end. -/
def plainWord (inFlow : Bool) : List Char → List Char
  | [] => []
  | c :: rest => if goesOn inFlow (c :: rest) then c :: plainWord inFlow rest else []

/-- White space within a scalar: its blanks as long as no line break came, and then the breaks. -/
structure PlainGap where
  blanks : List Char := []
  hasBreak : Bool := false
  /-- The breaks after the first one. -/
  furtherBreaks : Nat := 0

/-- One break stands for a blank, and further ones for themselves. -/
def PlainGap.text (gap : PlainGap) : List Char :=
  if !gap.hasBreak then gap.blanks
  else if gap.furtherBreaks = 0 then [' ']
  else List.replicate gap.furtherBreaks '\n'

/-- Before the given column a tab may stand on an empty line only. -/
def plainGap (column : Int) : Nat → PlainGap → Scan PlainGap
  | 0, gap => return gap
  | steps + 1, gap => do
    let lexer ← get
    match lexer.rest.head? with
    | none => return gap
    | some c =>
      if isBreak c then
        modify Lexer.passBreak
        plainGap column steps
          (if lexer.isIndentation then { gap with furtherBreaks := gap.furtherBreaks + 1 }
          else { gap with blanks := [], hasBreak := true })
      else if isBlank c then
        if !lexer.isIndentation then
          modify Lexer.passBlank
          plainGap column steps { gap with blanks := gap.blanks ++ [c] }
        else if c = '\t' ∧ lexer.column < column then
          let _ ← passToLineEnd
          guard (endsLine (← get).rest)
          plainGap column steps gap
        else
          modify Lexer.passBlank
          plainGap column steps gap
      else return gap

/-- Further words of a scalar behind the given white space. -/
def plainWords (column : Int) : Nat → List Char → Scan (List Char)
  | 0, _ => return []
  | steps + 1, gap => do
    let lexer ← get
    let inFlow := lexer.flowDepth != 0
    if (lexer.column = 0 ∧ isDocumentMarker lexer.rest) ∨ lexer.rest.head? = some '#' then return []
    guard !(inFlow && lexer.rest.head? == some '-' && startsWithFlow (lexer.rest.drop 1))
    let word := plainWord inFlow lexer.rest
    modify (Lexer.passAll word)
    let text := if word.isEmpty then [] else gap ++ word
    let lexer ← get
    if !lexer.rest.head?.any isGap then return text
    let gap ← plainGap column lexer.rest.length {}
    let lexer ← get
    if !inFlow && lexer.column < column then return text
    return text ++ (← plainWords column steps gap.text)

/-- A plain scalar stands behind the column of its block, also on its further lines. -/
def plain : Scan Token := do
  modify Lexer.unrollInner
  let lexer ← get
  let column := lexer.indent + 1
  guard (lexer.flowDepth = 0 ∨ column ≤ lexer.column)
  let text ← plainWords column (lexer.rest.length + 1) []
  if (← get).isIndentation then allowKey true
  guard !text.isEmpty
  return .scalar true (.ofList text)

end LtiPlatform.Yaml.Scan
