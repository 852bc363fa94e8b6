import LtiPlatform.Settings.Yaml.Lexer

namespace LtiPlatform.Yaml.Scan

/-- What becomes of the line breaks at the end of a block. -/
inductive Chomping where
  | strip
  | clip
  | keep
deriving DecidableEq, Repr, Inhabited

def chomping? (c : Char) : Option Chomping :=
  if c = '+' then some .keep else if c = '-' then some .strip else none

/-- The digit behind a bar, which tells how far the block is indented. -/
def indentMark : Scan Nat := do
  match (← get).rest.head? with
  | none => return 0
  | some c =>
    if !Text.isDigit c then return 0
    guard (c ≠ '0')
    modify Lexer.pass
    return c.toNat - '0'.toNat

def chompingMark : Scan (Option Chomping) := do
  match (← get).rest.head?.bind chomping? with
  | none => return none
  | some chomping =>
    modify Lexer.pass
    return some chomping

/-- The marks behind a bar, in either order. -/
def blockMarks : Scan (Chomping × Nat) := do
  match ← chompingMark with
  | some chomping => return (chomping, ← indentMark)
  | none =>
    let indent ← indentMark
    let chomping ← if indent = 0 then pure none else chompingMark
    return (chomping.getD .clip, indent)

/-- Passes a line break; told is how many there were. -/
def passLineBreak : Scan Nat := do
  if (← get).rest.head?.any isBreak then
    modify Lexer.passBreak
    return 1
  return 0

/-- Passes indentation up to a column and empty lines; told is how many there were. -/
def passIndent (column : Nat) : Nat → Scan Nat
  | 0 => return 0
  | steps + 1 => do
    let lexer ← get
    let spaces := (lexer.rest.takeWhile (· == ' ')).take (column - lexer.column)
    set { lexer.passAll spaces with isIndentation := lexer.isIndentation }
    if (← passLineBreak) = 0 then return 0
    return (← passIndent column steps) + 1

/-- Passes the empty lines at the beginning of a block; told are their number and the farthest column
that was reached. -/
def passFirstIndent : Nat → Nat → Scan (Nat × Nat)
  | 0, farthest => return (0, farthest)
  | steps + 1, farthest => do
    let lexer ← get
    let spaces := lexer.rest.takeWhile (· == ' ')
    let lexer := { lexer.passAll spaces with isIndentation := lexer.isIndentation }
    set lexer
    let farthest := max farthest lexer.column
    if (← passLineBreak) = 0 then return (0, farthest)
    let (breaks, farthest) ← passFirstIndent steps farthest
    return (breaks + 1, farthest)

def breaksText (count : Nat) : List Char := List.replicate count '\n'

/-- The text so far, the break behind its last line, and the empty lines behind that. -/
structure BlockText where
  text : List Char := []
  lastBreak : Nat := 0
  emptyLines : Nat := 0
  /-- Whether the last line began with a blank. -/
  isIndented : Bool := false

/-- What stands between the text and its next line. Folding makes a single break a blank, unless one
of the lines begins with a blank. -/
def BlockText.gap (isFolded startsBlank : Bool) (block : BlockText) : List Char :=
  if isFolded && block.lastBreak ≠ 0 && !block.isIndented && !startsBlank then
    if block.emptyLines = 0 then [' '] else breaksText block.emptyLines
  else breaksText (block.lastBreak + block.emptyLines)

/-- The lines of a block at a column. -/
def blockLines (isFolded : Bool) (column : Nat) : Nat → BlockText → Scan BlockText
  | 0, block => return block
  | steps + 1, block => do
    let lexer ← get
    if lexer.column ≠ column ∨ lexer.rest.isEmpty then return block
    let startsBlank := lexer.rest.head?.any isBlank
    let gap := block.gap isFolded startsBlank
    let line ← takeWhile fun c => !isBreak c
    let block : BlockText := ⟨block.text ++ gap ++ line, 0, 0, startsBlank⟩
    if (← passLineBreak) = 0 then return block
    let emptyLines ← passIndent column ((← get).rest.length + 1)
    blockLines isFolded column steps { block with lastBreak := 1, emptyLines }

/-- A block that the text ends in before any content: of the break behind the marks and of the empty
lines only the latter are kept, if there are any. -/
def emptyBlock (chomping : Chomping) (firstBreak emptyLines : Nat) : List Char :=
  match chomping with
  | .strip => []
  | .clip => breaksText firstBreak
  | .keep =>
    if firstBreak = 0 then [] else breaksText (if emptyLines = 0 then firstBreak else emptyLines)

/-- A block scalar. Indentation at the end of the text counts as a line. -/
def blockScalar (isFolded : Bool) : Scan Token := do
  modify fun lexer => lexer.pass.unrollInner
  let (chomping, indent) ← blockMarks
  let _ ← passToLineEnd
  guard (endsLine (← get).rest)
  let firstBreak ← passLineBreak
  let lexer ← get
  guard (lexer.rest.head? ≠ some '\t')
  let steps := lexer.rest.length + 1
  let (emptyLines, column) ←
    if indent = 0 then do
      let (emptyLines, farthest) ← passFirstIndent steps 0
      pure (emptyLines, max farthest (lexer.indent + 1).toNat)
    else do
      let column := (max lexer.indent 0).toNat + indent
      pure (← passIndent column steps, column)
  let first ← get
  if first.rest.isEmpty then
    return .scalar false (.ofList (emptyBlock chomping firstBreak emptyLines))
  guard !(first.column < column && lexer.indent < first.column)
  let block ← blockLines isFolded column steps { emptyLines }
  let last ← get
  let atEnd := if last.rest.isEmpty && max column 1 ≤ last.column then 1 else 0
  let ending :=
    match chomping with
    | .strip => 0
    | .clip => block.lastBreak + atEnd
    | .keep => block.lastBreak + atEnd + block.emptyLines
  return .scalar false (.ofList (block.text ++ breaksText ending))

end LtiPlatform.Yaml.Scan
