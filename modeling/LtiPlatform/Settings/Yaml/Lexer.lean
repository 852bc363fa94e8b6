import LtiPlatform.Settings.Yaml.Token

namespace LtiPlatform.Yaml

/-- A place at which a key without a mark may have begun, and the number of its first token. -/
structure KeyStart where
  isOpen : Bool := false
  /-- Nothing but a key may stand there. -/
  isRequired : Bool := false
  token : Nat := 0
  line : Nat := 0
  column : Nat := 0
  index : Nat := 0
deriving DecidableEq, Repr, Inhabited

/-- A level of indentation: the column of the level around it, and whether a block ends with it. -/
structure Level where
  outer : Int
  isBlock : Bool
deriving DecidableEq, Repr, Inhabited

/-- The state in which a text is cut into tokens. Whether a key began at a place shows only at the colon behind it,
and its token is then put in before it. -/
structure Lexer where
  rest : List Char
  line : Nat := 0
  column : Nat := 0
  index : Nat := 0
  /-- Only white space came before on the line. -/
  isIndentation : Bool := true
  indent : Int := -1
  /-- The levels of indentation, the innermost one first. -/
  levels : List Level := []
  /-- The number of brackets around. -/
  flowDepth : Nat := 0
  /-- The latest place of a key for every level of brackets, the innermost one first. -/
  keys : List KeyStart := [{}]
  allowsKey : Bool := true
  /-- A mapping in brackets began, so that no pair in a sequence has to be opened. -/
  opensMapping : Bool := false
  /-- For every sequence in brackets, whether a pair of it is open. -/
  pairs : List Bool := []
  /-- Where a colon needs no white space behind it. -/
  adjacentAt : Nat := 0
  /-- The tokens that are found but not yet final. -/
  queue : List Token := []
  /-- The number of tokens that were taken off the queue. -/
  taken : Nat := 0
deriving Repr, Inhabited

/-- An action of the lexer, which fails where the text is not YAML. -/
abbrev Scan := StateT Lexer Option

namespace Lexer

/-- Passes a character, without looking at whether it is indentation. -/
def passBlank (lexer : Lexer) : Lexer :=
  { lexer with rest := lexer.rest.drop 1, index := lexer.index + 1, column := lexer.column + 1 }

def pass (lexer : Lexer) : Lexer := { lexer.passBlank with isIndentation := false }

/-- Passes the characters that are at the front. -/
def passAll (chars : List Char) (lexer : Lexer) : Lexer :=
  { lexer with
    rest := lexer.rest.drop chars.length
    index := lexer.index + chars.length
    column := lexer.column + chars.length
    isIndentation := lexer.isIndentation && chars.isEmpty }

/-- Passes a line break, if there is one. -/
def passBreak (lexer : Lexer) : Lexer :=
  let next (count : Nat) : Lexer :=
    { lexer with
      rest := lexer.rest.drop count
      index := lexer.index + count
      column := 0
      line := lexer.line + 1
      isIndentation := true }
  match lexer.rest with
  | '\r' :: '\n' :: _ => next 2
  | '\r' :: _ => next 1
  | '\n' :: _ => next 1
  | _ => lexer

/-- Leaves all levels that are deeper than a column; told is how many blocks end with them. -/
def leaveLevels (column : Int) : Int → List Level → Int × List Level × Nat
  | indent, [] => (indent, [], 0)
  | indent, level :: outer =>
    if column < indent then
      let (indent, levels, ended) := leaveLevels column level.outer outer
      (indent, levels, ended + level.isBlock.toNat)
    else (indent, level :: outer, 0)

/-- Ends the blocks that are deeper than a column. -/
def unroll (column : Int) (lexer : Lexer) : Lexer :=
  if lexer.flowDepth ≠ 0 then lexer
  else
    let (indent, levels, ended) := leaveLevels column lexer.indent lexer.levels
    { lexer with indent, levels, queue := lexer.queue ++ List.replicate ended .blockEnd }

/-- Within a block, what follows must stand behind the column of the block. -/
def rollOne (lexer : Lexer) : Lexer :=
  if lexer.flowDepth = 0 ∧ lexer.levels.head?.any Level.isBlock then
    { lexer with indent := lexer.indent + 1, levels := ⟨lexer.indent, false⟩ :: lexer.levels }
  else lexer

/-- Leaves the levels with which no block ends. -/
def leaveInner : Int → List Level → Int × List Level
  | indent, [] => (indent, [])
  | indent, level :: outer =>
    if level.isBlock then (indent, level :: outer) else leaveInner level.outer outer

def unrollInner (lexer : Lexer) : Lexer :=
  let (indent, levels) := leaveInner lexer.indent lexer.levels
  { lexer with indent, levels }

/-- Begins a block at a column, unless it has begun. Its token is put in at a place of the queue. -/
def roll (column place : Nat) (token : Token) (lexer : Lexer) : Lexer :=
  if lexer.flowDepth ≠ 0 then lexer
  else
    let (indent, levels) :=
      match lexer.levels with
      | level :: outer =>
        if lexer.indent ≤ column ∧ !level.isBlock then (level.outer, outer)
        else (lexer.indent, lexer.levels)
      | [] => (lexer.indent, [])
    if indent < column then
      { lexer with
        indent := column
        levels := ⟨indent, true⟩ :: levels
        queue := lexer.queue.insertIdx place token }
    else { lexer with indent, levels }

end Lexer

namespace Scan

def push (token : Token) : Scan Unit :=
  modify fun lexer => { lexer with queue := lexer.queue ++ [token] }

/-- Reads characters of a class. -/
def takeWhile (belongs : Char → Bool) : Scan (List Char) :=
  modifyGet fun lexer =>
    let taken := lexer.rest.takeWhile belongs
    (taken, lexer.passAll taken)

/-- Passes blanks, and gives them. -/
def passBlanks : Scan (List Char) :=
  modifyGet fun lexer =>
    let blanks := lexer.rest.takeWhile isBlank
    (blanks, { lexer.passAll blanks with isIndentation := lexer.isIndentation })

/-- Passes blanks and a comment, which needs a blank before it; told are the blanks. -/
def passToLineEnd : Scan (List Char) := do
  let blanks ← passBlanks
  if (← get).rest.head? = some '#' then
    guard !blanks.isEmpty
    let _ ← takeWhile fun c => !isBreak c
  return blanks

def allowKey (allowed : Bool) : Scan Unit := modify fun lexer => { lexer with allowsKey := allowed }

/-- Notes that a key may begin here. -/
def saveKey : Scan Unit :=
  modify fun lexer =>
    if lexer.allowsKey then
      let required := lexer.flowDepth == 0 && lexer.indent == lexer.column &&
        lexer.levels.head?.any Level.isBlock
      let start : KeyStart :=
        ⟨true, required, lexer.taken + lexer.queue.length, lexer.line, lexer.column, lexer.index⟩
      { lexer with keys := start :: lexer.keys.drop 1 }
    else lexer

/-- What began here was no key. -/
def dropKey : Scan Unit := do
  let lexer ← get
  match lexer.keys with
  | [] => failure
  | start :: outer =>
    guard !(start.isOpen && start.isRequired)
    set { lexer with keys := { start with isOpen := false } :: outer }

/-- The longest distance from the beginning of a key to its colon. -/
def keyLimit : Nat := 1024

/-- Outside of brackets a key ends on its line, and not far from its beginning. -/
def dropStaleKeys : Scan Unit := do
  let lexer ← get
  let isStale (start : KeyStart) : Bool :=
    start.isOpen && lexer.flowDepth == 0 &&
      (start.line < lexer.line || start.index + keyLimit < lexer.index)
  guard (lexer.keys.all fun start => !(isStale start && start.isRequired))
  set { lexer with
    keys := lexer.keys.map fun start => if isStale start then { start with isOpen := false } else start }

/-- Passes white space and comments, at most so many pieces. Tabs do not indent blocks. -/
def passGaps : Nat → Scan Unit
  | 0 => pure ()
  | steps + 1 => do
    let lexer ← get
    match lexer.rest.head? with
    | none => pure ()
    | some c =>
      if c = '\t' ∧ !lexer.levels.isEmpty ∧ lexer.isIndentation ∧ lexer.column < lexer.indent then
        let _ ← passToLineEnd
        guard (endsLine (← get).rest)
        passGaps steps
      else if isBlank c then
        modify Lexer.passBlank
        passGaps steps
      else if isBreak c then
        modify Lexer.passBreak
        if lexer.flowDepth = 0 then allowKey true
        passGaps steps
      else if c = '#' then
        let _ ← takeWhile fun c => !isBreak c
        passGaps steps

def passToToken : Scan Unit := do passGaps ((← get).rest.length + 1)

end Scan

end LtiPlatform.Yaml
