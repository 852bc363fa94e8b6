import LtiPlatform.Settings.Yaml.Literal
import LtiPlatform.Settings.Yaml.Plain
import LtiPlatform.Settings.Yaml.Property
import LtiPlatform.Settings.Yaml.Quoted

namespace LtiPlatform.Yaml

namespace Scan

def fetchDirective : Scan Unit := do
  modify (Lexer.unroll (-1))
  dropKey
  allowKey false
  push (← directive)

def fetchDocumentStart : Scan Unit := do
  modify (Lexer.unroll (-1))
  dropKey
  allowKey false
  modify (Lexer.passAll "---".toList)
  push .documentStart

def fetchDocumentEnd : Scan Unit := do
  modify (Lexer.unroll (-1))
  dropKey
  allowKey false
  modify (Lexer.passAll "...".toList)
  push .documentEnd
  let _ ← passToLineEnd
  guard (endsLine (← get).rest)

/-- The greatest number of brackets within each other. -/
def flowLimit : Nat := 255

/-- Ends the pair that is open in a sequence, if one is. -/
def endPair : Scan Unit := do
  let lexer ← get
  match lexer.pairs with
  | true :: outer =>
    set { lexer with pairs := false :: outer, opensMapping := false }
    push .flowMappingEnd
  | _ => pure ()

def fetchFlowStart (token : Token) : Scan Unit := do
  saveKey
  modify Lexer.rollOne
  guard ((← get).flowDepth < flowLimit)
  allowKey true
  modify fun lexer =>
    let lexer := { lexer.pass with flowDepth := lexer.flowDepth + 1, keys := {} :: lexer.keys }
    if token = .flowMapping then { lexer with opensMapping := true }
    else { lexer with pairs := false :: lexer.pairs }
  let _ ← passToLineEnd
  push token

def fetchFlowEnd (token : Token) : Scan Unit := do
  dropKey
  modify fun lexer =>
    if lexer.flowDepth = 0 then lexer
    else { lexer with flowDepth := lexer.flowDepth - 1, keys := lexer.keys.drop 1 }
  allowKey false
  if token = .flowSequenceEnd then
    endPair
    modify fun lexer => { lexer with pairs := lexer.pairs.drop 1 }
  modify Lexer.pass
  let _ ← passToLineEnd
  modify fun lexer =>
    if lexer.flowDepth = 0 then lexer else { lexer with adjacentAt := lexer.index }
  push token

def fetchFlowEntry : Scan Unit := do
  dropKey
  allowKey true
  endPair
  modify Lexer.pass
  let _ ← passToLineEnd
  push .flowEntry

/-- Whether the latest token is a property at the beginning of its line. -/
def endsWithProperty (queue : List Token) : Bool :=
  match queue.getLast? with
  | some (.anchor _ 0) => true
  | some (.tag _ _ 0) => true
  | _ => false

def fetchBlockEntry : Scan Unit := do
  let lexer ← get
  guard (lexer.flowDepth = 0 ∧ lexer.allowsKey)
  guard !(endsWithProperty lexer.queue && lexer.column == 0 && 0 ≤ lexer.indent)
  modify fun lexer => lexer.pass.roll lexer.column lexer.queue.length .blockSequence
  let blanks ← passToLineEnd
  let rest := (← get).rest
  guard !(blanks.contains '\t' && isMarker "-" rest)
  if rest.head?.any isBreak || startsWithFlow rest then modify Lexer.rollOne
  dropKey
  allowKey true
  push .blockEntry

/-- Spaces, line breaks and comments behind the mark of a key, at most so many. -/
def passKeyGap : Nat → Bool → Scan Bool
  | 0, found => return found
  | steps + 1, found => do
    let lexer ← get
    match lexer.rest.head? with
    | none => return found
    | some c =>
      if c = ' ' then
        modify Lexer.passBlank
        passKeyGap steps true
      else if isBreak c then
        modify Lexer.passBreak
        if lexer.flowDepth = 0 then allowKey true
        passKeyGap steps true
      else if c = '#' then
        let _ ← takeWhile fun c => !isBreak c
        passKeyGap steps found
      else return found

def fetchKey : Scan Unit := do
  let lexer ← get
  if lexer.flowDepth = 0 then
    guard lexer.allowsKey
    modify (Lexer.roll lexer.column lexer.queue.length .blockMapping)
  else
    set { lexer with opensMapping := true }
  dropKey
  allowKey (lexer.flowDepth = 0)
  modify Lexer.pass
  guard (← passKeyGap lexer.rest.length false)
  guard ((← get).rest.head? ≠ some '\t')
  push .key

/-- Puts in the tokens of a key that began earlier, and of the mapping that it opens. -/
def openKey (start : KeyStart) (opensPair : Bool) (line : Nat) : Scan Unit := do
  guard !(opensPair && start.line < line)
  modify fun lexer =>
    let place := start.token - lexer.taken
    let queue := lexer.queue.insertIdx place .key
    let queue := if opensPair then queue.insertIdx place .flowMapping else queue
    ({ lexer with queue } : Lexer).roll start.column place .blockMapping |>.rollOne
  modify fun lexer => { lexer with keys := { start with isOpen := false } :: lexer.keys.drop 1 }
  allowKey false

/-- A value whose key has a mark of its own, or is empty. -/
def openValue (opensPair : Bool) (column : Nat) : Scan Unit := do
  if opensPair then push .flowMapping
  let lexer ← get
  if lexer.flowDepth = 0 then
    guard lexer.allowsKey
    modify (Lexer.roll column lexer.queue.length .blockMapping)
  modify Lexer.rollOne
  allowKey (lexer.flowDepth = 0)

/-- A tab alone does not part a value from its colon if the value could belong to a word. -/
def passValueGap : Scan Unit := do
  if (← get).rest.head? = some '\t' then
    let blanks ← passToLineEnd
    guard (blanks.contains ' ' || !(← get).rest.head?.any fun c => c == '-' || isWordChar c)

def fetchValue : Scan Unit := do
  let lexer ← get
  let opensPair := !lexer.pairs.isEmpty && !lexer.opensMapping
  if opensPair then modify fun lexer => { lexer with pairs := true :: lexer.pairs.drop 1 }
  modify Lexer.pass
  passValueGap
  match lexer.keys with
  | [] => failure
  | start :: _ =>
    if start.isOpen then openKey start opensPair lexer.line else openValue opensPair lexer.column
  push .value

/-- Something that a key may begin with. -/
def fetchKeyPart (token : Scan Token) : Scan Unit := do
  saveKey
  allowKey false
  push (← token)

/-- Behind a quoted scalar a colon needs no white space within brackets. -/
def fetchQuoted (quote : Char) : Scan Unit := do
  saveKey
  allowKey false
  let token ← quoted quote
  passToToken
  modify fun lexer => { lexer with adjacentAt := lexer.index }
  push token

def fetchBlockScalar (isFolded : Bool) : Scan Unit := do
  saveKey
  allowKey true
  push (← blockScalar isFolded)

def anchor : Scan Token := do
  let column := (← get).column
  return .anchor (← anchorName) column

/-- Finds what begins with a character, where no directive and no document does. -/
def fetchPart (c : Char) : Scan Unit := do
  let lexer ← get
  let next := lexer.rest.drop 1
  let inFlow := lexer.flowDepth != 0
  let isValue := endsWord next ||
    (inFlow && (startsWithFlow next || lexer.index == lexer.adjacentAt))
  match c with
  | '[' => fetchFlowStart .flowSequence
  | '\x7b' => fetchFlowStart .flowMapping
  | ']' => fetchFlowEnd .flowSequenceEnd
  | '\x7d' => fetchFlowEnd .flowMappingEnd
  | ',' => fetchFlowEntry
  | '*' => fetchKeyPart (.alias <$> anchorName)
  | '&' => fetchKeyPart anchor
  | '!' => fetchKeyPart tag
  | '\'' => fetchQuoted '\''
  | '"' => fetchQuoted '"'
  | '%' => failure
  | '@' => failure
  | '\x60' => failure
  | _ =>
    if c = '-' ∧ endsWord next then fetchBlockEntry
    else if c = '?' ∧ endsWord next then fetchKey
    else if c = ':' ∧ isValue then fetchValue
    else if c = '|' ∧ !inFlow then fetchBlockScalar false
    else if c = '>' ∧ !inFlow then fetchBlockScalar true
    else fetchKeyPart plain

/-- At the end of the text all blocks end; told is that no token follows. -/
def fetchEnd : Scan Unit := do
  let lexer ← get
  guard (lexer.keys.all fun start => !(start.isRequired && start.isOpen))
  modify (Lexer.unroll (-1))

/-- Finds the next token, and whether there was one. -/
def fetch : Scan Bool := do
  passToToken
  dropStaleKeys
  modify fun lexer => lexer.unroll lexer.column
  let lexer ← get
  match lexer.rest with
  | [] =>
    fetchEnd
    return false
  | c :: _ =>
    let atMargin := lexer.column = 0
    if atMargin ∧ c = '%' then fetchDirective
    else if atMargin ∧ isMarker "---" lexer.rest then fetchDocumentStart
    else if atMargin ∧ isMarker "..." lexer.rest then fetchDocumentEnd
    else do
      guard (lexer.indent ≤ lexer.column)
      fetchPart c
    return true

/-- Whether a key may have begun with the first token of the queue. -/
def awaitsKey (lexer : Lexer) : Bool :=
  lexer.keys.any fun start => start.isOpen && start.token == lexer.taken

/-- The tokens that are left, found and taken off the queue in at most so many steps. -/
def tokensWithin : Nat → Scan (List Token)
  | 0 => failure
  | steps + 1 => do
    if !(← get).queue.isEmpty then dropStaleKeys
    let lexer ← get
    match lexer.queue with
    | token :: queue =>
      if awaitsKey lexer then
        if ← fetch then tokensWithin steps else return (← get).queue
      else
        set { lexer with queue, taken := lexer.taken + 1 }
        return token :: (← tokensWithin steps)
    | [] => if ← fetch then tokensWithin steps else return (← get).queue

end Scan

/-- The tokens of a text, which a NUL ends. A character gives no more than a few tokens. -/
def tokens? (text : String) : Option (List Token) :=
  let chars := text.toList.takeWhile (· != '\x00')
  (Scan.tokensWithin (8 * chars.length + 8)).run' { rest := chars }

end LtiPlatform.Yaml
