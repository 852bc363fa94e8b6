import LtiPlatform.Settings.Yaml.Scalar
import LtiPlatform.Settings.Yaml.Token

namespace LtiPlatform.Yaml

/-- What is read while a document is put together. -/
structure Builder where
  tokens : List Token
  /-- What the handles of tags stand for. -/
  handles : List (String × String) := []
  /-- The numbers of the anchors, the latest one first. -/
  anchors : List (String × Nat) := []
  /-- The nodes that are complete, by their numbers. -/
  nodes : List (Nat × Node) := []
deriving Repr, Inhabited

abbrev Build := StateT Builder Option

namespace Build

def peek : Build (Option Token) := return (← get).tokens.head?

def drop : Build Unit := modify fun builder => { builder with tokens := builder.tokens.drop 1 }

/-- Passes a token that must be there. -/
def expect (token : Token) : Build Unit := do
  guard ((← peek) = some token)
  drop

/-- Passes a token if it is there, and tells whether it was. -/
def passes (token : Token) : Build Bool := do
  if (← peek) = some token then
    drop
    return true
  return false

/-- A number for a new anchor. -/
def anchor (name : String) : Build Nat :=
  modifyGet fun builder =>
    let number := builder.anchors.length
    (number, { builder with anchors := (name, number) :: builder.anchors })

/-- A tag with what its handle stands for. A handle between two marks must have been declared. -/
def tag (handle suffix : String) : Build Tag := do
  match (← get).handles.lookup handle with
  | some expansion => return ⟨expansion, suffix⟩
  | none =>
    if handle = "!!" then return ⟨Node.commonTags, suffix⟩
    guard (handle = "" ∨ handle = "!")
    return ⟨handle, suffix⟩

structure Properties where
  anchor : Option Nat := none
  tag : Option Tag := none

/-- An anchor and a tag, in either order, or one of them. -/
def properties : Build Properties := do
  match ← peek with
  | some (.anchor name _) =>
    drop
    let number ← anchor name
    match ← peek with
    | some (.tag handle suffix _) =>
      drop
      return ⟨some number, some (← tag handle suffix)⟩
    | _ => return ⟨some number, none⟩
  | some (.tag handle suffix _) =>
    drop
    let tag ← tag handle suffix
    match ← peek with
    | some (.anchor name _) =>
      drop
      return ⟨some (← anchor name), some tag⟩
    | _ => return ⟨none, some tag⟩
  | _ => return {}

/-- The node of an alias, which is not valid within itself. -/
def aliased (name : String) : Build Node := do
  let builder ← get
  match builder.anchors.lookup name with
  | none => failure
  | some number => return (builder.nodes.lookup number).getD .invalid

/-- Notes that a node with an anchor is complete. -/
def complete (properties : Properties) (node : Node) : Build Node := do
  match properties.anchor with
  | none => return node
  | some number =>
    modify fun builder => { builder with nodes := (number, node) :: builder.nodes }
    return node

/-- The members that keys and values in turn make up. What is not valid is passed over where a key
should stand, and no key may stand twice. -/
def members? : List (Node × Node) → Node → List Node → Option (List (Node × Node))
  | done, _, [] => some done
  | done, key, node :: rest =>
    if key.isInvalid then members? done node rest
    else if done.any fun member => member.1.isSameScalar key then none
    else members? (done ++ [(key, node)]) .invalid rest

def table (parts : List Node) : Build Node :=
  match members? [] .invalid parts with
  | none => failure
  | some members => return .table members

/-- Nothing, where one of the given tokens follows or none at all, and else what is read. -/
def orNothing (ends : List Token) (read : Build Node) : Build Node := do
  match ← peek with
  | none => read
  | some token => if ends.contains token then return .absent else read

def blockEnds : List Token := [.key, .value, .blockEnd]

/-- An empty scalar, which needs a property. -/
def bare (properties : Properties) : Build Node := do
  guard (properties.anchor.isSome || properties.tag.isSome)
  complete properties (.ofScalar properties.tag true "")

mutual

/-- A node, in block style if `inBlock`, and if `isMember` also a sequence at the column of its key. -/
def node : Nat → (inBlock isMember : Bool) → Build Node
  | 0, _, _ => failure
  | steps + 1, inBlock, isMember => do
    match ← peek with
    | some (.alias name) =>
      drop
      aliased name
    | _ =>
      let properties ← properties
      match ← peek with
      | some (.scalar isPlain text) =>
        drop
        complete properties (.ofScalar properties.tag isPlain text)
      | some .flowSequence =>
        drop
        complete properties (.list (← flowItems steps true))
      | some .flowMapping =>
        drop
        complete properties (← table (← flowMembers steps true))
      | some .blockEntry =>
        if isMember then complete properties (.list (← memberItems steps))
        else bare properties
      | some .blockSequence =>
        if inBlock then
          drop
          complete properties (.list (← blockItems steps))
        else bare properties
      | some .blockMapping =>
        if inBlock then
          drop
          complete properties (← table (← blockMembers steps))
        else bare properties
      | _ => bare properties

/-- Items behind dashes, up to the end of their block. -/
def blockItems : Nat → Build (List Node)
  | 0 => failure
  | steps + 1 => do
    if ← passes .blockEnd then return []
    expect .blockEntry
    let item ← orNothing [.blockEntry, .blockEnd] (node steps true false)
    return item :: (← blockItems steps)

/-- Items behind dashes that stand at the column of a key. -/
def memberItems : Nat → Build (List Node)
  | 0 => failure
  | steps + 1 => do
    if !(← passes .blockEntry) then return []
    let item ← orNothing (.blockEntry :: blockEnds) (node steps true false)
    return item :: (← memberItems steps)

/-- Keys and values in turn, up to the end of their block. -/
def blockMembers : Nat → Build (List Node)
  | 0 => failure
  | steps + 1 => do
    if ← passes .blockEnd then return []
    let key ←
      if ← passes .key then orNothing blockEnds (node steps true true)
      else do
        guard ((← peek) = some .value)
        pure .absent
    let value ←
      if ← passes .value then orNothing blockEnds (node steps true true) else pure .absent
    return key :: value :: (← blockMembers steps)

/-- Items between brackets; the flag says that none came before. A pair is a table of its own. -/
def flowItems : Nat → Bool → Build (List Node)
  | 0, _ => failure
  | steps + 1, isFirst => do
    if ← passes .flowSequenceEnd then return []
    if !isFirst then
      expect .flowEntry
      if ← passes .flowSequenceEnd then return []
    let item ← if ← passes .key then pair steps else node steps false false
    return item :: (← flowItems steps false)

/-- A key and its value within a sequence. A mark where the key should stand is passed over. -/
def pair : Nat → Build Node
  | 0 => failure
  | steps + 1 => do
    let key ←
      match ← peek with
      | some .value => drop *> pure .absent
      | some .flowEntry => drop *> pure .absent
      | some .flowSequenceEnd => drop *> pure .absent
      | _ => node steps false false
    let value ←
      if ← passes .value then orNothing [.flowEntry, .flowSequenceEnd] (node steps false false)
      else pure .absent
    table [key, value]

/-- Keys and values in turn between brackets; the flag says that none came before. -/
def flowMembers : Nat → Bool → Build (List Node)
  | 0, _ => failure
  | steps + 1, isFirst => do
    if ← passes .flowMappingEnd then return []
    if !isFirst then
      expect .flowEntry
      if ← passes .flowMappingEnd then return []
    let flowEnds : List Token := [.flowEntry, .flowMappingEnd]
    let isMarked ← passes .key
    if !isMarked && (← peek) ≠ some .value then
      let key ← node steps false false
      return key :: .absent :: (← flowMembers steps false)
    let key ← if isMarked then orNothing (.value :: flowEnds) (node steps false false) else pure .absent
    let value ←
      if ← passes .value then orNothing flowEnds (node steps false false) else pure .absent
    return key :: value :: (← flowMembers steps false)

end

def passDocumentEnds : Build Unit :=
  modify fun builder => { builder with tokens := builder.tokens.dropWhile (· = .documentEnd) }

/-- The directives of a document, of which the latest one holds. -/
def directives : Nat → (hasVersion : Bool) → Build Unit
  | 0, _ => failure
  | steps + 1, hasVersion => do
    match ← peek with
    | some .version =>
      guard !hasVersion
      modify fun builder => { builder with handles := [] }
      drop
      directives steps true
    | some (.handle name expansion) =>
      modify fun builder => { builder with handles := [(name, expansion)] }
      drop
      directives steps hasVersion
    | _ => pure ()

/-- The content behind the mark of a document, which may be missing. -/
def content (steps : Nat) : Build Node := do
  match ← peek with
  | none => return .absent
  | some .version => return .absent
  | some (.handle _ _) => return .absent
  | some .documentStart => return .absent
  | some .documentEnd => return .absent
  | _ => node steps true false

/-- The only document, if there is one. -/
def document : Build (Option Node) := do
  let steps := 4 * (← get).tokens.length + 4
  passDocumentEnds
  if (← get).tokens.isEmpty then return none
  let start := (← get).tokens.length
  directives steps false
  let hasDirectives := (← get).tokens.length ≠ start
  let found ←
    if ← passes .documentStart then content steps
    else do
      guard !hasDirectives
      node steps true false
  passDocumentEnds
  guard (← get).tokens.isEmpty
  return some found

end Build

end LtiPlatform.Yaml
