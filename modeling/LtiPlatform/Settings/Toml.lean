import LtiPlatform.Settings.Toml.Scalar
import LtiPlatform.Settings.Toml.Table

namespace LtiPlatform.Toml

open LtiPlatform.Reader

/-- Key and value of one pair, with the given reader for the value. -/
def pair (value : Reader Setting) : Reader (List String × Setting) := fun chars => do
  let (key, rest) ← key chars
  let rest ← expect '=' rest
  let (value, rest) ← value (skipBlanks rest)
  some ((key, value), rest)

def itemsWithin (value : Reader Setting) : Nat → Reader (List Setting)
  | 0, _ => none
  | steps + 1, chars =>
    match skipToContent chars with
    | ']' :: rest => some ([], rest)
    | chars => do
      let (item, rest) ← value chars
      match skipToContent rest with
      | ',' :: rest => do
        let (items, rest) ← itemsWithin value steps rest
        some (item :: items, rest)
      | ']' :: rest => some ([item], rest)
      | _ => none

def pairsWithin (value : Reader Setting) : Nat → Members → Reader Members
  | 0, _, _ => none
  | steps + 1, members, chars =>
    match skipToContent chars with
    | '\x7d' :: rest => some (members, rest)
    | chars => do
      let ((key, item), rest) ← pair value chars
      let members ← assign item key members
      match skipToContent rest with
      | ',' :: rest => pairsWithin value steps members rest
      | '\x7d' :: rest => some (members, rest)
      | _ => none

/-- The pairs between braces, which may stand on several lines and have a comma behind the last. -/
def inlineTable (value : Reader Setting) : Reader Setting := fun chars =>
  (pairsWithin value (chars.length + 1) [] chars).map fun (members, rest) =>
    (.table (membersSettings members), rest)

/-- A value with at most `depth` levels of arrays and tables. -/
def value : (depth : Nat) → Reader Setting
  | 0, _ => none
  | depth + 1, chars =>
    let asText (read : Option (String × List Char)) : Option (Setting × List Char) :=
      read.map fun (text, rest) => (.text text, rest)
    match chars with
    | '"' :: '"' :: '"' :: rest => asText (long '"' rest)
    | '\'' :: '\'' :: '\'' :: rest => asText (long '\'' rest)
    | '"' :: rest => asText (quotedBody (rest.length + 1) [] rest)
    | '\'' :: rest => asText (literalBody rest)
    | '[' :: rest => (itemsWithin (value depth) (rest.length + 1) rest).map fun (items, rest) =>
      (.list items, rest)
    | '\x7b' :: rest => inlineTable (value depth) rest
    | _ => do
      let (word, rest) ← word chars
      (wordValue? word).map fun value => (value, rest)

/-- The tables so far, and the header that keys belong to. -/
structure Document where
  root : Members := []
  header : List String := []

namespace Document

def set (document : Document) (key : List String) (value : Setting) : Option Document :=
  let root :=
    if document.header.isEmpty then assign value key document.root
    else along (assignIn key value) document.header document.root
  root.map fun root => { document with root }

def enter (change : Option Node → Option Node) (document : Document) (header : List String) :
    Option Document :=
  (along change header document.root).map fun root => ⟨root, header⟩

end Document

def depthLimit : Nat := 80

/-- One header or pair, and the rest of its line. -/
def line (document : Document) (chars : List Char) : Option (Document × List Char) :=
  match chars with
  | '[' :: '[' :: rest => do
    let (header, rest) ← key (skipBlanks rest)
    let rest ← expect ']' rest
    let rest ← expect ']' rest
    let document ← document.enter openItem header
    some (document, ← endLine rest)
  | '[' :: rest => do
    let (header, rest) ← key (skipBlanks rest)
    let rest ← expect ']' rest
    let document ← document.enter openTable header
    some (document, ← endLine rest)
  | _ => do
    let ((key, value), rest) ← pair (value depthLimit) chars
    let document ← document.set key value
    some (document, ← endLine rest)

/-- Every line takes at least one character. -/
def linesWithin : Nat → Document → List Char → Option Document
  | 0, _, _ => none
  | steps + 1, document, chars =>
    match skipToContent chars with
    | [] => some document
    | chars => do
      let (document, rest) ← line document chars
      linesWithin steps document rest

/-- The members of the outermost table. -/
def parse? (text : String) : Option (Entries Setting) :=
  let chars := text.toList
  (linesWithin (chars.length + 1) {} chars).map fun document => membersSettings document.root

end LtiPlatform.Toml
