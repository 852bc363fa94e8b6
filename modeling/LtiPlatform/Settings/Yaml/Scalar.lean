import LtiPlatform.Settings.Value

namespace LtiPlatform.Yaml

open LtiPlatform.Reader

/-- The nodes of a YAML document. A decimal keeps the text that it was written with, and a node that
its tag does not allow is invalid. -/
inductive Node where
  | invalid
  | absent
  | switch (value : Bool)
  | integer (value : Int)
  | decimal (text : String)
  | text (value : String)
  | list (items : List Node)
  | table (members : List (Node × Node))
deriving Repr, Inhabited

/-- A tag, less the handle that it was written with. -/
structure Tag where
  expansion : String
  name : String
deriving DecidableEq, Repr, Inhabited

/-- An integer in some base, perhaps with a sign. -/
def codedInteger? (base : Nat) (chars : List Char) : Option Int :=
  let (negative, digits) := Double.signed chars
  let value : Int := digits.foldl (fun value c => base * value + ((hexValue? c).getD 0 : Nat)) 0
  let value := if negative then -value else value
  let isDigit (c : Char) : Bool := (hexValue? c).any (· < base)
  if !digits.isEmpty && digits.all isDigit && Setting.isInteger value then some value else none

/-- An integer in decimal, hexadecimal or octal digits. A plus sign may stand before any sign. -/
def integer? (text : String) : Option Int :=
  let coded :=
    match text.toList with
    | '0' :: 'x' :: digits => codedInteger? 16 digits
    | '0' :: 'o' :: digits => codedInteger? 8 digits
    | '+' :: digits => codedInteger? 10 digits
    | _ => none
  coded.or (Setting.integerOfText? text)

def infiniteWords : List String :=
  [".inf", ".Inf", ".INF", "+.inf", "+.Inf", "+.INF", "-.inf", "-.Inf", "-.INF"]

def undefinedWords : List String := [".nan", "NaN", ".NAN"]

/-- Whether a text is a number with digits, or one of the words for the special numbers. -/
def isDecimal (text : String) : Bool :=
  (infiniteWords ++ undefinedWords).contains text ||
    (text.toList.any Text.isDigit && (Double.ofText? text).isSome)

namespace Node

/-- What a plain scalar without a tag stands for. -/
def ofPlain (text : String) : Node :=
  if text = "" ∨ text = "~" ∨ text = "null" then absent
  else if text = "true" ∨ text = "True" ∨ text = "TRUE" then switch true
  else if text = "false" ∨ text = "False" ∨ text = "FALSE" then switch false
  else
    match integer? text with
    | some value => integer value
    | none => if isDecimal text then decimal text else .text text

def commonTags : String := "tag:yaml.org,2002:"

/-- What a plain scalar with a tag stands for. -/
def ofTagged (tag : Tag) (text : String) : Node :=
  if tag.expansion ≠ commonTags then .text text
  else
    match tag.name with
    | "bool" =>
      if text = "true" then switch true else if text = "false" then switch false else invalid
    | "int" => (Setting.integerOfText? text).elim invalid integer
    | "float" => if isDecimal text then decimal text else invalid
    | "null" => if text = "~" ∨ text = "null" then absent else invalid
    | _ => .text text

/-- A tag has no effect on a scalar that is not plain. -/
def ofScalar (tag : Option Tag) (isPlain : Bool) (text : String) : Node :=
  if !isPlain then .text text
  else
    match tag with
    | none => ofPlain text
    | some tag => ofTagged tag text

def isInvalid : Node → Bool
  | invalid => true
  | _ => false

/-- Whether two nodes are the same scalar. -/
def isSameScalar : Node → Node → Bool
  | absent, absent => true
  | switch left, switch right => left == right
  | integer left, integer right => left == right
  | decimal left, decimal right => left == right
  | text left, text right => left == right
  | _, _ => false

/-- The name that a key stands for. -/
def name? : Node → Option String
  | switch value => some (if value then "true" else "false")
  | integer value => some (toString value)
  | decimal written => some written
  | text value => some value
  | _ => none

mutual

/-- A node as a setting. A decimal must be one of the numbers with digits, and a key must have a
name. -/
def setting? : Node → Option Setting
  | invalid => some .absent
  | absent => some .absent
  | switch value => some (.switch value)
  | integer value => some (.integer value)
  | decimal written => (Double.ofText? written).map .decimal
  | text value => some (.text value)
  | list items => (itemSettings? items).map .list
  | table members => (memberSettings? [] members).map .table

def itemSettings? : List Node → Option (List Setting)
  | [] => some []
  | item :: rest => do
    let item ← setting? item
    let rest ← itemSettings? rest
    some (item :: rest)

def memberSettings? (done : Entries Setting) : List (Node × Node) → Option (Entries Setting)
  | [] => some done
  | (key, value) :: rest => do
    let name ← key.name?
    let value ← setting? value
    memberSettings? (Entries.insert name value done) rest

end

end Node

end LtiPlatform.Yaml
