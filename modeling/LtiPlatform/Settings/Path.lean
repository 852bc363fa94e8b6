import LtiPlatform.Settings.Value
import LtiPlatform.Text.Reader

namespace LtiPlatform

/-- A step from a value into it. A negative place counts from the end of a list. -/
inductive PathStep where
  | member (name : String)
  | item (place : Int)
deriving DecidableEq, Repr, Inhabited

namespace PathStep

open LtiPlatform.Reader

def isNameChar (c : Char) : Bool := c.isAlphanum || c == '_' || c == '-'

def isBlank (c : Char) : Bool := c == ' ' || c == '\t'

def name : Reader PathStep := fun chars =>
  match chars.span isNameChar with
  | ([], _) => none
  | (name, rest) => some (.member (.ofList name), rest)

/-- A place, behind the bracket that opens it. -/
def place : Reader PathStep := fun chars => do
  let (negative, rest) :=
    match chars.dropWhile isBlank with
    | '-' :: rest => (true, rest)
    | rest => (false, rest)
  let (found, rest) := digits rest
  let rest ← expect ']' (rest.dropWhile isBlank)
  let value : Int := Text.digitsValue found
  let value := if negative then -value else value
  if found.isEmpty ∨ !Setting.isInteger value then none else some (.item value, rest)

/-- The steps behind the first one. Each takes at least one character. -/
def stepsWithin : Nat → List Char → Option (List PathStep)
  | 0, _ => none
  | _, [] => some []
  | count + 1, mark :: rest => do
    let (step, rest) ← if mark = '.' then name rest else if mark = '[' then place rest else none
    (stepsWithin count rest).map (step :: ·)

/-- A text that is no path stands for the member of that name. -/
def ofText (text : String) : List PathStep :=
  let steps := do
    let (first, rest) ← name text.toList
    (stepsWithin (rest.length + 1) rest).map (first :: ·)
  steps.getD [.member text]

end PathStep

namespace Setting

/-- The members of a table, none of any other value. -/
def members : Setting → Entries Setting
  | table members => members
  | _ => []

/-- The items of a list, none of any other value. -/
def items : Setting → List Setting
  | list items => items
  | _ => []

mutual

/-- What comes of a value that is set where another one is: a table joins it, and any other value
takes its place. -/
def joined (present : Setting) : Setting → Setting
  | table incoming => table (joinedMembers present.members incoming)
  | incoming => incoming

def joinedMembers (present : Entries Setting) : List (String × Setting) → Entries Setting
  | [] => present
  | (name, incoming) :: rest =>
    let value := joined ((present.get? name).getD absent) incoming
    joinedMembers (Entries.insert name value present) rest

end

/-- The items with room for a place, and the place counted from the beginning. -/
def withRoom (place : Int) (items : List Setting) : List Setting × Nat :=
  let back := (-place).toNat
  if 0 ≤ place then
    (items ++ List.replicate (place.toNat + 1 - items.length) absent, place.toNat)
  else if back ≤ items.length then (items, items.length - back)
  else (List.replicate (back - items.length) absent ++ items, 0)

/-- Sets a value at the end of a path. -/
def putAt (incoming : Setting) : List PathStep → Setting → Setting
  | [], present => joined present incoming
  | .member name :: rest, present =>
    let inner := putAt incoming rest ((present.members.get? name).getD absent)
    table (Entries.insert name inner present.members)
  | .item place :: rest, present =>
    let (items, place) := withRoom place present.items
    list (items.set place (putAt incoming rest (items[place]?.getD absent)))

end Setting

end LtiPlatform
