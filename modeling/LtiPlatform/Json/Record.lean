import LtiPlatform.Json.Parser

namespace LtiPlatform

/-- A record with a fixed list of fields: the named members of an object, where unknown names are passed over and a
field may not be repeated, or an array of its values in the order of the fields. What an unknown name stands for is
not looked at. -/
inductive Record where
  | named (members : List (String × WrittenJson))
  | positional (values : List WrittenJson)
deriving Repr, Inhabited

namespace Record

/-- The members under their names, which must all be known. -/
def named? (members : List (Option String × WrittenJson)) : Option Record := do
  let members ← members.mapM fun member => member.1.map fun name => (name, member.2)
  some (named members)

def ofWritten? : WrittenJson → Option Record
  | .object members => named? members
  | .array values => some (.positional values)
  | _ => none

def ofJson? (value : Json) : Option Record := ofWritten? (.ofJson value)

/-- Reads a text and keeps repeated names, so that they can be refused. -/
def parse? (text : String) : Option Record := (Json.written? text).bind ofWritten?

/-- Refuses an array that has too many values, or too few where `complete` asks for all of them, and
an object that repeats a field. -/
def check? (record : Record) (fields : List String) (complete : Bool) : Option Record :=
  match record with
  | named members =>
    if fields.all fun field => (members.filter (·.1 == field)).length ≤ 1 then some record else none
  | positional values =>
    if fields.length < values.length then none
    else if complete && values.length < fields.length then none
    else some record

/-- The value of a field, given its name and its position. -/
def value? (record : Record) (position : Nat) (name : String) : Option WrittenJson :=
  match record with
  | named members => members.lookup name
  | positional values => values[position]?

def text? (record : Record) (position : Nat) (name : String) : Option String :=
  (record.value? position name).bind WrittenJson.string?

/-- A text that may be absent or null. -/
def optionalText? (record : Record) (position : Nat) (name : String) : Option (Option String) :=
  match record.value? position name with
  | none => some none
  | some .null => some none
  | some value => value.string?.map some

end Record

end LtiPlatform
