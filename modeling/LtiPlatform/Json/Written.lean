import LtiPlatform.Json.Basic

namespace LtiPlatform

/-- A value as it is written. Some of its parts may be unknown, such as a text with half a surrogate pair or a number
that is too great for a double, which does no harm until they are asked for. Names of an object may be repeated. -/
inductive WrittenJson where
  | null
  | bool (value : Bool)
  | number (value? : Option JsonNumber)
  | string (value? : Option String)
  | array (items : List WrittenJson)
  | object (members : List (Option String × WrittenJson))
deriving Repr, Inhabited

namespace WrittenJson

def isNull : WrittenJson → Bool
  | null => true
  | _ => false

def string? : WrittenJson → Option String
  | string value? => value?
  | _ => none

def array? : WrittenJson → Option (List WrittenJson)
  | array items => some items
  | _ => none

mutual

/-- The value, if all its parts are known and it has at most `depth` levels of arrays and objects. -/
def toJson? (depth : Nat) : WrittenJson → Option Json
  | null => some .null
  | bool value => some (.bool value)
  | number value? => value?.map .number
  | string value? => value?.map .string
  | array items => if depth = 0 then none else (itemsToJson? (depth - 1) items).map .array
  | object members => if depth = 0 then none else (membersToJson? (depth - 1) members).map .object

def itemsToJson? (depth : Nat) : List WrittenJson → Option (List Json)
  | [] => some []
  | item :: rest => do
    let item ← item.toJson? depth
    let rest ← itemsToJson? depth rest
    some (item :: rest)

def membersToJson? (depth : Nat) : List (Option String × WrittenJson) → Option (List (String × Json))
  | [] => some []
  | (name?, value) :: rest => do
    let name ← name?
    let value ← value.toJson? depth
    let rest ← membersToJson? depth rest
    some ((name, value) :: rest)

end

mutual

def ofJson : Json → WrittenJson
  | .null => null
  | .bool value => bool value
  | .number value => number (some value)
  | .string value => string (some value)
  | .array items => array (ofItems items)
  | .object members => object (ofMembers members)

def ofItems : List Json → List WrittenJson
  | [] => []
  | item :: rest => ofJson item :: ofItems rest

def ofMembers : List (String × Json) → List (Option String × WrittenJson)
  | [] => []
  | (name, value) :: rest => (some name, ofJson value) :: ofMembers rest

end

/-- The name of an alternative without data: a string, or an object whose one member is null. -/
def alternative? : WrittenJson → Option String
  | string value? => value?
  | object [(name?, null)] => name?
  | _ => none

end WrittenJson

end LtiPlatform
