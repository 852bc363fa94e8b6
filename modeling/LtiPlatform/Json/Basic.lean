import LtiPlatform.OrderedMap
import LtiPlatform.Binary64

namespace LtiPlatform

/-- A whole number that fits a word of 64 bits is kept exact, and every other number is a double. -/
inductive JsonNumber where
  | integer (value : Int)
  | double (value : Binary64)
deriving DecidableEq, Repr, Inhabited

namespace JsonNumber

/-- Whole numbers that are kept exact. -/
def isExact (value : Int) : Bool := -0x8000000000000000 ≤ value && value < 0x10000000000000000

end JsonNumber

/-- The members of an object keep their order. -/
inductive Json where
  | null
  | bool (value : Bool)
  | number (value : JsonNumber)
  | string (value : String)
  | array (items : List Json)
  | object (members : List (String × Json))
deriving Repr, Inhabited

namespace Json

def ofInt (value : Int) : Json := .number (.integer value)

def ofMap (map : OrderedMap Json) : Json := .object map.entries

def ofStrings (texts : List String) : Json := .array (texts.map .string)

def ofOption (text : Option String) : Json := text.elim .null .string

def isNull : Json → Bool
  | null => true
  | _ => false

def isScalar : Json → Bool
  | array _ => false
  | object _ => false
  | _ => true

/-- Whether the value is a list or an object with something in it. -/
def hasContents : Json → Bool
  | array items => !items.isEmpty
  | object members => !members.isEmpty
  | _ => false

def string? : Json → Option String
  | string value => some value
  | _ => none

def bool? : Json → Option Bool
  | bool value => some value
  | _ => none

def array? : Json → Option (List Json)
  | array items => some items
  | _ => none

/-- The members of an object; a name that occurs several times counts once, with its last value. -/
def object? : Json → Option (OrderedMap Json)
  | object members => some (.ofList members)
  | _ => none

/-- The member of that name, if the value is an object that has one. -/
def member? (value : Json) (name : String) : Option Json :=
  value.object?.bind (·.get? name)

end Json

end LtiPlatform
