import LtiPlatform.Double
import LtiPlatform.Json.Basic

namespace LtiPlatform

/-- The values of a configuration, whatever format they were written in. -/
inductive Setting where
  | absent
  | switch (value : Bool)
  | integer (value : Int)
  | decimal (value : Double)
  | text (value : String)
  | list (items : List Setting)
  | table (members : List (String × Setting))
deriving Repr, Inhabited

namespace Setting

/-- The integers of 64 bits. -/
def isInteger (value : Int) : Bool := -0x8000000000000000 ≤ value && value < 0x8000000000000000

/-- The integer that a text of decimal digits, perhaps with a sign, stands for. -/
def integerOfText? (text : String) : Option Int :=
  let (negative, rest) := Double.signed text.toList
  let value : Int := Text.digitsValue rest
  let value := if negative then -value else value
  if !rest.isEmpty && rest.all Text.isDigit && isInteger value then some value else none

/-- What the text of a variable stands for: a truth value in any case of letters, else an integer,
else a number, else the text itself. -/
def ofText (text : String) : Setting :=
  let word := Text.asciiLowercase text
  if word = "true" then switch true
  else if word = "false" then switch false
  else
    match integerOfText? text, Double.ofText? text with
    | some value, _ => integer value
    | none, some value => decimal value
    | none, none => .text text

def onWords : List String := ["true", "on", "yes"]

def offWords : List String := ["false", "off", "no"]

def asText? : Setting → Option String
  | switch value => some (if value then "true" else "false")
  | integer value => some (toString value)
  | decimal value => some value.toText
  | text value => some value
  | _ => none

/-- The natural numbers of 64 bits. -/
def naturalLimit : Nat := 0xffffffffffffffff

/-- Digits, perhaps after a plus sign. -/
def naturalOfText? (text : String) : Option Nat :=
  let digits :=
    match text.toList with
    | '+' :: rest => rest
    | chars => chars
  let value := Text.digitsValue digits
  if !digits.isEmpty && digits.all Text.isDigit && value ≤ naturalLimit then some value else none

def asNatural? : Setting → Option Nat
  | switch value => some value.toNat
  | integer value => if value < 0 then none else some value.toNat
  | decimal value => some (value.roundedWithin naturalLimit)
  | text value =>
    let word := Text.asciiLowercase value
    if onWords.contains word then some 1
    else if offWords.contains word then some 0
    else naturalOfText? value
  | _ => none

def asSwitch? : Setting → Option Bool
  | switch value => some value
  | integer value => some (value != 0)
  | decimal value => some !value.isZero
  | text value =>
    let word := Text.asciiLowercase value
    if ("1" :: onWords).contains word then some true
    else if ("0" :: offWords).contains word then some false
    else none
  | _ => none

/-- The members of a table, or of a list that gives them in the order of their names. -/
def asRecord? (names : List String) : Setting → Option (Entries Setting)
  | table members => some members
  | list items => some (names.zip items)
  | _ => none

/-- One of several names, also as the only member of a table. -/
def asName? : Setting → Option String
  | text name => some name
  | table [(name, _)] => some name
  | _ => none

mutual

def ofJson : Json → Setting
  | .null => absent
  | .bool value => switch value
  | .number (.integer value) => integer value
  | .number (.double value) => decimal (.finite value)
  | .string value => text value
  | .array items => list (ofJsonItems items)
  | .object members => table (ofJsonMembers members)

def ofJsonItems : List Json → List Setting
  | [] => []
  | item :: rest => ofJson item :: ofJsonItems rest

def ofJsonMembers : List (String × Json) → List (String × Setting)
  | [] => []
  | (name, value) :: rest => (name, ofJson value) :: ofJsonMembers rest

end

end Setting

end LtiPlatform
