import LtiPlatform.Signature.Bytes

namespace LtiPlatform

/-- An element of DER, of which private key files consist. -/
structure DerElement where
  tag : UInt8
  contents : Bytes
deriving DecidableEq, Repr

namespace Der

/-- A length is one byte below 128, or a count of bytes and then the least number of them. -/
def length? : Bytes → Option (Nat × Bytes)
  | [] => none
  | first :: rest =>
    if first < 0x80 then some (first.toNat, rest)
    else
      let count := first.toNat - 0x80
      let digits := rest.take count
      let value := Bytes.toNat digits
      if count = 0 ∨ digits.length < count ∨ digits.head? = some 0 ∨ value < 0x80 then none
      else some (value, rest.drop count)

def element? : Bytes → Option (DerElement × Bytes)
  | [] => none
  | tag :: rest => do
    let (length, rest) ← length? rest
    if rest.length < length then none
    else some (⟨tag, rest.take length⟩, rest.drop length)

/-- The elements that make up the bytes. Each takes at least two of them. -/
def elementsWithin : Nat → Bytes → Option (List DerElement)
  | _, [] => some []
  | 0, _ => none
  | steps + 1, bytes => do
    let (element, rest) ← element? bytes
    let others ← elementsWithin steps rest
    some (element :: others)

def elements? (bytes : Bytes) : Option (List DerElement) := elementsWithin bytes.length bytes

def sequenceTag : UInt8 := 0x30

/-- The tags of the types in use, and those of the other classes with numbers up to 30. -/
def isKnownTag (tag : UInt8) : Bool :=
  [0x01, 0x02, 0x03, 0x04, 0x05, 0x06, 0x09, 0x0a, 0x0c, 0x12, 0x13, 0x14, 0x15, 0x16, 0x17, 0x18,
    0x1a, 0x1e, 0x30, 0x31].contains tag || (0x40 ≤ tag && tag % 32 != 31)

/-- The elements of a sequence that makes up the bytes. -/
def sequence? (bytes : Bytes) : Option (List DerElement) := do
  let (element, rest) ← element? bytes
  if element.tag = sequenceTag ∧ rest = [] then elements? element.contents else none

end Der

namespace DerElement

def sequence? (element : DerElement) : Option (List DerElement) :=
  if element.tag = Der.sequenceTag then Der.elements? element.contents else none

/-- A natural number in the least number of bytes. -/
def natural? (element : DerElement) : Option Nat :=
  if element.tag ≠ 0x02 then none
  else
    match element.contents with
    | [] => none
    | [byte] => if byte < 0x80 then some byte.toNat else none
    | first :: second :: rest =>
      if 0x80 ≤ first ∨ (first = 0 ∧ second < 0x80) then none
      else some (Bytes.toNat (first :: second :: rest))

/-- The number of a context-specific tag. -/
def field? (element : DerElement) : Option Nat :=
  if 0x80 ≤ element.tag ∧ element.tag < 0xc0 ∧ Der.isKnownTag element.tag then
    some (element.tag % 32).toNat
  else none

def isConstructed (element : DerElement) : Bool := element.tag / 32 % 2 == 1

/-- The one element inside a field. -/
def enclosed? (element : DerElement) : Option DerElement :=
  match element.field?, Der.elements? element.contents with
  | some _, some [inner] =>
    if element.isConstructed ∧ Der.isKnownTag inner.tag then some inner else none
  | _, _ => none

/-- Bits that fill up whole bytes, behind the count of those missing. -/
def wholeBytes? (contents : Bytes) : Option Bytes :=
  match contents with
  | 0 :: bytes => some bytes
  | _ => none

def bits? (element : DerElement) : Option Bytes :=
  if element.tag = 0x03 then wholeBytes? element.contents else none

def octets? (element : DerElement) : Option Bytes :=
  if element.tag = 0x04 then some element.contents else none

/-- The identifier of an object. Its first byte stands for two numbers below 40, and the last byte of
each further number is below 128. -/
def identifier? (element : DerElement) : Option Bytes :=
  let contents := element.contents
  if element.tag = 0x06 ∧ 3 ≤ contents.length ∧ contents.length ≤ 39 ∧
      contents.head?.all (· < 120) ∧ contents.getLast?.all (· < 0x80) then
    some contents
  else none

end DerElement

namespace Der

/-- The field of that number, if it comes next. Fields of lower numbers are passed over. -/
def takeField? (number : Nat) : List DerElement → Option (Option DerElement × List DerElement)
  | [] => some (none, [])
  | element :: rest =>
    match element.field? with
    | none => some (none, element :: rest)
    | some found =>
      if found < number then takeField? number rest
      else if found = number then some (some element, rest)
      else some (none, element :: rest)

end Der

/-- A private key in the wrapping that names its algorithm. -/
structure WrappedKey where
  algorithm : Bytes
  parameters : Option DerElement
  key : Bytes
deriving DecidableEq, Repr

namespace WrappedKey

/-- Attributes may follow the key, and then the public key, but only in the second version of the
format; and then further fields. -/
def ofElements? : List DerElement → Option WrappedKey
  | version :: algorithm :: key :: fields => do
    let version ← version.natural?
    let key ← key.octets?
    let (publicKey, fields) ← Der.takeField? 1 fields
    let isFit := publicKey.all fun field =>
      !field.isConstructed && (DerElement.wholeBytes? field.contents).isSome
    if version = (if publicKey.isSome then 1 else 0) ∧ isFit ∧
        fields.all (·.enclosed?.isSome) then
      match ← algorithm.sequence? with
      | [identifier] => (identifier.identifier?).map fun name => ⟨name, none, key⟩
      | [identifier, parameters] => (identifier.identifier?).map fun name => ⟨name, parameters, key⟩
      | _ => none
    else none
  | _ => none

def ofDer? (contents : Bytes) : Option WrappedKey := (Der.sequence? contents).bind ofElements?

end WrappedKey

end LtiPlatform
