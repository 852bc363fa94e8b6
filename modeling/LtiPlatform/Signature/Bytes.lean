namespace LtiPlatform

abbrev Bytes := List UInt8

namespace Bytes

def ofText (text : String) : Bytes := text.toUTF8.toList

/-- The text with these UTF-8 bytes, if there is one. -/
def toText? (bytes : Bytes) : Option String := String.fromUTF8? ⟨bytes.toArray⟩

/-- The number with these digits in base 256, most significant first. -/
def toNat (bytes : Bytes) : Nat := bytes.foldl (fun value byte => value * 256 + byte.toNat) 0

def ofNatAux : Nat → Nat → Bytes → Bytes
  | 0, _, low => low
  | count + 1, value, low => ofNatAux count (value / 256) (.ofNat (value % 256) :: low)

/-- The last `count` digits of a number in base 256. -/
def ofNat (count value : Nat) : Bytes := ofNatAux count value []

/-- How many digits a number has in base 256. -/
def width (value : Nat) : Nat := if value = 0 then 0 else value.log2 / 8 + 1

def ofNatMinimal (value : Nat) : Bytes := ofNat (width value) value

end Bytes

end LtiPlatform
