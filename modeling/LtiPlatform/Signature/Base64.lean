import LtiPlatform.Signature.Bytes
import LtiPlatform.Text

namespace LtiPlatform.Base64

/-- The characters for the digits 62 and 63. -/
structure Alphabet where
  plus : Char
  slash : Char

def url : Alphabet := ⟨'-', '_'⟩

def standard : Alphabet := ⟨'+', '/'⟩

def digit (alphabet : Alphabet) (n : Nat) : Char :=
  if n < 26 then .ofNat ('A'.toNat + n)
  else if n < 52 then .ofNat ('a'.toNat + (n - 26))
  else if n < 62 then .ofNat ('0'.toNat + (n - 52))
  else if n = 62 then alphabet.plus
  else alphabet.slash

def value? (alphabet : Alphabet) (c : Char) : Option Nat :=
  if 'A' ≤ c ∧ c ≤ 'Z' then some (c.toNat - 'A'.toNat)
  else if 'a' ≤ c ∧ c ≤ 'z' then some (c.toNat - 'a'.toNat + 26)
  else if '0' ≤ c ∧ c ≤ '9' then some (c.toNat - '0'.toNat + 52)
  else if c = alphabet.plus then some 62
  else if c = alphabet.slash then some 63
  else none

/-- Three bytes make four characters; the last one or two bytes make two or three. -/
def encodeChars (alphabet : Alphabet) : Bytes → List Char
  | a :: b :: c :: rest =>
    let word := (a.toNat * 256 + b.toNat) * 256 + c.toNat
    digit alphabet (word / 262144) :: digit alphabet (word / 4096 % 64) ::
      digit alphabet (word / 64 % 64) :: digit alphabet (word % 64) :: encodeChars alphabet rest
  | [a, b] =>
    let word := (a.toNat * 256 + b.toNat) * 4
    [digit alphabet (word / 4096), digit alphabet (word / 64 % 64), digit alphabet (word % 64)]
  | [a] =>
    let word := a.toNat * 16
    [digit alphabet (word / 64), digit alphabet (word % 64)]
  | [] => []

def decodeChars (alphabet : Alphabet) : List Char → Option Bytes
  | a :: b :: c :: d :: rest => do
    let a ← value? alphabet a
    let b ← value? alphabet b
    let c ← value? alphabet c
    let d ← value? alphabet d
    let word := ((a * 64 + b) * 64 + c) * 64 + d
    let rest ← decodeChars alphabet rest
    some (.ofNat (word / 65536) :: .ofNat (word / 256 % 256) :: .ofNat (word % 256) :: rest)
  | [a, b, c] => do
    let a ← value? alphabet a
    let b ← value? alphabet b
    let c ← value? alphabet c
    let word := (a * 64 + b) * 64 + c
    if word % 4 = 0 then some [.ofNat (word / 1024), .ofNat (word / 4 % 256)] else none
  | [a, b] => do
    let a ← value? alphabet a
    let b ← value? alphabet b
    let word := a * 64 + b
    if word % 16 = 0 then some [.ofNat (word / 16)] else none
  | [_] => none
  | [] => some []

/-- The unpadded text in the URL alphabet. -/
def encodeUrl (bytes : Bytes) : String := .ofList (encodeChars url bytes)

/-- The bits of the last digit that no byte takes up must be zero. -/
def decodeUrl? (text : String) : Option Bytes := decodeChars url text.toList

/-- Reads the standard alphabet, filled up to a multiple of four characters by equals signs. -/
def decodePadded? (chars : List Char) : Option Bytes :=
  let bare := (chars.reverse.dropWhile (· == '=')).reverse
  let padding := chars.length - bare.length
  if chars.length % 4 = 0 ∧ padding ≤ 2 then decodeChars standard bare else none

end LtiPlatform.Base64
