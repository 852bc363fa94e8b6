import LtiPlatform.Signature.Bytes

namespace LtiPlatform.Uuid

def hexPair (byte : UInt8) : List Char :=
  [(byte / 16).toNat, (byte % 16).toNat].map fun digit => (Nat.toDigits 16 digit).headD '0'

/-- Marks the bytes as random, which is version 4 of variant 1. -/
def marked (bytes : Bytes) : Bytes :=
  (bytes.modify 6 fun byte => byte % 16 + 0x40).modify 8 fun byte => byte % 64 + 0x80

/-- The groups, given how many bytes are in each of them. -/
def groups : List Nat → Bytes → List String
  | [], _ => []
  | size :: sizes, bytes =>
    .ofList ((bytes.take size).flatMap hexPair) :: groups sizes (bytes.drop size)

/-- The identifier of 16 random bytes. -/
def ofBytes (bytes : Bytes) : String := "-".intercalate (groups [4, 2, 2, 2, 6] (marked bytes))

end LtiPlatform.Uuid
