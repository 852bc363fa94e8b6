import LtiPlatform.Json.Record
import LtiPlatform.Json.Printer
import LtiPlatform.Signature.Base64
import LtiPlatform.Token.Algorithm
import LtiPlatform.Token.Error

namespace LtiPlatform

/-- What a key says it is to be used with. -/
inductive KeyUse where
  | signing (algorithm : Algorithm)
  | encryption (name : String)
  | unknown
deriving DecidableEq, Repr, Inhabited

namespace KeyUse

def encryptionNames : List String := ["RSA1_5", "RSA-OAEP", "RSA-OAEP-256"]

/-- Names that are not known all mean the same. -/
def ofName (name : String) : KeyUse :=
  match Algorithm.ofName? name with
  | some algorithm => signing algorithm
  | none => if encryptionNames.contains name then encryption name else unknown

def name : KeyUse → String
  | signing algorithm => algorithm.name
  | encryption name => name
  | unknown => "UNKNOWN_ALGORITHM"

/-- The asymmetric algorithm that tokens under the key are signed with. -/
def tokenAlgorithm? : KeyUse → Option Algorithm
  | signing algorithm => if Algorithm.asymmetric.contains algorithm then some algorithm else none
  | _ => none

end KeyUse

/-- The material of a key, as it is written. -/
inductive KeyMaterial where
  | ellipticCurve (curve x y : String)
  | rsa (modulus exponent : String)
  | sharedSecret (secret : String)
  | edwardsCurve (curve x : String)
deriving DecidableEq, Repr, Inhabited

namespace KeyMaterial

def family : KeyMaterial → KeyFamily
  | ellipticCurve .. => .ellipticCurve
  | rsa .. => .rsa
  | sharedSecret .. => .sharedSecret
  | edwardsCurve .. => .edwardsCurve

def curves : List String := ["P-256", "P-384", "P-521", "Ed25519"]

def members : KeyMaterial → List (String × Json)
  | ellipticCurve curve x y =>
    [("kty", .string "EC"), ("crv", .string curve), ("x", .string x), ("y", .string y)]
  | rsa modulus exponent =>
    [("kty", .string "RSA"), ("n", .string modulus), ("e", .string exponent)]
  | sharedSecret secret => [("kty", .string "oct"), ("k", .string secret)]
  | edwardsCurve curve x => [("kty", .string "OKP"), ("crv", .string curve), ("x", .string x)]

end KeyMaterial

/-- Where the certificate of a key is found, and which one it is. -/
structure KeyCertificate where
  url : Option String := none
  chain : Option (List String) := none
  sha1 : Option String := none
  sha256 : Option String := none
deriving DecidableEq, Repr, Inhabited

structure Jwk where
  purpose : Option String := none
  operations : Option (List String) := none
  use : Option KeyUse := none
  id : Option String := none
  certificate : KeyCertificate := {}
  material : KeyMaterial
deriving DecidableEq, Repr, Inhabited

namespace Jwk

def optional (name : String) : Option Json → List (String × Json)
  | none => []
  | some value => [(name, value)]

def toJson (key : Jwk) : Json :=
  .object <|
    optional "use" (key.purpose.map .string) ++
    optional "key_ops" (key.operations.map Json.ofStrings) ++
    optional "alg" (key.use.map fun use => .string use.name) ++
    optional "kid" (key.id.map .string) ++
    optional "x5u" (key.certificate.url.map .string) ++
    optional "x5c" (key.certificate.chain.map Json.ofStrings) ++
    optional "x5t" (key.certificate.sha1.map .string) ++
    optional "x5t#S256" (key.certificate.sha256.map .string) ++ key.material.members

def texts? (items : List WrittenJson) : Option (List String) := items.mapM WrittenJson.string?

/-- A list of texts that may be absent or null. -/
def optionalTexts? : Option WrittenJson → Option (Option (List String))
  | none => some none
  | some .null => some none
  | some (.array items) => (texts? items).map some
  | some _ => none

/-- The texts of members that must all be there once. -/
def requiredTexts? (record : Record) (names : List String) : Option (List String) :=
  (record.check? names false).bind fun record => names.mapM (record.text? 0 ·)

/-- A curve must be one of those known. -/
def curve? (record : Record) : Option String :=
  ((record.check? ["crv"] false).bind fun record =>
    (record.value? 0 "crv").bind WrittenJson.alternative?).filter KeyMaterial.curves.contains

/-- Each kind of key has members of its own; a repeated or missing one makes no key. -/
def material? (record : Record) : Option KeyMaterial := do
  let record ← record.check? ["kty"] false
  match ← (record.value? 0 "kty").bind WrittenJson.alternative? with
  | "EC" =>
    match curve? record, requiredTexts? record ["x", "y"] with
    | some curve, some [x, y] => some (.ellipticCurve curve x y)
    | _, _ => none
  | "RSA" =>
    match requiredTexts? record ["n", "e"] with
    | some [modulus, exponent] => some (.rsa modulus exponent)
    | _ => none
  | "oct" =>
    match requiredTexts? record ["k"] with
    | some [secret] => some (.sharedSecret secret)
    | _ => none
  | "OKP" =>
    match curve? record, requiredTexts? record ["x"] with
    | some curve, some [x] => some (.edwardsCurve curve x)
    | _, _ => none
  | _ => none

/-- The name of an algorithm may also stand as an object whose one member is null or empty. -/
def optionalUse? : Option WrittenJson → Option (Option KeyUse)
  | none => some none
  | some .null => some none
  | some (.object [(name?, .object [])]) => name?.map fun name => some (.ofName name)
  | some value => value.alternative?.map fun name => some (.ofName name)

def sharedNames : List String :=
  ["use", "key_ops", "alg", "kid", "x5u", "x5c", "x5t", "x5t#S256"]

def ofRecord? (record : Record) : Option Jwk := do
  let record ← record.check? sharedNames false
  let purpose ← record.optionalText? 0 "use"
  let operations ← optionalTexts? (record.value? 0 "key_ops")
  let use ← optionalUse? (record.value? 0 "alg")
  let id ← record.optionalText? 0 "kid"
  let url ← record.optionalText? 0 "x5u"
  let chain ← optionalTexts? (record.value? 0 "x5c")
  let sha1 ← record.optionalText? 0 "x5t"
  let sha256 ← record.optionalText? 0 "x5t#S256"
  let material ← material? record
  some ⟨purpose, operations, use, id, ⟨url, chain, sha1, sha256⟩, material⟩

/-- Members beside those of the model are passed over, but must be known values that nest at most
`depth` deep. -/
def ofWritten? (depth : Nat) (value : WrittenJson) : Option Jwk :=
  match value with
  | .object members => (value.toJson? depth).bind fun _ => (Record.named? members).bind ofRecord?
  | _ => none

end Jwk

/-- Keys in the order in which they were published. -/
structure KeySet where
  keys : List Jwk
deriving DecidableEq, Repr, Inhabited

namespace KeySet

def empty : KeySet := ⟨[]⟩

/-- The first key that carries the id. -/
def find? (set : KeySet) (id : String) : Option Jwk := set.keys.find? (·.id == some id)

def toJson (set : KeySet) : Json := .object [("keys", .array (set.keys.map Jwk.toJson))]

def toText (set : KeySet) : String := set.toJson.pretty

def ofRecord? (record : Record) : Option KeySet := do
  let record ← record.check? ["keys"] true
  let items ← (record.value? 0 "keys").bind WrittenJson.array?
  let keys ← items.mapM (Jwk.ofWritten? (Json.depthLimit - 2))
  some ⟨keys⟩

def parse (text : String) : Except TokenError KeySet :=
  match (Record.parse? text).bind ofRecord? with
  | some set => .ok set
  | none => .error (.invalidKeySet "not a JSON object with a list of keys")

end KeySet

end LtiPlatform
