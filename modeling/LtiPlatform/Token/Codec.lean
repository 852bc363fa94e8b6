import LtiPlatform.Token.SigningKey
import LtiPlatform.Claims.Conversion

namespace LtiPlatform

/-- What a token says of itself, as far as verification needs it. -/
structure TokenHeader where
  algorithm : Algorithm
  keyId : Option String
deriving DecidableEq, Repr, Inhabited

namespace TokenHeader

def toText (header : TokenHeader) : String :=
  (Json.ofMap <| (OrderedMap.ofList
    [("typ", .string "JWT"), ("alg", .string header.algorithm.name)]).insertSome "kid"
    (header.keyId.map .string)).compact

def textNames : List String :=
  ["typ", "cty", "jku", "kid", "x5u", "x5t", "x5t#S256", "url", "nonce", "enc", "zip"]

def listNames : List String := ["crit", "x5c"]

def knownNames : List String := "alg" :: "jwk" :: textNames ++ listNames

/-- Whether a member other than the algorithm has a value that its name allows. Names without a
meaning must have a text. -/
def isFit (name : String) (value : WrittenJson) : Bool :=
  if textNames.contains name then value.isNull || value.string?.isSome
  else if listNames.contains name then (Jwk.optionalTexts? (some value)).isSome
  else if name = "jwk" then
    value.isNull || (Jwk.ofWritten? (Json.depthLimit - 1) value).isSome
  else value.string?.isSome

def ofMembers? (members : List (String × WrittenJson)) : Option TokenHeader := do
  let record ← (Record.named members).check? knownNames false
  let algorithm ← ((record.value? 0 "alg").bind WrittenJson.alternative?).bind Algorithm.ofName?
  let keyId ← record.optionalText? 0 "kid"
  if members.all fun member => member.1 == "alg" || isFit member.1 member.2 then
    some ⟨algorithm, keyId⟩
  else none

def ofText? (text : String) : Option TokenHeader :=
  match Record.parse? text with
  | some (.named members) => ofMembers? members
  | _ => none

end TokenHeader

/-- A token cut at its last two dots. -/
structure TokenSegments where
  header : String
  payload : String
  signature : String
deriving DecidableEq, Repr, Inhabited

namespace TokenSegments

/-- The text before and after the last dot. -/
def cutLast? (text : List Char) : Option (List Char × List Char) :=
  let reversed := text.reverse
  match reversed.dropWhile (· ≠ '.') with
  | [] => none
  | _ :: before => some (before.reverse, (reversed.takeWhile (· ≠ '.')).reverse)

/-- Dots before the last two belong to the header. -/
def ofText? (token : String) : Option TokenSegments := do
  let (signed, signature) ← cutLast? token.toList
  let (header, payload) ← cutLast? signed
  some ⟨.ofList header, .ofList payload, .ofList signature⟩

/-- The text that the signature is of. -/
def signedText (segments : TokenSegments) : String := segments.header ++ "." ++ segments.payload

def toText (segments : TokenSegments) : String :=
  segments.signedText ++ "." ++ segments.signature

def ofTexts (header payload : String) (signature : Bytes) : TokenSegments :=
  ⟨Base64.encodeUrl (.ofText header), Base64.encodeUrl (.ofText payload),
    Base64.encodeUrl signature⟩

end TokenSegments

/-- How tokens are accepted: the algorithms that may sign them, and for how many seconds after its
expiry a token is still good. -/
structure TokenCodec where
  algorithms : List Algorithm := Algorithm.asymmetric
  leeway : Nat := 60
deriving DecidableEq, Repr, Inhabited

namespace TokenCodec

def withLeeway (codec : TokenCodec) (leeway : Nat) : TokenCodec := { codec with leeway }

/-- Algorithms with a shared secret cannot be allowed. -/
def withAlgorithms (codec : TokenCodec) (algorithms : List Algorithm) : TokenCodec :=
  { codec with algorithms := algorithms.filter Algorithm.asymmetric.contains }

def issue (scheme : SignatureScheme) (key : SigningKey) (claims : Claims) :
    Except TokenError String :=
  let header := TokenHeader.toText ⟨key.algorithm, some key.id⟩
  let unsigned := TokenSegments.ofTexts header (Json.ofMap claims).compact []
  match scheme.sign? key.secret (.ofText unsigned.signedText) with
  | none => .error (.signing "Signing failed: the key is not fit for it")
  | some signature => .ok { unsigned with signature := Base64.encodeUrl signature }.toText

def readHeader (segment : String) : Except TokenError TokenHeader :=
  match Base64.decodeUrl? segment with
  | none => .error (.malformed "Base64 error: header is not base64url")
  | some bytes =>
    match (Bytes.toText? bytes).bind TokenHeader.ofText? with
    | none => .error (.malformed "JSON error: header is not a token header")
    | some header => .ok header

/-- The key that a token must be signed with: the first one with its id, provided it is not meant
for another algorithm. -/
def keyFor (keys : KeySet) (header : TokenHeader) : Except TokenError Jwk :=
  match header.keyId with
  | none => .error .missingKeyId
  | some id =>
    match keys.find? id with
    | none => .error (.unknownKeyId id)
    | some key =>
      match key.use with
      | none => .ok key
      | some use =>
        if use.tokenAlgorithm? = some header.algorithm then .ok key
        else .error (.algorithmNotAllowed header.algorithm.name)

/-- Whether the signature is one of the first two segments under the key. -/
def checkSignature (scheme : SignatureScheme) (header : TokenHeader) (key : Jwk)
    (segments : TokenSegments) : Except TokenError Unit :=
  match key.material.decode? with
  | none => .error (.invalidKey "Base64 error: key is not base64url")
  | some verifyingKey =>
    if key.material.family ≠ header.algorithm.family then .error (.verification .keyDoesNotFit)
    else
      match Base64.decodeUrl? segments.signature with
      | none => .error (.verification .signatureNotBase64)
      | some signature =>
        if scheme.verify header.algorithm verifyingKey (.ofText segments.signedText) signature then
          .ok ()
        else .error (.verification .signatureMismatch)

/-- The second that an expiry names: a whole number of 64 bits, or the whole number nearest to a
double, a half going up. -/
def expiry? : Json → Option Nat
  | .number (.integer value) => if value < 0 then none else some value.toNat
  | .number (.double value) =>
    if value.negative ∧ ¬ value.isZero then none
    else
      let scaled := Binary64.scale 2 value.exponent (2 * value.significand) 1
      let rounded := (scaled.1 / scaled.2 + 1) / 2
      if 0x10000000000000000 ≤ rounded then none else some rounded
  | _ => none

/-- Claims with a fixed meaning, which may not be written twice. -/
def registeredNames : List String := ["exp", "nbf", "sub", "iss", "aud"]

/-- Whether the registered claim of that name can be read at all. A subject that is a list or an object, and
a time that is a list or an object with something in it, cannot. -/
def isReadableAs (name : String) (value : Json) : Bool :=
  match name with
  | "sub" => value.isScalar
  | "exp" => !value.hasContents
  | "nbf" => !value.hasContents
  | _ => true

def isReadable (members : List (String × Json)) : Bool :=
  (registeredNames.all fun name => (members.filter (·.1 == name)).length ≤ 1) &&
    members.all fun member => isReadableAs member.1 member.2

def readPayload (segment : String) : Except TokenError Claims :=
  match Base64.decodeUrl? segment with
  | none => .error (.verification .payloadNotBase64)
  | some bytes =>
    match (Bytes.toText? bytes).bind (Json.parseWritten? Json.depthLimit) with
    | some (.object members) =>
      match Json.mapOf? members with
      | some claims =>
        if isReadable members then .ok claims else .error (.verification .payloadNotJson)
      | none => .error (.verification .payloadNotJson)
    | _ => .error (.verification .payloadNotJson)

/-- The difference of two words of 64 bits, which starts again from the greatest one below zero. -/
def wordDifference (minuend subtrahend : Nat) : Nat :=
  if subtrahend ≤ minuend then minuend - subtrahend
  else minuend + 0x10000000000000000 - subtrahend

theorem wordDifference_of_le {minuend subtrahend : Nat} (enough : subtrahend ≤ minuend) :
    wordDifference minuend subtrahend = minuend - subtrahend := if_pos enough

/-- A token without expiry never expires. A leeway that is greater than the time makes all others
expire at once. -/
def checkExpiry (codec : TokenCodec) (now : Nat) (claims : Claims) : Except TokenError Unit :=
  match claims.get? "exp" with
  | none => .ok ()
  | some value =>
    match expiry? value with
    | none => .error (.verification .badExpiry)
    | some second =>
      if second < wordDifference now codec.leeway then .error (.verification .expired) else .ok ()

/-- The claims of a token that was signed with one of the keys and has not expired. -/
def verify (scheme : SignatureScheme) (codec : TokenCodec) (keys : KeySet) (now : Nat)
    (token : String) : Except TokenError Claims :=
  match TokenSegments.ofText? token with
  | none => .error (.malformed "InvalidToken")
  | some segments => do
    let header ← readHeader segments.header
    if codec.algorithms.contains header.algorithm then
      let key ← keyFor keys header
      checkSignature scheme header key segments
      let claims ← readPayload segments.payload
      codec.checkExpiry now claims
      return claims
    else .error (.algorithmNotAllowed header.algorithm.name)

end TokenCodec

end LtiPlatform
