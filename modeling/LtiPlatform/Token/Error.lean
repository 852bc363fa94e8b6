namespace LtiPlatform

/-- Why a well-formed token with a known key was not accepted. -/
inductive Rejection where
  | keyDoesNotFit
  | signatureNotBase64
  | payloadNotBase64
  | signatureMismatch
  | payloadNotJson
  | badExpiry
  | expired
deriving DecidableEq, Repr, Inhabited

inductive TokenError where
  | malformed (reason : String)
  | missingKeyId
  | unknownKeyId (id : String)
  | algorithmNotAllowed (name : String)
  | verification (rejection : Rejection)
  | signing (reason : String)
  | invalidKey (reason : String)
  | invalidKeySet (reason : String)
deriving DecidableEq, Repr, Inhabited

namespace Rejection

def message : Rejection → String
  | keyDoesNotFit => "InvalidKeyFormat"
  | signatureNotBase64 => "Base64 error: signature is not base64url"
  | payloadNotBase64 => "Base64 error: payload is not base64url"
  | signatureMismatch => "InvalidSignature"
  | payloadNotJson => "JSON error: payload is not an object"
  | badExpiry => "Invalid format for claim: exp"
  | expired => "ExpiredSignature"

end Rejection

namespace TokenError

def message : TokenError → String
  | malformed reason => "malformed token: " ++ reason
  | missingKeyId => "token header has no kid"
  | unknownKeyId id => "unknown key id '" ++ id ++ "'"
  | algorithmNotAllowed name => "algorithm " ++ name ++ " not allowed"
  | verification rejection => "verification failed: " ++ rejection.message
  | signing reason => "signing failed: " ++ reason
  | invalidKey reason => "invalid key material: " ++ reason
  | invalidKeySet reason => "invalid key set: " ++ reason

end TokenError

end LtiPlatform
