import LtiPlatform.Claims.Conversion
import LtiPlatform.Token.Codec

namespace LtiPlatform

/-- How the platform describes itself to tools. -/
structure PlatformInstance where
  name : Option String := none
  guid : Option String := none
  productFamilyCode : Option String := none
  version : Option String := none
  contactEmail : Option String := none
  url : Option String := none
deriving DecidableEq, Repr, Inhabited

namespace PlatformInstance

/-- What is not known is left out. -/
def parameters (inst : PlatformInstance) : List (String × String) :=
  [("tool_consumer_instance_name", inst.name),
    ("tool_consumer_instance_guid", inst.guid),
    ("tool_consumer_info_product_family_code", inst.productFamilyCode),
    ("tool_consumer_info_version", inst.version),
    ("tool_consumer_instance_contact_email", inst.contactEmail),
    ("tool_consumer_instance_url", inst.url)].filterMap fun (name, value) =>
      value.map fun value => (name, value)

end PlatformInstance

/-- Lifetimes are in seconds. -/
structure Platform where
  issuer : String
  key : SigningKey
  keys : KeySet
  codec : TokenCodec := {}
  inst : PlatformInstance := {}
  hintLifetime : Nat := 600
  idTokenLifetime : Nat := 60
deriving Repr, Inhabited

namespace Platform

/-- A platform that trusts its own key. -/
def ofKey (issuer : String) (key : SigningKey) : Platform where
  issuer := issuer
  key := key
  keys := .ofSigningKeys [key]

end Platform

/-- When a token is made, in seconds, and the id that it gets. -/
structure TokenStamp where
  time : Nat
  id : String
deriving DecidableEq, Repr, Inhabited

namespace TokenStamp

def latest : Nat := 0x7fffffffffffffff

/-- The expiry of what is made now; times end with the 63-bit numbers. -/
def expiry (stamp : TokenStamp) (lifetime : Nat) : Nat := min (stamp.time + lifetime) latest

end TokenStamp

namespace Claims

def registrationId : String := "tool_registration_id"

/-- The claims that stamp a token. -/
def stamped (claims : Claims) (stamp : TokenStamp) (lifetime : Nat) : Claims :=
  ((claims.insert "iat" (.ofInt stamp.time)).insert "exp" (.ofInt (stamp.expiry lifetime))).insert
    "jti" (.string stamp.id)

end Claims

end LtiPlatform
