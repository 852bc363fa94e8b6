namespace LtiPlatform

/-- The algorithms that a token can say it is signed with. -/
inductive Algorithm where
  | hs256
  | hs384
  | hs512
  | es256
  | es384
  | rs256
  | rs384
  | rs512
  | ps256
  | ps384
  | ps512
  | edDsa
deriving DecidableEq, Repr, Inhabited

/-- The kind of key that an algorithm needs. -/
inductive KeyFamily where
  | sharedSecret
  | rsa
  | ellipticCurve
  | edwardsCurve
deriving DecidableEq, Repr, Inhabited

namespace Algorithm

def name : Algorithm → String
  | hs256 => "HS256"
  | hs384 => "HS384"
  | hs512 => "HS512"
  | es256 => "ES256"
  | es384 => "ES384"
  | rs256 => "RS256"
  | rs384 => "RS384"
  | rs512 => "RS512"
  | ps256 => "PS256"
  | ps384 => "PS384"
  | ps512 => "PS512"
  | edDsa => "EdDSA"

def family : Algorithm → KeyFamily
  | hs256 | hs384 | hs512 => .sharedSecret
  | es256 | es384 => .ellipticCurve
  | rs256 | rs384 | rs512 | ps256 | ps384 | ps512 => .rsa
  | edDsa => .edwardsCurve

/-- The algorithms whose verifying key can be published. -/
def asymmetric : List Algorithm :=
  [rs256, rs384, rs512, ps256, ps384, ps512, es256, es384, edDsa]

def all : List Algorithm := [hs256, hs384, hs512] ++ asymmetric

def ofName? (name : String) : Option Algorithm := all.find? (·.name == name)

end Algorithm

end LtiPlatform
