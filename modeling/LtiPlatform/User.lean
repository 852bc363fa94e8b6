import LtiPlatform.Json.Record

namespace LtiPlatform

/-- A user of the platform. Only the id is always known. -/
structure User where
  id : String
  username : Option String := none
  givenName : Option String := none
  familyName : Option String := none
  fullName : Option String := none
  email : Option String := none
  picture : Option String := none
  sourcedId : Option String := none
deriving DecidableEq, Repr, Inhabited

namespace User

/-- The full name, or else given and family name if both are known. -/
def displayName (user : User) : Option String :=
  match user.fullName, user.givenName, user.familyName with
  | some full, _, _ => some full
  | none, some given, some family => some (given ++ " " ++ family)
  | none, _, _ => none

def fieldNames : List String :=
  ["id", "username", "given_name", "family_name", "full_name", "email", "picture", "sourced_id"]

def ofRecord? (record : Record) : Option User := do
  let record ← record.check? fieldNames true
  let id ← record.text? 0 "id"
  let username ← record.optionalText? 1 "username"
  let givenName ← record.optionalText? 2 "given_name"
  let familyName ← record.optionalText? 3 "family_name"
  let fullName ← record.optionalText? 4 "full_name"
  let email ← record.optionalText? 5 "email"
  let picture ← record.optionalText? 6 "picture"
  let sourcedId ← record.optionalText? 7 "sourced_id"
  some ⟨id, username, givenName, familyName, fullName, email, picture, sourcedId⟩

def parse? (text : String) : Option User := (Record.parse? text).bind ofRecord?

def ofJson? (value : Json) : Option User := (Record.ofJson? value).bind ofRecord?

def toJson (user : User) : Json :=
  .object
    [("id", .string user.id),
      ("username", .ofOption user.username),
      ("given_name", .ofOption user.givenName),
      ("family_name", .ofOption user.familyName),
      ("full_name", .ofOption user.fullName),
      ("email", .ofOption user.email),
      ("picture", .ofOption user.picture),
      ("sourced_id", .ofOption user.sourcedId)]

end User

end LtiPlatform
