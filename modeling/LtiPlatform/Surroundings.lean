import LtiPlatform.Launch.Platform

namespace LtiPlatform

/-- Why a file or the input cannot be read. -/
inductive FileError where
  | missing
  | isDirectory
  | notDirectory
  | nameTooLong
  | unnamable
  | notText
  | other (detail : String)
deriving DecidableEq, Repr, Inhabited

namespace FileError

def message : FileError → String
  | missing => "No such file or directory (os error 2)"
  | isDirectory => "Is a directory (os error 21)"
  | notDirectory => "Not a directory (os error 20)"
  | nameTooLong => "File name too long (os error 36)"
  | unnamable => "file name contained an unexpected NUL byte"
  | notText => "stream did not contain valid UTF-8"
  | other detail => detail

/-- The failure with a number of the operating system, which some calls give as a negative one. -/
def ofSystem (code : UInt32) (detail : String) : FileError :=
  let number := if code < 0x80000000 then code else 0 - code
  if number = 2 then missing
  else if number = 21 then isDirectory
  else if number = 20 then notDirectory
  else if number = 36 then nameTooLong
  else other (detail.capitalize ++ " (os error " ++ toString number.toNat ++ ")")

end FileError

/-- Everything is looked at in the monad, except for the variables of the environment. -/
structure Surroundings (m : Type → Type) where
  isThere : String → m Bool
  readFile : String → m (Except FileError String)
  /-- The rest of the input, which is empty once it has been read. -/
  readInput : m (Except FileError String)
  /-- A stamp with an id that no other one has. -/
  stamp : m TokenStamp
  environment : List (String × String)

namespace Surroundings

/-- The most bytes that a path and a name in it may have. -/
def pathLimit : Nat := 4095

def nameLimit : Nat := 255

/-- Goes on from a folder, which is `none` if all files are below it, and finds only folders on the
way to the root there. -/
def walk (files : List (String × String)) :
    Option (List String) → List String → Except FileError String
  | _, [] => .error .isDirectory
  | here, name :: rest =>
    if name = "" ∨ name = "." then walk files here rest
    else if name = ".." then
      walk files (here.bind fun names => if names.isEmpty then none else some names.dropLast) rest
    else if nameLimit < name.utf8ByteSize then .error .nameTooLong
    else
      match here with
      | none => .error .missing
      | some names =>
        let next := names ++ [name]
        let isFolder := files.any fun (file, _) =>
          let place := Text.split '/' file
          next.length < place.length && next.isPrefixOf place
        match files.lookup (Text.joinWith "/" next) with
        | some text => if rest.isEmpty then .ok text else .error .notDirectory
        | none => if isFolder then walk files next rest else .error .missing

/-- What there is at a path among given files, whose names may have folders in them. -/
def look (files : List (String × String)) (path : String) : Except FileError String :=
  if path.toList.contains '\x00' then .error .unnamable
  else if path = "" then .error .missing
  else if pathLimit < path.utf8ByteSize then .error .nameTooLong
  else walk files (if Text.isPrefix "/" path then none else some []) (Text.split '/' path)

/-- Whether something is at a path, be it a file or a folder. -/
def isFound : Except FileError String → Bool
  | .ok _ => true
  | .error .isDirectory => true
  | .error _ => false

/-- Surroundings of given files, with the input as state. -/
def ofFiles (files environment : List (String × String)) (stamp : TokenStamp) :
    Surroundings (StateM String) where
  isThere path := pure (isFound (look files path))
  readFile path := pure (look files path)
  readInput := modifyGet fun input => (.ok input, "")
  stamp := pure stamp
  environment := environment

end Surroundings

end LtiPlatform
