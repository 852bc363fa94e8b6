import LtiPlatform.Command.Run
import LtiPlatform.Token.Uuid
import Std.Time.DateTime.Timestamp

namespace LtiPlatform

namespace FileError

def ofFailure : IO.Error → FileError
  | .noFileOrDirectory _ code detail => ofSystem code detail
  | .inappropriateType _ code detail => ofSystem code detail
  | .permissionDenied _ code detail => ofSystem code detail
  | .invalidArgument _ code detail => ofSystem code detail
  | .resourceExhausted _ code detail => ofSystem code detail
  | .noSuchThing _ code detail => ofSystem code detail
  | .otherError code detail => ofSystem code detail
  | failure => other (toString failure)

end FileError

namespace Surroundings

/-- What the bytes that an action finds say. -/
def readText (bytes : IO ByteArray) : IO (Except FileError String) := do
  match ← bytes.toBaseIO with
  | .error failure => return .error (.ofFailure failure)
  | .ok bytes => return (String.fromUTF8? bytes).elim (.error .notText) .ok

/-- The variables that the operating system keeps for the program. -/
def readEnvironment : IO (Entries String) := do
  match ← readText (IO.FS.readBinFile "/proc/self/environ") with
  | .error _ => return []
  | .ok text =>
    return (Text.split '\x00' text).map fun entry =>
      let chars := entry.toList
      (.ofList (chars.takeWhile (· ≠ '=')), .ofList ((chars.dropWhile (· ≠ '=')).drop 1))

def readStamp : IO TokenStamp := do
  let time := (← Std.Time.Timestamp.now).toSecondsSinceUnixEpoch.val.toNat
  return ⟨time, Uuid.ofBytes (← IO.getRandomBytes 16).toList⟩

/-- The world around the program. A path with a NUL in it names nothing. -/
def ofWorld (environment : Entries String) : Surroundings IO where
  isThere path := do
    if path.toList.contains '\x00' then return false
    return (← (IO.FS.realPath path).toBaseIO).toOption.isSome
  readFile path := do
    if path.toList.contains '\x00' then return .error .unnamable
    readText (IO.FS.readBinFile path)
  readInput := do readText (← IO.getStdin).readBinToEnd
  stamp := readStamp
  environment := environment

end Surroundings

/-- Runs the program in the world and gives its exit code. -/
def runInWorld (words : List String) : IO UInt32 := do
  let surroundings := Surroundings.ofWorld (← Surroundings.readEnvironment)
  let outcome ← Request.runWords surroundings words
  (← IO.getStdout).putStr outcome.output
  (← IO.getStderr).putStr outcome.errors
  return outcome.exitCode

end LtiPlatform

def main (words : List String) : IO UInt32 := LtiPlatform.runInWorld words
