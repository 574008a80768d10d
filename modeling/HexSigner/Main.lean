import HexSigner.Command.Run
import Std.Time.DateTime
import Std.Time.Format

/-!
# The program

Gathers what a run finds around it, runs the command line on that, and writes what comes of it.
What a run does is decided by `Command.run` alone.
-/

set_option autoImplicit false

namespace HexSigner.Command

/-- Why a file cannot be read, from how the operating system reports it. -/
def faultOfReport : IO.Error → FileFault
  | .noFileOrDirectory .. => .notFound
  | .permissionDenied .. => .permissionDenied
  | .inappropriateType none .. => .isDirectory
  | .inappropriateType (some _) .. => .notDirectory
  | .invalidArgument _ 22 _ => .badPath
  | .invalidArgument .. => .nameTooLong
  | report => .other (toString report)

/-- The content of a file. -/
def readContent (path : String) : IO (Except FileFault (List UInt8)) := do
  try
    return .ok (← IO.FS.readBinFile path).toList
  catch report =>
    return .error (faultOfReport report)

/-- What the operating system's source of randomness supplies for a seed. -/
def drawFromSystem : IO (Except String (Octets 32)) := do
  try
    let bytes ← IO.getRandomBytes (.ofNat seedLength)
    return match Octets.ofList? 32 bytes.toList with
      | some seed => .ok seed
      | none => .error "too few bytes"
  catch report =>
    return .error (toString report)

/-- Where the program is. -/
def whereabouts : IO Whereabouts := do
  return { thread := (← IO.getTID).toNat, placeOf := fun _ ↦ "HexSigner.Log.Directive.Source.cut"
           backtrace := none }

/-- The time in UTC, to the microsecond. -/
def currentTime : IO String := do
  let now ← Std.Time.Timestamp.now
  return (Std.Time.DateTime.ofTimestampWithZone now .UTC).format "uuuu-MM-dd'T'HH:mm:ss.SSSSSS'Z'"

/-- What a run with the given arguments finds around it.  A run reads no file but that of its
settings. -/
def surroundings (arguments : List String) : IO Surroundings := do
  let content ← match settingsPath? arguments with
    | some path => readContent path
    | none => pure (.error .notFound)
  return {
    filter := ← IO.getEnv "RUST_LOG", noColor := ← IO.getEnv "NO_COLOR"
    contentOf := fun _ ↦ content, randomness := ← drawFromSystem, time := ← currentTime
    whereabouts := ← whereabouts }

end HexSigner.Command

/-- Runs the program. -/
def main (arguments : List String) : IO UInt32 := do
  let outcome := HexSigner.Command.run (← HexSigner.Command.surroundings arguments) arguments
  (← IO.getStdout).putStr outcome.stdout
  (← IO.getStderr).putStr outcome.stderr
  return .ofNat outcome.code.number
