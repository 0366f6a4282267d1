import Toolpath.Cli.Run

/-!
# The command on the files of the system

Reads the arguments, reads the files they name (the configuration file and the drawing), runs
the command on them, and then prints what it printed, writes the output file if it asks for one,
and exits with its status. Reading every named file first changes nothing the command can see:
it only ever reads these two files, and writes nothing before it is done reading.
-/

namespace Toolpath.Cli

/-- The system's message for a failed file operation, with the number of the error. -/
def failureMessage (error : IO.Error) : String :=
  match error with
  | .noFileOrDirectory .. => missingFileMessage
  | .alreadyExists _ code details | .invalidArgument _ code details
  | .permissionDenied _ code details | .resourceExhausted _ code details
  | .inappropriateType _ code details | .noSuchThing _ code details
  | .interrupted _ code details | .otherError code details | .resourceBusy code details
  | .resourceVanished code details | .unsupportedOperation code details
  | .hardwareFault code details | .unsatisfiedConstraints code details
  | .illegalOperation code details | .protocolError code details
  | .timeExpired code details => details ++ " (os error " ++ toString code ++ ")"
  | .unexpectedEof => "failed to fill whole buffer"
  | .userError message => message

/-- Reads a file: its bytes, or the system's message. -/
def readBytes (path : String) : IO (Except String (List UInt8)) := do
  try
    let bytes ← IO.FS.readBinFile path
    return .ok bytes.toList
  catch error =>
    return .error (failureMessage error)

/-- The files the command may read: the configuration file and the drawing it names. -/
def namedFiles (texts : List String) : List String :=
  match parseArguments texts with
  | .ok invocation => invocation.config.toList ++ [invocation.input]
  | .error _ => []

/-- Prints the outcome and gives its status. -/
def finish (outcome : Outcome) : IO UInt32 := do
  let stdout ← IO.getStdout
  stdout.putStr outcome.stdout
  stdout.flush
  let stderr ← IO.getStderr
  stderr.putStr outcome.stderr
  stderr.flush
  return UInt32.ofNat outcome.status

end Toolpath.Cli

open Toolpath.Cli in
/-- Runs the command with the arguments of the process. -/
def main (texts : List String) : IO UInt32 := do
  let contents ← (namedFiles texts).mapM fun path => do
    return (path, ← readBytes path)
  let read := fun path => (contents.lookup path).getD (.error Toolpath.missingFileMessage)
  match command texts read with
  | .finish outcome => finish outcome
  | .write path text =>
    try
      IO.FS.writeFile path text
      return 0
    catch error =>
      finish (writeFailed path (failureMessage error))
