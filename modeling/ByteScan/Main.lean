import ByteScan.CommandLine.Run

/-!
# The program

The outer layer of the program: it fetches the files that the command line names, takes the time of
the search, and prints what the run leaves behind.
-/

namespace ByteScan.CommandLine

/-- The reason that the system gives for a refusal. Its number may come with the sign changed. -/
def refusal : IO.Error → SystemError
  | .noFileOrDirectory .. => .notFound
  | .permissionDenied .. => .permissionDenied
  | e@(.inappropriateType _ code _) =>
    if code = 20 ∨ -code = 20 then .notDirectory
    else if code = 21 ∨ -code = 21 then .isDirectory
    else .other e.toString
  | e => .other e.toString

/-- The bytes of a file. -/
def readBytes (path : String) : IO (Except SystemError Bytes) := do
  match ← (IO.FS.readBinFile path).toBaseIO with
  | .ok bytes => return .ok bytes.data
  | .error e => return .error (refusal e)

/-- Fetches the files that some arguments name. A directory can be read as little as it can be
mapped, but the system has different words for the two. -/
def fetch (a : Arguments) : IO Files := do
  let content ← readBytes a.file
  let settings ← match a.config with
    | some path => readBytes path
    | none => pure (.error .notFound)
  return {
    mapped := fun _ => content.mapError fun
      | .isDirectory => .noDevice
      | e => e
    text := fun _ => settings.bind decodeText }

/-- Whether what is printed may have colours: the environment may ask for them or forbid them, and
otherwise a terminal has them. -/
def wantsColours : IO Bool := do
  let isForced := ((← IO.getEnv "CLICOLOR_FORCE").getD "0") != "0"
  let isForbidden := (← IO.getEnv "NO_COLOR").isSome || (← IO.getEnv "CLICOLOR") == some "0"
  return isForced || (!isForbidden && (← (← IO.getStdout).isTty))

/-- Runs the program on a machine. -/
def execute [Machine] (words : List String) : IO Outcome := do
  match Arguments.parse words with
  | .error stop => return stop.outcome
  | .ok a =>
    let files ← fetch a
    let start ← IO.monoNanosNow
    match ← IO.lazyPure fun _ => find files a with
    | .error _ => return faulted
    | .ok finding =>
      let stop ← IO.monoNanosNow
      return present (← wantsColours) a (.ofNanos (stop - start)) finding

end ByteScan.CommandLine

/-- Runs the program with the words of its command line, one worker and all instructions. -/
def main (words : List String) : IO UInt32 := do
  let _ : ByteScan.Machine := .uniprocessor
  let outcome ← ByteScan.CommandLine.execute words
  (← IO.getStderr).putStr outcome.stderr
  (← IO.getStdout).putStr outcome.stdout
  return UInt32.ofNat outcome.exitCode
