import WasmHost.Host.Report

/-!
# The program

Runs the module installed beside the program. Numbers go to the standard output, the log goes to the
standard error stream, and the exit code tells the stage that failed. Arguments are ignored.
-/

namespace WasmHost

/-- The error number that an error of the operating system carries. -/
def errorNumber? : IO.Error → Option UInt32
  | .alreadyExists _ code _ => some code
  | .otherError code _ => some code
  | .resourceBusy code _ => some code
  | .resourceVanished code _ => some code
  | .unsupportedOperation code _ => some code
  | .hardwareFault code _ => some code
  | .unsatisfiedConstraints code _ => some code
  | .illegalOperation code _ => some code
  | .protocolError code _ => some code
  | .timeExpired code _ => some code
  | .interrupted _ code _ => some code
  | .noFileOrDirectory _ code _ => some code
  | .invalidArgument _ code _ => some code
  | .permissionDenied _ code _ => some code
  | .resourceExhausted _ code _ => some code
  | .inappropriateType _ code _ => some code
  | .noSuchThing _ code _ => some code
  | _ => none

/-- An error of the operating system as one of this library. Some calls report the number with its
sign turned. -/
def ioError (error : IO.Error) : IoError :=
  match errorNumber? error with
  | some code => .os code.toInt32.toInt.natAbs
  | none => .other (toString error)

/-- More steps than can be taken in a lifetime. -/
def programSteps : Nat := powerOfTwo 60

/-- Writes a text to the standard output. -/
def writeOutput (text : String) : IO (Option IoError) := do
  try
    let output ← IO.getStdout
    output.putStr text
    output.flush
    return none
  catch error => return some (ioError error)

/-- Shows a report and gives its exit code. -/
def present (report : Report) : IO UInt32 := do
  for line in report.log do
    IO.eprintln line
  return report.exitCode.toUInt32

/-- The exit code of a run that was cut off. -/
def cutOff (stop : Stop) : IO UInt32 := do
  match stop with
  | .overflow => IO.eprintln "attempt to add with overflow"
  | _ => IO.eprintln "no end in sight"
  return 101

/-- What an action gives, or the error that it fails with. -/
def attempt {α : Type} (action : IO α) : IO (Except IoError α) := do
  try
    return .ok (← action)
  catch error => return .error (ioError error)

/-- Opens a file and reads it to its end. -/
def fileContent (path : String) : IO (Except IoError (Except IoError ByteArray)) := do
  match ← attempt (IO.FS.Handle.mk path .read) with
  | .error error => return .error error
  | .ok file => return .ok (← attempt file.readBinToEnd)

open PlainEngine in
/-- Runs the module installed in a directory. If its output cannot be written, the run is one whose
sink fails. -/
def runProgram (directory : String) : IO UInt32 := do
  let content ← fileContent (Artifact.pathIn directory ({} : Config).artifactFileName)
  match Report.ofInstalled programSteps (fun _ => content) directory {} with
  | .error stop => cutOff stop
  | .ok report =>
    match ← if report.output.isEmpty then pure none else writeOutput report.output with
    | none => present report
    | some fault =>
      let console : Console := { fault := some fault }
      match Report.ofInstalled programSteps (fun _ => content) directory console with
      | .error stop => cutOff stop
      | .ok report => present report

end WasmHost

/-- Runs the module installed beside the program. -/
def main : IO UInt32 := do
  let program ← IO.appPath
  WasmHost.runProgram ((program.parent.map toString).getD ".")
