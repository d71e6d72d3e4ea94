import WasmHost.Host.Session

/-!
# The report of the program

What the program shows of a run: numbers on its output, a log of the more important events with one
last line on the outcome, and an exit code.
-/

namespace WasmHost

/-- What the program shows of a run. -/
structure Report where
  exitCode : Nat
  output : String
  log : List String
  deriving DecidableEq, Repr

namespace Report

/-- Whether the program's log shows an event. -/
def shows (event : Event) : Bool :=
  event.level != .debug

/-- The last line of the log of a run that went through all stages. -/
def returnedLine (completion : Completion) : String :=
  logLine .info "Entry point returned"
    [("host_calls", .number completion.hostCalls),
      ("peak_memory_bytes", .number completion.peakBytes.toNat)]

/-- The last line of the log of a run that failed. -/
def errorLine (error : Error) : String :=
  logLine .error error.message [("stage", .text error.stage.text)]

/-- The report of a run that ended with the given result and host. -/
def ofRun (result : Except Stop Completion) (host : Host Console) : Except Stop Report :=
  let log := (host.events.toList.filter shows).map Event.line
  match result with
  | .ok completion => .ok ⟨0, host.sink.written, log ++ [returnedLine completion]⟩
  | .error (.failed error) =>
    .ok ⟨error.stage.exitCode, host.sink.written, log ++ [errorLine error]⟩
  | .error stop => .error stop

/-- The report of the program installed in a directory, writing to the given console. -/
def ofInstalled [Engine] (steps : Nat) (files : Files) (directory : String) (console : Console) :
    Except Stop Report :=
  let (result, host) := (runInstalled steps files directory).run.run { sink := console }
  ofRun result host

end Report

end WasmHost
