import WasmHost.Host.IoError
import WasmHost.Machine.Engine

/-!
# Errors of a run

Every error belongs to the stage that failed, which fixes the exit code. The wording of all errors
is in `Error.message`. What the engine says is part of it: an error that comes from the engine has
the whole chain of what is said of it, with the cause at its end.
-/

namespace WasmHost

/-- The stages of a run. -/
inductive Stage
  | load
  | link
  | resolve
  | invoke
  deriving DecidableEq, Repr

def Stage.text : Stage → String
  | load => "load"
  | link => "link"
  | resolve => "resolve"
  | invoke => "invoke"

/-- The exit code of a run that failed in a stage. -/
def Stage.exitCode : Stage → Nat
  | load => 2
  | link => 3
  | resolve => 4
  | invoke => 5

/-- Why the code of a module did not run to its end. -/
inductive Abort
  | trap (trap : Trap)
  | sink (error : IoError)
  deriving DecidableEq, Repr

def Abort.message : Abort → String
  | trap reason => reason.message
  | sink error => "js_putn failed to write output: " ++ error.message

/-- Why the engine did not do what it was asked for: it refused, or code was aborted, and then it
has something to say of the place, outermost first. -/
inductive Failure
  | refused (refusal : Refusal)
  | aborted (place : List String) (abort : Abort)

namespace Failure

variable [Engine]

/-- All that is said of a failure, with its cause at the end. -/
def text : Failure → String
  | refused refusal => Engine.wording refusal
  | aborted place abort => place.foldr (fun context rest => context ++ ": " ++ rest) abort.message

/-- What is reported of a call that failed: a trap by itself, anything else with all that is
said. -/
def reason : Failure → String
  | aborted _ (.trap trap) => trap.message
  | failure => failure.text

end Failure

/-- What a store counts. -/
inductive Resource
  | instances
  | memories
  | tables
  deriving DecidableEq, Repr

def Resource.text : Resource → String
  | instances => "instance"
  | memories => "memory"
  | tables => "table"

/-- Why a module was not instantiated. -/
inductive InstantiationFault
  | failed (failure : Failure)
  | notDefined (module name : String) (refusal : Refusal)
  | memoryMinimum (pages : Nat)
  | tableMinimum (elements : Nat)
  | tooMany (resource : Resource) (count : Nat)

def InstantiationFault.text [Engine] : InstantiationFault → String
  | failed failure => failure.text
  | notDefined module name refusal =>
    "failed to define " ++ module ++ "::" ++ name ++ ": " ++ Engine.wording refusal
  | memoryMinimum pages =>
    "memory minimum size of " ++ toString pages ++ " pages exceeds memory limits"
  | tableMinimum elements =>
    "table minimum size of " ++ toString elements ++ " elements exceeds table limits"
  | tooMany resource count =>
    "resource limit exceeded: " ++ resource.text ++ " count too high at " ++ toString count

/-- Why a run failed. -/
inductive Error
  | artifactNotFound (path : String) (source : IoError)
  | artifactUnreadable (path : String) (source : IoError)
  | notInstantiated (detail : String)
  | importUnresolved (module name detail : String)
  | entryNotFound (name : String)
  | entryMismatch (name found : String)
  | trapped (entry reason : String)
  deriving DecidableEq, Repr

namespace Error

/-- The error of a module that was not instantiated. -/
def rejected [Engine] (fault : InstantiationFault) : Error :=
  notInstantiated fault.text

def stage : Error → Stage
  | artifactNotFound _ _ => .load
  | artifactUnreadable _ _ => .load
  | notInstantiated _ => .link
  | importUnresolved _ _ _ => .link
  | entryNotFound _ => .resolve
  | entryMismatch _ _ => .resolve
  | trapped _ _ => .invoke

def message : Error → String
  | artifactNotFound path source => "artifact not found: " ++ path ++ ": " ++ source.message
  | artifactUnreadable path source => "failed to read artifact " ++ path ++ ": " ++ source.message
  | notInstantiated detail => "module failed validation or instantiation: " ++ detail
  | importUnresolved module name detail =>
    "unresolved import '" ++ module ++ "::" ++ name ++ "': " ++ detail
  | entryNotFound name => "entry point '" ++ name ++ "' is not exported by the module"
  | entryMismatch name found =>
    "entry point '" ++ name
      ++ "' has the wrong shape: expected a function with no parameters, found " ++ found
  | trapped entry reason => "execution trapped in '" ++ entry ++ "': " ++ reason

/-- The input or output error behind an error. -/
def source : Error → Option IoError
  | artifactNotFound _ source => some source
  | artifactUnreadable _ source => some source
  | _ => none

end Error

end WasmHost
