import WasmHost.Text.Quoted
import WasmHost.Value

/-!
# Events

The log of a run. Every event has a level, a message and named fields; the events of one kind differ
in the fields only.
-/

namespace WasmHost

/-- How important an event is. -/
inductive Level
  | debug
  | info
  | warn
  | error
  deriving DecidableEq, Repr

def Level.text : Level → String
  | debug => "DEBUG"
  | info => "INFO"
  | warn => "WARN"
  | error => "ERROR"

/-- The content of a field. -/
inductive Field
  | number (value : Int)
  | text (value : String)
  deriving DecidableEq, Repr

def Field.render : Field → String
  | number value => toString value
  | text value => value

/-- Something that happened in a run. -/
inductive Event
  | artifactOpening (path : String)
  | artifactLoaded (path : String) (size : Nat)
  | compiling (size : Nat)
  | importResolved (module name : String)
  | putn (value : Int32)
  | growthOverMaximum (current desired maximum : UInt64)
  | growthOverCeiling (current desired ceiling : UInt64)
  | growing (current desired : UInt64)
  | growthFailed (reason : String)
  | instantiated (imports exports : Nat) (memoryBytes : UInt64)
  | entryResolved (entry : String) (type : FuncType)
  | invoking (entry : String)
  | trapped (entry error : String)
  | resultsIgnored (entry : String) (results : List Value)
  deriving DecidableEq, Repr

namespace Event

def level : Event → Level
  | artifactLoaded _ _ => .info
  | instantiated _ _ _ => .info
  | invoking _ => .info
  | growthOverCeiling _ _ _ => .warn
  | _ => .debug

def message : Event → String
  | artifactOpening _ => "Opening module artifact"
  | artifactLoaded _ _ => "Module artifact loaded"
  | compiling _ => "Compiling module"
  | importResolved _ _ => "Import resolved"
  | putn _ => "js_putn"
  | growthOverMaximum _ _ _ => "Memory growth denied - exceeds declared maximum"
  | growthOverCeiling _ _ _ => "Memory growth denied - would exceed limit"
  | growing _ _ => "Memory growing"
  | growthFailed _ => "Memory growth failed after approval"
  | instantiated _ _ _ => "Module instantiated"
  | entryResolved _ _ => "Entry point resolved"
  | invoking _ => "Invoking entry point"
  | trapped _ _ => "Entry point trapped"
  | resultsIgnored _ _ => "Ignoring entry point results"

def sizeField (name : String) (size : UInt64) : String × Field :=
  (name, .number size.toNat)

def fields : Event → List (String × Field)
  | artifactOpening path => [("path", .text path)]
  | artifactLoaded path size => [("path", .text path), ("size_bytes", .number size)]
  | compiling size => [("size_bytes", .number size)]
  | importResolved module name => [("module", .text module), ("name", .text name)]
  | putn value => [("value", .number value.toInt)]
  | growthOverMaximum current desired maximum =>
    [sizeField "current" current, sizeField "desired" desired, sizeField "max" maximum]
  | growthOverCeiling current desired ceiling =>
    [sizeField "current" current, sizeField "desired" desired, sizeField "max" ceiling]
  | growing current desired => [sizeField "current" current, sizeField "desired" desired]
  | growthFailed reason => [("error", .text reason)]
  | instantiated imports exports memoryBytes =>
    [("imports", .number imports), ("exports", .number exports),
      sizeField "memory_bytes" memoryBytes]
  | entryResolved entry type => [("entry", .text entry), ("ty", .text type.text)]
  | invoking entry => [("entry", .text entry)]
  | trapped entry error => [("entry", .text entry), ("error", .text error)]
  | resultsIgnored entry results =>
    [("entry", .text entry), ("results", .text (Value.listText results))]

end Event

/-- A line of a log: level, message and fields. The message is written for a terminal. -/
def logLine (level : Level) (message : String) (fields : List (String × Field)) : String :=
  let shown := fields.map fun field => field.1 ++ "=" ++ field.2.render
  " ".intercalate (level.text :: terminalText message :: shown)

def Event.line (event : Event) : String :=
  logLine event.level event.message event.fields

end WasmHost
