import WasmHost.Host.IoError

/-!
# Sinks

Where the numbers go that a module prints. One sink records them, the other writes them to a stream
as lines of decimal digits; both may fail.
-/

namespace WasmHost

/-- A receiver of numbers; each number is accepted, or refused with an error. -/
class Sink (σ : Type) where
  emit : σ → Int32 → Option IoError × σ

/-- Hands numbers to a sink one after the other, whether or not it accepts them. -/
def Sink.emitAll {σ : Type} [Sink σ] (sink : σ) (values : List Int32) : σ :=
  values.foldl (fun sink value => (Sink.emit sink value).2) sink

/-- A number as a line of decimal digits. -/
def decimalLine (value : Int32) : String :=
  toString value.toInt ++ "\n"

/-- Keeps numbers; after the first `capacity` ones it refuses every further one with `fault`. -/
structure Recorder where
  values : Array Int32 := #[]
  capacity : Option Nat := none
  fault : IoError := .brokenPipe

namespace Recorder

/-- Whether one more number is accepted. -/
def hasRoom (recorder : Recorder) : Bool :=
  recorder.capacity.all (recorder.values.size < ·)

/-- The recorded numbers as text, one line each. -/
def rendered (recorder : Recorder) : String :=
  String.join (recorder.values.toList.map decimalLine)

instance : Sink Recorder where
  emit recorder value :=
    if recorder.hasRoom then (none, { recorder with values := recorder.values.push value })
    else (some recorder.fault, recorder)

end Recorder

/-- Writes numbers to a stream; with a fault, every write fails. -/
structure Console where
  written : String := ""
  fault : Option IoError := none

instance : Sink Console where
  emit console value :=
    match console.fault with
    | none => (none, { console with written := console.written ++ decimalLine value })
    | some fault => (some fault, console)

end WasmHost
