import WasmHost.Host.Error
import WasmHost.Host.Limiter
import WasmHost.Host.Sink
import WasmHost.Machine.Step

/-!
# Running a machine under a host

The host answers what the machine asks for: it calls the printing function, and it lets memories and
tables grow as far as the limiter and the engine allow. The machine never sees the limiter, the sink
or the log, so what they do shows in the machine only through these answers.
-/

namespace WasmHost

/-- What surrounds the code of a module: the store's limiter, the number of host calls made in the
store, the sink and the log. The number of calls is one for which no bound is kept: a counter of 64
bits agrees with it for the first 2^64 calls. -/
structure Host (σ : Type) where
  limiter : Limiter := {}
  calls : Nat := 0
  sink : σ
  events : Array Event := #[]

namespace Host

variable {σ : Type}

def record (host : Host σ) (event : Event) : Host σ :=
  { host with events := host.events.push event }

/-- Prints a number: the call counts and is logged whether or not the sink accepts the number. -/
def emit [Sink σ] (host : Host σ) (value : Int32) : Option IoError × Host σ :=
  let (fault, sink) := Sink.emit host.sink value
  (fault, { host with calls := host.calls + 1, events := host.events.push (.putn value), sink })

/-- Asks the limiter for the growth of a memory; `none` if its sum overflows. -/
def askMemory (host : Host σ) (current desired : Nat) (maximum : Option Nat) :
    Option (Bool × Host σ) :=
  match host.limiter.memoryGrowing (.ofNat current) (.ofNat desired) (maximum.map .ofNat) with
  | none => none
  | some verdict =>
    let events := host.events.push verdict.event
    some (verdict.approved, { host with limiter := verdict.limiter, events })

/-- Tells the limiter that the engine could not carry out the growth just approved. -/
def growthFailed [Engine] (host : Host σ) (desired : Nat) : Host σ :=
  { host with
    limiter := host.limiter.memoryGrowFailed
    events := host.events.push (.growthFailed (Engine.wording (.memory desired))) }

/-- Asks the limiter for a table of `desired` elements. -/
def askTable (host : Host σ) (desired : Nat) : Bool :=
  desired < UInt64.size && host.limiter.tableGrowing (.ofNat desired)

end Host

/-- How the execution of a call ended. -/
inductive Ending
  | returned (results : List Value)
  | aborted (abort : Abort)
  | overflow

/-- A machine and its host. -/
structure Run (σ : Type) where
  host : Host σ
  machine : Machine

/-- Where a run stands after some steps. -/
inductive Progress (σ : Type)
  | running (run : Run σ)
  | ended (run : Run σ) (ending : Ending)

namespace Run

variable {σ : Type} [Engine]

/-- Lets a memory grow by a number of pages, which the limiter and then the engine may refuse. The
machine gets the old number of pages, or minus one. -/
def growMemory (host : Host σ) (machine : Machine) (index pages : Nat) : Progress σ :=
  match machine.store.memories[index]? with
  | none => .ended ⟨host, machine⟩ (.aborted (.trap .unreachable))
  | some memory =>
    let width := memory.type.index
    let old := memory.pages
    let current := memory.size
    let maximum := memory.type.maximumBytes
    if pages = 0 then .running ⟨host, machine.push (.ofIndex width old)⟩
    else
      let desired := min (current + pages * pageSize) Engine.greatestRequest
      match host.askMemory current desired maximum with
      | none => .ended ⟨host, machine⟩ .overflow
      | some (false, host) => .running ⟨host, machine.push (.minusOne width)⟩
      | some (true, host) =>
        if Engine.providesMemory desired then
          let machine := { machine with store := machine.store.updateMemory index (·.grow pages) }
          .running ⟨host, machine.push (.ofIndex width old)⟩
        else .running ⟨host.growthFailed desired, machine.push (.minusOne width)⟩

/-- Lets a table grow by a number of elements. The machine gets the old number, or minus one. -/
def growTable (host : Host σ) (machine : Machine) (index n : Nat) (ref : Ref) : Progress σ :=
  match machine.store.tables[index]? with
  | none => .ended ⟨host, machine⟩ (.aborted (.trap .unreachable))
  | some table =>
    let width := table.type.index
    let old := table.size
    let desired := old + n
    if n = 0 then .running ⟨host, machine.push (.ofIndex width old)⟩
    else if host.askTable desired && desired ≤ table.type.reach && Engine.providesTable desired then
      let machine := { machine with store := machine.store.updateTable index (·.grow n ref) }
      .running ⟨host, machine.push (.ofIndex width old)⟩
    else .running ⟨host, machine.push (.minusOne width)⟩

/-- Prints a number for the machine. A sink that fails ends the run. -/
def emit [Sink σ] (host : Host σ) (machine : Machine) (value : UInt32) : Progress σ :=
  match host.emit value.toInt32 with
  | (none, host) => .running ⟨host, machine⟩
  | (some fault, host) => .ended ⟨host, machine⟩ (.aborted (.sink fault))

/-- One step of the machine, and what the host does about it. -/
def step [Sink σ] : Run σ → Progress σ
  | ⟨host, machine⟩ =>
    match machine.step with
    | .next machine => .running ⟨host, machine⟩
    | .done machine results => .ended ⟨host, machine⟩ (.returned results)
    | .trap machine trap => .ended ⟨host, machine⟩ (.aborted (.trap trap))
    | .emit machine value => emit host machine value
    | .growMemory machine index pages => growMemory host machine index pages
    | .growTable machine index n ref => growTable host machine index n ref

/-- At most `steps` steps. -/
def advance [Sink σ] : (steps : Nat) → Run σ → Progress σ
  | 0, run => .running run
  | steps + 1, run =>
    match run.step with
    | .running run => advance steps run
    | ended => ended

end Run

end WasmHost
