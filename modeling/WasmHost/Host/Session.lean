import WasmHost.Artifact.Loader
import WasmHost.Host.Config
import WasmHost.Host.Instance

/-!
# The stages of a run

An artifact is loaded, instantiated, its entry point is resolved, and the entry point is called
once. `run` goes through all stages; `drive` does so from bytes, may stop early, and tells the
milestones passed; `driveAll` does that for several modules with one sink.
-/

namespace WasmHost

/-- The result of a run that went through all stages, with the number of host calls made in the
store. -/
structure Completion where
  hostCalls : Nat
  peakBytes : UInt64
  deriving DecidableEq, Repr

/-- The function to be called: it takes no arguments, and its results have been counted. -/
structure Entry where
  name : String
  func : Func
  resultCount : Nat
  noParams : func.type.params = []
  counted : func.type.results.length = resultCount

/-- The places for the results of the entry point. -/
def Entry.places (entry : Entry) : List Value :=
  .replicate entry.resultCount (.i32 0)

/-- The name of the kind of an export that is no function. -/
def ExportKind.text (m : Module) : ExportKind → String
  | func _ => "function"
  | global _ => "global"
  | table _ => "table"
  | memory index =>
    if (m.memoryTypes[index]?).any (·.shared) then "shared memory" else "memory"

variable {σ : Type}

def loadArtifact (files : Files) (path : String) : HostM σ Artifact := do
  HostM.record (.artifactOpening path)
  match files.read path with
  | .error error => .fail error
  | .ok bytes =>
    HostM.record (.artifactLoaded path bytes.size)
    pure ⟨bytes⟩

/-- Finds the entry point: an exported function without parameters. -/
def resolveEntry (name : String) (inst : Instance) : HostM σ Entry :=
  match inst.module.export? name with
  | none => .fail (.entryNotFound name)
  | some item =>
    match item.kind with
    | .func index =>
      match inst.module.callee? index with
      | none => .fail (.entryNotFound name)
      | some (.host func) => .fail (.entryMismatch name func.type.text)
      | some (.defined func) =>
        if noParams : func.type.params = [] then do
          HostM.record (.entryResolved name func.type)
          pure ⟨name, func, func.type.results.length, noParams, rfl⟩
        else .fail (.entryMismatch name func.type.text)
    | kind => .fail (.entryMismatch name ("a " ++ kind.text inst.module.toModule ++ " export"))

/-- Why a function of the given type is not called with so many arguments and places for results, if
it is not. -/
def arityRefusal? (type : FuncType) (arguments places : Nat) : Option Refusal :=
  if arguments ≠ type.params.length then some (.arguments type.params.length arguments)
  else if places ≠ type.results.length then some (.results type.results.length places)
  else none

/-- Writes values into places, as far as there are both. -/
def overwrite : (places values : List Value) → List Value
  | _ :: places, value :: values => value :: overwrite places values
  | places, _ => places

variable [Engine] [Sink σ]

/-- Calls a function with arguments and with places for its results, after a check of their numbers.
There is no check of the types of arguments, since the one caller has none. -/
def callChecked (steps : Nat) (inst : Instance) (func : Func) (arguments places : List Value) :
    HostM σ (Except Failure (List Value)) :=
  match arityRefusal? func.type arguments.length places.length with
  | some refusal => pure (.error (.refused refusal))
  | none => do
    let (_, outcome) ← Instantiation.call steps inst func arguments
    pure (outcome.map (overwrite places))

/-- Calls the entry point; its results are dropped. -/
def invoke (steps : Nat) (inst : Instance) (entry : Entry) : HostM σ Completion := do
  HostM.record (.invoking entry.name)
  match ← callChecked steps inst entry.func [] entry.places with
  | .error failure =>
    HostM.record (.trapped entry.name failure.text)
    .fail (.trapped entry.name failure.reason)
  | .ok results =>
    if !results.isEmpty then HostM.record (.resultsIgnored entry.name results)
    let host ← get
    pure ⟨host.calls, host.limiter.peak⟩

/-- Loads the artifact at a path and takes it through all stages. -/
def run (steps : Nat) (files : Files) (path : String) (config : Config) : HostM σ Completion := do
  let artifact ← loadArtifact files path
  let inst ← instantiate steps config.limits artifact.bytes
  let entry ← resolveEntry config.entryPoint inst
  invoke steps inst entry

/-- `run` on the artifact in the directory of the installation, with the default settings. -/
def runInstalled (steps : Nat) (files : Files) (directory : String) : HostM σ Completion :=
  let config : Config := {}
  run steps files (Artifact.pathIn directory config.artifactFileName) config

/-- A state that a module has reached. -/
inductive Milestone
  | loaded (size : Nat)
  | instantiated (hostCalls : Nat)
  | resolved (entry : String)
  | completed (completion : Completion)
  deriving DecidableEq, Repr

/-- Where to stop. -/
inductive Goal
  | instantiated
  | resolved
  | completed
  deriving DecidableEq, Repr

/-- The milestones that a module passed, and why it stopped short of its goal if it did. -/
structure Journey where
  milestones : List Milestone
  stop : Option Stop := none

/-- Takes bytes through the stages up to a goal. -/
def drive (steps : Nat) (config : Config) (goal : Goal) (artifact : Artifact) (host : Host σ) :
    Journey × Host σ :=
  let loaded := Milestone.loaded artifact.size
  match (instantiate steps config.limits artifact.bytes).run.run host with
  | (.error stop, host) => (⟨[loaded], some stop⟩, host)
  | (.ok inst, host) =>
    let instantiated := Milestone.instantiated host.calls
    if goal = .instantiated then (⟨[loaded, instantiated], none⟩, host)
    else
      match (resolveEntry config.entryPoint inst).run.run host with
      | (.error stop, host) => (⟨[loaded, instantiated], some stop⟩, host)
      | (.ok entry, host) =>
        let resolved := Milestone.resolved entry.name
        if goal = .resolved then (⟨[loaded, instantiated, resolved], none⟩, host)
        else
          match (invoke steps inst entry).run.run host with
          | (.error stop, host) => (⟨[loaded, instantiated, resolved], some stop⟩, host)
          | (.ok completion, host) =>
            (⟨[loaded, instantiated, resolved, .completed completion], none⟩, host)

/-- Takes one module after the other through the stages, with one sink and one log but a store of
its own for each. The host is told as each module left it. -/
def driveAll (steps : Nat) (config : Config) :
    List (Goal × Artifact) → Host σ → List (Journey × Host σ)
  | [], _ => []
  | (goal, artifact) :: rest, host =>
    let after := drive steps config goal artifact host
    after :: driveAll steps config rest after.2

end WasmHost
