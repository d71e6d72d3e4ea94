import WasmHost.Host.Run
import WasmHost.Host.RefHeap
import WasmHost.Host.Linker

/-!
# Instantiation

A module is decoded and checked as a whole, then its imports are checked in order and linked, then
its resources are counted. Only then is its store made: the heap of outside references, memories,
tables and globals, with its segments copied into them. Last its start function is run. Each step
that can fail does so with the host as the steps before it left it.
-/

namespace WasmHost

/-- Why a stage did not succeed: it failed, the limiter's arithmetic overflowed, or the code did not
end within the steps that it was given. -/
inductive Stop
  | failed (error : Error)
  | overflow
  | unfinished
  deriving DecidableEq, Repr

/-- Work done with a host, which keeps what was done to the host when it stops. -/
abbrev HostM (σ α : Type) := ExceptT Stop (StateM (Host σ)) α

/-- A linked module with its store. -/
structure Instance where
  module : LinkedModule
  store : Store

namespace HostM

variable {σ : Type}

def record (event : Event) : HostM σ Unit :=
  modify (·.record event)

def fail {α : Type} (error : Error) : HostM σ α :=
  throw (.failed error)

/-- Refuses a module, for the reason given. -/
def reject {α : Type} [Engine] (fault : InstantiationFault) : HostM σ α :=
  fail (.rejected fault)

end HostM

namespace Machine

/-- A machine about to call a function of the module. -/
def ofCall (inst : Instance) (func : Func) (arguments : List Value := []) : Machine where
  module := inst.module
  store := inst.store
  frame := .ofCall func arguments

end Machine

/-- The value of a constant expression, given the values of the globals before it. -/
def constValue? (globals : Array Value) (items : ConstExpr) : Option Value :=
  go [] items
where
  /-- Works on a stack of values, top first. -/
  go : List Value → ConstExpr → Option Value
    | [value], [] => some value
    | _, [] => none
    | stack, .value value :: rest => go (value :: stack) rest
    | stack, .null _ :: rest => go (.ref .null :: stack) rest
    | stack, .func index :: rest => go (.ref (.func index) :: stack) rest
    | stack, .global index :: rest =>
      match globals[index]? with
      | some value => go (value :: stack) rest
      | none => none
    | stack, .combine op :: rest =>
      match op.eval stack with
      | .ok stack => go stack rest
      | .error _ => none

namespace Instantiation

variable {σ : Type} [Engine]

/-- Checks imports in order, logging each good one, up to the first bad one. -/
def checkImports : List Import → HostM σ Unit
  | [] => pure ()
  | item :: rest =>
    match item.fault? with
    | some fault => .fail (item.unresolved fault)
    | none => do
      HostM.record (.importResolved item.module item.name)
      checkImports rest

/-- Defines the host function under its name. -/
def addToLinker (linker : Linker) : HostM σ Linker :=
  let signature := HostSignature.putn
  match linker.define signature.module signature.name .putn with
  | .ok linker => pure linker
  | .error refusal => .reject (.notDefined signature.module signature.name refusal)

/-- Binds the imports of a module to the functions defined for it. -/
def link (linker : Linker) (m : Module) : HostM σ LinkedModule :=
  match linker.link m with
  | .ok linked => pure linked
  | .error refusal => .reject (.failed (.refused refusal))

/-- Refuses more of a resource than the limits allow. -/
def checkCount (resource : Resource) (count : Nat) (limit : UInt64) : HostM σ Unit :=
  if count ≤ limit.toNat then pure () else .reject (.tooMany resource count)

/-- Checks the number of instances, of memories and of tables, in this order. -/
def checkCounts (m : Module) (limits : ResourceLimits) : HostM σ Unit := do
  checkCount .instances 1 limits.maxInstances
  checkCount .memories m.memories.size limits.maxMemories
  checkCount .tables m.tables.size limits.maxTables

/-- Makes a memory of its least size, if the limiter approves and the engine can provide it. -/
def makeMemory (type : MemoryType) : HostM σ Memory := do
  let bytes := type.minimum * pageSize
  match (← get).askMemory 0 (min bytes Engine.greatestRequest) type.maximumBytes with
  | none => throw .overflow
  | some (approved, host) =>
    set host
    if approved && bytes < UInt64.size then
      if type.shared then .reject (.failed (.refused .sharedMemory))
      else if Engine.providesMemory bytes then pure { type, pages := type.minimum }
      else .reject (.failed (.refused (.memory bytes)))
    else .reject (.memoryMinimum type.minimum)

/-- Makes the heap of outside references, if the module needs one. It starts as a memory without
pages. -/
def makeRefHeap (m : Module) : HostM σ Unit :=
  if m.needsRefHeap then do
    let _ ← makeMemory { minimum := 0 }
  else pure ()

/-- Makes a table of its least size, if the limiter approves and the engine can provide it. -/
def makeTable (type : TableType) : HostM σ Table := do
  if (← get).askTable type.minimum then
    if Engine.providesTable type.minimum then pure { type, size := type.minimum }
    else .reject (.failed (.refused (.table type.minimum)))
  else .reject (.tableMinimum type.minimum)

/-- Refuses a module whose store cannot be filled, which is a trap outside of all code. -/
def trap {α : Type} (trap : Trap) : HostM σ α :=
  .reject (.failed (.aborted [] (.trap trap)))

/-- Computes a constant expression. -/
def evaluate (globals : Array Value) (items : ConstExpr) : HostM σ Value :=
  match constValue? globals items with
  | some value => pure value
  | none => trap .unreachable

/-- Computes the first values of the globals, each with those before it known. -/
def makeGlobals : List Global → Array Value → HostM σ (Array Value)
  | [], values => pure values
  | global :: rest, values => do
    let value ← evaluate values global.value
    makeGlobals rest (values.push value)

/-- The reference that an item of an element segment stands for. -/
def makeRef (globals : Array Value) (items : ConstExpr) : HostM σ Ref := do
  match ← evaluate globals items with
  | .ref ref => pure ref
  | _ => trap .unreachable

/-- The place in a table or memory where a segment goes. -/
def makeOffset (globals : Array Value) (items : ConstExpr) : HostM σ Nat := do
  match (← evaluate globals items).toIndex? with
  | some offset => pure offset
  | none => trap .unreachable

/-- Copies element segments into tables in order. Only passive segments are kept for later use. -/
def copyElems : List ElemSegment → Store → HostM σ Store
  | [], store => pure store
  | segment :: rest, store => do
    let refs ← segment.items.mapM (makeRef store.globals)
    match segment.mode with
    | .passive => copyElems rest { store with elems := store.elems.push refs.toArray }
    | .declared => copyElems rest { store with elems := store.elems.push #[] }
    | .active target place => do
      let offset ← makeOffset store.globals place
      if (store.tables[target]?).any (offset + refs.length ≤ ·.size) then
        let items := refs.toArray
        let store := store.updateTable target (·.write offset items.size
          fun i => items[i]?.getD .null)
        copyElems rest { store with elems := store.elems.push #[] }
      else trap .tableOutOfBounds

/-- Copies data segments into memories in order. Only passive segments are kept for later use. -/
def copyDatas : List DataSegment → Store → HostM σ Store
  | [], store => pure store
  | segment :: rest, store => do
    match segment.mode with
    | .passive => copyDatas rest { store with datas := store.datas.push segment.bytes }
    | .declared => copyDatas rest { store with datas := store.datas.push .empty }
    | .active target place => do
      let offset ← makeOffset store.globals place
      let n := segment.bytes.size
      if (store.memories[target]?).any (offset + n ≤ ·.size) then
        let store := store.updateMemory target (·.write offset n fun i => segment.bytes[i]?.getD 0)
        copyDatas rest { store with datas := store.datas.push .empty }
      else trap .memoryOutOfBounds

/-- Makes all that the code of a module works on. -/
def makeStore (m : Module) : HostM σ Store := do
  makeRefHeap m
  let memories ← m.memories.toList.mapM makeMemory
  let tables ← m.tables.toList.mapM makeTable
  let globals ← makeGlobals m.globals.toList #[]
  let store ← copyElems m.elems.toList
    { memories := memories.toArray, tables := tables.toArray, globals }
  copyDatas m.datas.toList store

/-- Calls a function of the module, for at most `steps` steps. The outcome is how the call ended and
the instance after it. -/
def call [Sink σ] (steps : Nat) (inst : Instance) (func : Func) (arguments : List Value := []) :
    HostM σ (Instance × Except Failure (List Value)) := do
  match Run.advance steps ⟨← get, .ofCall inst func arguments⟩ with
  | .running run =>
    set run.host
    throw .unfinished
  | .ended run ending =>
    set run.host
    let inst := { inst with store := run.machine.store }
    match ending with
    | .returned results => pure (inst, .ok results)
    | .aborted abort => pure (inst, .error (.aborted (Engine.backtrace run.machine) abort))
    | .overflow => throw .overflow

/-- Runs the start function, if there is one. -/
def start [Sink σ] (steps : Nat) (inst : Instance) : HostM σ Instance :=
  match inst.module.start.bind inst.module.callee? with
  | some (.defined func) => do
    match ← call steps inst func with
    | (inst, .ok _) => pure inst
    | (_, .error failure) => .reject (.failed failure)
  | _ => pure inst

end Instantiation

open Instantiation in
/-- Decodes, checks, links and instantiates a module, with a new limiter and no host calls made. -/
def instantiate {σ : Type} [Engine] [Sink σ] (steps : Nat) (limits : ResourceLimits)
    (bytes : ByteArray) : HostM σ Instance := do
  modify fun host => { host with limiter := .ofLimits limits, calls := 0 }
  HostM.record (.compiling bytes.size)
  match Module.load? bytes with
  | none => .reject (.failed (.refused (.invalid bytes)))
  | some m =>
    checkImports m.imports.toList
    let linker ← addToLinker {}
    let linked ← link linker m
    checkCounts m limits
    let store ← makeStore m
    let inst ← start steps ⟨linked, store⟩
    HostM.record (.instantiated m.imports.size m.exports.size (← get).limiter.current)
    pure inst

end WasmHost
