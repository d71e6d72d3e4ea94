import Mathlib
import WasmHost.Machine.Step

/-!
# Shapes of stores

The shape of a store is what only growth can change: the types of its memories and tables and their
sizes. This file proves that no instruction changes the shape by itself. An instruction that would
grow a memory or a table hands out a signal with the store as it was, so whoever answers the signal
decides alone about the sizes of everything in the store.

Shapes are compared as arrays of types and sizes. Two stores of one shape therefore have equally
many memories and tables, and a memory of one has the size of the memory at the same index of the
other.
-/

namespace WasmHost

/-- The type of a memory and its size in pages. -/
def Memory.shape (memory : Memory) : MemoryType × Nat :=
  (memory.type, memory.pages)

/-- The type of a table and its size in elements. -/
def Table.shape (table : Table) : TableType × Nat :=
  (table.type, table.size)

theorem Memory.size_of_shape {memory other : Memory} (same : memory.shape = other.shape) :
    memory.size = other.size := by
  simp only [shape, Prod.mk.injEq] at same
  simp [size, same.2]

theorem Table.size_of_shape {table other : Table} (same : table.shape = other.shape) :
    table.size = other.size := by
  simp only [shape, Prod.mk.injEq] at same
  exact same.2

section Arrays

variable {α β : Type} {view : α → β}

theorem map_modify_of_keeps (items : Array α) (index : Nat) {change : α → α}
    (keeps : ∀ item, view (change item) = view item) :
    (items.modify index change).map view = items.map view := by
  apply Array.ext
  · simp
  · intro i _ _
    simp only [Array.getElem_map, Array.getElem_modify]
    split
    · exact keeps _
    · rfl

theorem exists_mem_of_map_eq {items others : Array α} (same : items.map view = others.map view)
    {item : α} (present : item ∈ others) : ∃ twin ∈ items, view twin = view item := by
  have view_mem : view item ∈ items.map view := by
    rw [same]
    exact Array.mem_map_of_mem present
  exact Array.mem_map.mp view_mem

theorem forall_mem_modify {holds : α → Prop} {change : α → α} {items : Array α}
    {index : Nat} {item : α} (present : items[index]? = some item) (changed : holds (change item))
    (unchanged : ∀ other ∈ items, holds other) :
    ∀ other ∈ items.modify index change, holds other := by
  intro other other_mem
  rcases Array.mem_iff_getElem?.mp other_mem with ⟨i, at_i⟩
  rw [Array.getElem?_modify] at at_i
  split at at_i
  · rename_i same
    subst same
    simp only [present, Option.map_some, Option.some.injEq] at at_i
    subst at_i
    exact changed
  · exact unchanged other (Array.mem_of_getElem? at_i)

end Arrays

namespace Store

/-- Memories and tables have the same types and sizes in both stores. -/
structure SameShape (store other : Store) : Prop where
  memories : store.memories.map Memory.shape = other.memories.map Memory.shape
  tables : store.tables.map Table.shape = other.tables.map Table.shape

theorem memoryBytes_eq_sum (store : Store) :
    store.memoryBytes = (store.memories.toList.map Memory.size).sum := by
  simp only [memoryBytes]
  induction store.memories.toList with
  | nil => rfl
  | cons memory rest ih => simp [ih]

namespace SameShape

variable {store other third : Store}

theorem refl (store : Store) : store.SameShape store :=
  ⟨rfl, rfl⟩

theorem of_eq (same : store = other) : store.SameShape other :=
  same ▸ refl store

theorem trans (first : store.SameShape other) (second : other.SameShape third) :
    store.SameShape third :=
  ⟨first.memories.trans second.memories, first.tables.trans second.tables⟩

theorem memories_size (same : store.SameShape other) :
    store.memories.size = other.memories.size := by
  simpa using congrArg Array.size same.memories

theorem tables_size (same : store.SameShape other) :
    store.tables.size = other.tables.size := by
  simpa using congrArg Array.size same.tables

/-- The sizes of all memories, and so their sum, are part of the shape. -/
theorem memoryBytes (same : store.SameShape other) : store.memoryBytes = other.memoryBytes := by
  have sizes : ∀ s : Store, s.memories.toList.map Memory.size
      = (s.memories.map Memory.shape).toList.map (fun shape => shape.2 * pageSize) := by
    intro s
    simp [Memory.shape, Memory.size]
  rw [memoryBytes_eq_sum, memoryBytes_eq_sum, sizes, sizes, same.memories]

/-- A memory of one store has a counterpart of its size in the other. -/
theorem exists_memory (same : store.SameShape other) {memory : Memory}
    (present : memory ∈ other.memories) : ∃ twin ∈ store.memories, twin.size = memory.size := by
  rcases exists_mem_of_map_eq same.memories present with ⟨twin, twin_mem, shapes⟩
  exact ⟨twin, twin_mem, Memory.size_of_shape shapes⟩

/-- A table of one store has a counterpart of its size in the other. -/
theorem exists_table (same : store.SameShape other) {table : Table}
    (present : table ∈ other.tables) : ∃ twin ∈ store.tables, twin.size = table.size := by
  rcases exists_mem_of_map_eq same.tables present with ⟨twin, twin_mem, shapes⟩
  exact ⟨twin, twin_mem, Table.size_of_shape shapes⟩

end SameShape

/-- A change of one memory that keeps its type and size keeps the shape of the store. -/
theorem sameShape_updateMemory (store : Store) (index : Nat) {change : Memory → Memory}
    (keeps : ∀ memory, (change memory).shape = memory.shape) :
    store.SameShape (store.updateMemory index change) :=
  ⟨(map_modify_of_keeps store.memories index keeps).symm, rfl⟩

/-- A change of one table that keeps its type and size keeps the shape of the store. -/
theorem sameShape_updateTable (store : Store) (index : Nat) {change : Table → Table}
    (keeps : ∀ table, (change table).shape = table.shape) :
    store.SameShape (store.updateTable index change) :=
  ⟨rfl, (map_modify_of_keeps store.tables index keeps).symm⟩

end Store

/-- The machine in the state that a signal hands out. -/
def Signal.machine : Signal → Machine
  | next machine => machine
  | done machine _ => machine
  | trap machine _ => machine
  | emit machine _ => machine
  | growMemory machine _ _ => machine
  | growTable machine _ _ _ => machine

namespace Machine

variable (m : Machine)

@[simp]
theorem ret_store : m.ret.machine.store = m.store := by
  simp only [ret]
  split <;> rfl

@[simp]
theorem leave_store : m.leave.machine.store = m.store := by
  simp only [leave]
  split
  · exact m.ret_store
  · rfl

@[simp]
theorem branch_store (label : Nat) : (m.branch label).machine.store = m.store := by
  simp only [branch]
  split
  · rfl
  · exact m.ret_store

@[simp]
theorem call_store [Engine] (callee : Callee) : (m.call callee).machine.store = m.store := by
  simp only [call]
  split
  · split <;> rfl
  · split <;> rfl

@[simp]
theorem tailCall_store (callee : Callee) : (m.tailCall callee).machine.store = m.store := by
  simp only [tailCall]
  split
  · split <;> rfl
  · rfl

@[simp]
theorem callIndirect_store [Engine] (table : Nat) (type : FuncType) (tail : Bool) :
    (m.callIndirect table type tail).machine.store = m.store := by
  simp only [callIndirect]
  split
  · rfl
  · split
    · exact tailCall_store _ _
    · exact call_store _ _

@[simp]
theorem load_store (op : LoadOp) (arg : MemArg) : (m.load op arg).machine.store = m.store := by
  simp only [load]
  split
  · split
    · rfl
    · split <;> rfl
  · rfl

theorem storeScalar_sameShape (op : StoreOp) (arg : MemArg) :
    m.store.SameShape (m.storeScalar op arg).machine.store := by
  simp only [storeScalar]
  split
  · split
    · split
      · exact m.store.sameShape_updateMemory _ fun _ => rfl
      · exact .refl _
    · exact .refl _
  · exact .refl _

theorem memoryFill_sameShape (index : Nat) :
    m.store.SameShape (m.memoryFill index).machine.store := by
  simp only [memoryFill]
  split
  · split
    · exact m.store.sameShape_updateMemory _ fun _ => rfl
    · exact .refl _
  · exact .refl _

theorem memoryCopy_sameShape (target source : Nat) :
    m.store.SameShape (m.memoryCopy target source).machine.store := by
  simp only [memoryCopy]
  split
  · split
    · exact .refl _
    · split
      · exact m.store.sameShape_updateMemory _ fun _ => rfl
      · exact .refl _
  · exact .refl _

theorem memoryInit_sameShape (index data : Nat) :
    m.store.SameShape (m.memoryInit index data).machine.store := by
  simp only [memoryInit]
  split
  · split
    · exact .refl _
    · split
      · exact m.store.sameShape_updateMemory _ fun _ => rfl
      · exact .refl _
  · exact .refl _

@[simp]
theorem tableGet_store (index : Nat) : (m.tableGet index).machine.store = m.store := by
  simp only [tableGet]
  split
  · split <;> rfl
  · rfl

theorem tableSet_sameShape (index : Nat) :
    m.store.SameShape (m.tableSet index).machine.store := by
  simp only [tableSet]
  split
  · split
    · exact .refl _
    · split
      · exact m.store.sameShape_updateTable _ fun _ => rfl
      · exact .refl _
  · exact .refl _

theorem tableFill_sameShape (index : Nat) :
    m.store.SameShape (m.tableFill index).machine.store := by
  simp only [tableFill]
  split
  · split
    · exact m.store.sameShape_updateTable _ fun _ => rfl
    · exact .refl _
  · exact .refl _

theorem tableCopy_sameShape (target source : Nat) :
    m.store.SameShape (m.tableCopy target source).machine.store := by
  simp only [tableCopy]
  split
  · split
    · exact .refl _
    · split
      · exact m.store.sameShape_updateTable _ fun _ => rfl
      · exact .refl _
  · exact .refl _

theorem tableInit_sameShape (index elem : Nat) :
    m.store.SameShape (m.tableInit index elem).machine.store := by
  simp only [tableInit]
  split
  · split
    · exact .refl _
    · split
      · exact m.store.sameShape_updateTable _ fun _ => rfl
      · exact .refl _
  · exact .refl _

/-- Instructions on memories, tables and globals keep the shape: growth is only asked for. -/
theorem execStore_sameShape (instr : Instr) :
    m.store.SameShape (m.execStore instr).machine.store := by
  cases instr with
  | globalGet index =>
      simp only [execStore]
      split <;> exact .refl _
  | globalSet index =>
      simp only [execStore]
      split <;> exact ⟨rfl, rfl⟩
  | load op arg => exact .of_eq (m.load_store op arg).symm
  | store op arg => exact m.storeScalar_sameShape op arg
  | memorySize index =>
      simp only [execStore]
      split <;> exact .refl _
  | memoryGrow index =>
      simp only [execStore]
      split
      · split <;> exact .refl _
      · exact .refl _
  | memoryFill index => exact m.memoryFill_sameShape index
  | memoryCopy target source => exact m.memoryCopy_sameShape target source
  | memoryInit index data => exact m.memoryInit_sameShape index data
  | dataDrop data => exact ⟨rfl, rfl⟩
  | tableGet index => exact .of_eq (m.tableGet_store index).symm
  | tableSet index => exact m.tableSet_sameShape index
  | tableSize index =>
      simp only [execStore]
      split <;> exact .refl _
  | tableGrow index =>
      simp only [execStore]
      split
      · split <;> exact .refl _
      · exact .refl _
  | tableFill index => exact m.tableFill_sameShape index
  | tableCopy target source => exact m.tableCopy_sameShape target source
  | tableInit index elem => exact m.tableInit_sameShape index elem
  | elemDrop elem => exact ⟨rfl, rfl⟩
  | _ => exact .refl _

/-- An instruction leaves the store alone, or it is one that works on memories, tables or
globals. -/
theorem exec_store_or_execStore [Engine] (instr : Instr) :
    (m.exec instr).machine.store = m.store ∨ m.exec instr = m.execStore instr := by
  cases instr with
  | ite type thenBody elseBody =>
      left
      simp only [exec]
      split <;> rfl
  | br label => exact .inl (m.branch_store label)
  | brIf label =>
      left
      simp only [exec]
      split
      · split
        · rfl
        · exact branch_store _ label
      · rfl
  | brTable labels otherwise =>
      left
      simp only [exec]
      split
      · exact branch_store _ _
      · rfl
  | ret => exact .inl m.ret_store
  | call func =>
      left
      simp only [exec]
      split
      · exact m.call_store _
      · rfl
  | callIndirect table type => exact .inl (m.callIndirect_store table type false)
  | returnCall func =>
      left
      simp only [exec]
      split
      · exact m.tailCall_store _
      · rfl
  | returnCallIndirect table type => exact .inl (m.callIndirect_store table type true)
  | select type =>
      left
      simp only [exec]
      split <;> rfl
  | localGet index =>
      left
      simp only [exec]
      split <;> rfl
  | localSet index =>
      left
      simp only [exec]
      split <;> rfl
  | localTee index =>
      left
      simp only [exec]
      split <;> rfl
  | numeric op =>
      left
      simp only [exec]
      split <;> rfl
  | refIsNull =>
      left
      simp only [exec]
      split <;> rfl
  | unreachable => exact .inl rfl
  | nop => exact .inl rfl
  | block type body => exact .inl rfl
  | loop type body => exact .inl rfl
  | drop => exact .inl rfl
  | const value => exact .inl rfl
  | refNull heap => exact .inl rfl
  | refFunc func => exact .inl rfl
  | _ => exact .inr rfl

/-- A step leaves the store alone, or it performs an instruction on memories, tables or globals. -/
theorem step_store_or_execStore [Engine] :
    m.step.machine.store = m.store ∨
      ∃ (before : Machine) (instr : Instr),
        before.store = m.store ∧ m.step = before.execStore instr := by
  simp only [step]
  split
  · exact .inl m.leave_store
  · rename_i instr code _
    rcases exec_store_or_execStore { m with frame := { m.frame with code } } instr with
      kept | performed
    · exact .inl kept
    · exact .inr ⟨{ m with frame := { m.frame with code } }, instr, rfl, performed⟩

/-- A step of the machine never changes the shape of the store, whatever it asks of its host. -/
theorem step_sameShape [Engine] : m.store.SameShape m.step.machine.store := by
  rcases m.step_store_or_execStore with kept | ⟨before, instr, same, performed⟩
  · exact .of_eq kept.symm
  · rw [performed, ← same]
    exact before.execStore_sameShape instr

end Machine

end WasmHost
