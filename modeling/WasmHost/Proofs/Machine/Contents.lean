import Mathlib
import WasmHost.Proofs.Machine.Locality
import WasmHost.Proofs.Machine.Shape

/-!
# The contents of memories

A memory keeps its bytes in a row without an end, and its size says how many of them code can reach.
Growth therefore only changes the size. That the new pages are zeros is an invariant: nothing has
ever been written past the size of a memory, because every instruction that writes checks its bounds
first.

`Store.Edits` says all that a step can do to the memories of a store: nothing, or a change of one
memory within its size.
-/

namespace WasmHost

/-- One memory is another one with changes within its size only. -/
structure Memory.EditedWithin (memory changed : Memory) : Prop where
  pages_eq : changed.pages = memory.pages
  beyond : ∀ address, memory.size ≤ address → changed.byte address = memory.byte address

/-- A memory reads as zeros past its size. -/
def Memory.ZeroBeyond (memory : Memory) : Prop :=
  ∀ address, memory.size ≤ address → memory.byte address = 0

namespace Memory

variable {memory : Memory} {address n : Nat}

theorem editedWithin_write (value : Nat → UInt8) (inside : address + n ≤ memory.size) :
    memory.EditedWithin (memory.write address n value) := by
  refine ⟨rfl, ?_⟩
  intro place beyond
  exact Sparse.get_write_of_outside memory.bytes value (by omega)

theorem editedWithin_fill (value : UInt8) (inside : address + n ≤ memory.size) :
    memory.EditedWithin (memory.fill address n value) := by
  refine ⟨rfl, ?_⟩
  intro place beyond
  exact Sparse.get_fill_of_outside memory.bytes value (by omega)

theorem editedWithin_copy (source : Sparse UInt8) (first : Nat)
    (inside : address + n ≤ memory.size) :
    memory.EditedWithin (memory.copy source first n address) := by
  refine ⟨rfl, ?_⟩
  intro place beyond
  exact Sparse.get_copy_of_outside memory.bytes source (by omega)

theorem EditedWithin.zeroBeyond {changed : Memory} (edited : memory.EditedWithin changed)
    (zeros : memory.ZeroBeyond) : changed.ZeroBeyond := by
  intro place beyond
  have sameSize : changed.size = memory.size := by
    simp only [size, edited.pages_eq]
  rw [edited.beyond place (by omega)]
  exact zeros place (by omega)

theorem ZeroBeyond.grow (zeros : memory.ZeroBeyond) (pages : Nat) :
    (memory.grow pages).ZeroBeyond := by
  intro place beyond
  apply zeros
  simp only [Memory.grow, size, Nat.add_mul] at beyond ⊢
  omega

theorem zeroBeyond_new (type : MemoryType) (pages : Nat) : ZeroBeyond { type, pages } := by
  intro place _
  simp only [byte, Sparse.get, Block.get, ite_self]

end Memory

namespace Store

/-- The memories of two stores are the same, or one of them is changed within its size. -/
inductive Edits (store other : Store) : Prop
  | nothing (same : other.memories = store.memories)
  | one (index : Nat) (memory : Memory) (change : Memory → Memory)
      (present : store.memories[index]? = some memory)
      (edited : other.memories = store.memories.modify index change)
      (within : memory.EditedWithin (change memory))

/-- All memories read as zeros past their sizes. -/
def ZeroBeyond (store : Store) : Prop :=
  ∀ memory ∈ store.memories, memory.ZeroBeyond

theorem ZeroBeyond.of_memories {store other : Store} (zeros : store.ZeroBeyond)
    (same : other.memories = store.memories) : other.ZeroBeyond := by
  intro memory memory_mem
  rw [same] at memory_mem
  exact zeros memory memory_mem

theorem ZeroBeyond.updateMemory {store : Store} {index : Nat} {memory : Memory}
    {change : Memory → Memory} (zeros : store.ZeroBeyond)
    (present : store.memories[index]? = some memory)
    (zerosChanged : (change memory).ZeroBeyond) : (store.updateMemory index change).ZeroBeyond :=
  forall_mem_modify present zerosChanged zeros

theorem Edits.zeroBeyond {store other : Store} (edits : store.Edits other)
    (zeros : store.ZeroBeyond) : other.ZeroBeyond := by
  cases edits with
  | nothing same => exact zeros.of_memories same
  | one index memory change present edited within =>
      have zerosChanged := within.zeroBeyond (zeros memory (Array.mem_of_getElem? present))
      exact (zeros.updateMemory present zerosChanged).of_memories edited

end Store

namespace Machine

variable (m : Machine) {index start n : Nat}

theorem exists_memory_of_memoryHolds (holds : m.memoryHolds index start n = true) :
    ∃ memory, m.store.memories[index]? = some memory ∧ start + n ≤ memory.size := by
  simp only [memoryHolds] at holds
  split at holds
  · rename_i memory present
    exact ⟨memory, present, by simpa using holds⟩
  · simp at holds

/-- A change of a memory whose bounds have been checked. -/
theorem edits_updateMemory {change : Memory → Memory} (operands : List Value)
    (holds : m.memoryHolds index start n = true)
    (within : ∀ memory : Memory, start + n ≤ memory.size → memory.EditedWithin (change memory)) :
    m.store.Edits (m.updateStore operands (·.updateMemory index change)).store := by
  rcases m.exists_memory_of_memoryHolds holds with ⟨memory, present, inside⟩
  exact .one index memory change present rfl (within memory inside)

theorem storeScalar_edits (op : StoreOp) (arg : MemArg) :
    m.store.Edits (m.storeScalar op arg).machine.store := by
  simp only [storeScalar]
  split
  · split
    · split
      · rename_i holds
        apply m.edits_updateMemory _ holds
        intro memory inside
        exact Memory.editedWithin_write _ inside
      · exact .nothing rfl
    · exact .nothing rfl
  · exact .nothing rfl

theorem memoryFill_edits (index : Nat) :
    m.store.Edits (m.memoryFill index).machine.store := by
  simp only [memoryFill]
  split
  · split
    · rename_i holds
      apply m.edits_updateMemory _ holds
      intro memory inside
      exact Memory.editedWithin_fill _ inside
    · exact .nothing rfl
  · exact .nothing rfl

theorem memoryCopy_edits (target source : Nat) :
    m.store.Edits (m.memoryCopy target source).machine.store := by
  simp only [memoryCopy]
  split
  · split
    · exact .nothing rfl
    · split
      · rename_i holds
        rw [Bool.and_eq_true] at holds
        apply m.edits_updateMemory _ holds.1
        intro memory inside
        exact Memory.editedWithin_copy _ _ inside
      · exact .nothing rfl
  · exact .nothing rfl

theorem memoryInit_edits (index data : Nat) :
    m.store.Edits (m.memoryInit index data).machine.store := by
  simp only [memoryInit]
  split
  · split
    · exact .nothing rfl
    · split
      · rename_i holds
        rw [Bool.and_eq_true] at holds
        apply m.edits_updateMemory _ holds.1
        intro memory inside
        exact Memory.editedWithin_write _ inside
      · exact .nothing rfl
  · exact .nothing rfl

@[simp]
theorem tableSet_memories (index : Nat) :
    (m.tableSet index).machine.store.memories = m.store.memories := by
  simp only [tableSet]
  split
  · split
    · rfl
    · split <;> rfl
  · rfl

@[simp]
theorem tableFill_memories (index : Nat) :
    (m.tableFill index).machine.store.memories = m.store.memories := by
  simp only [tableFill]
  split
  · split <;> rfl
  · rfl

@[simp]
theorem tableCopy_memories (target source : Nat) :
    (m.tableCopy target source).machine.store.memories = m.store.memories := by
  simp only [tableCopy]
  split
  · split
    · rfl
    · split <;> rfl
  · rfl

@[simp]
theorem tableInit_memories (index elem : Nat) :
    (m.tableInit index elem).machine.store.memories = m.store.memories := by
  simp only [tableInit]
  split
  · split
    · rfl
    · split <;> rfl
  · rfl

/-- Instructions write to memories within their bounds, and growth is only asked for. -/
theorem execStore_edits (instr : Instr) :
    m.store.Edits (m.execStore instr).machine.store := by
  cases instr with
  | globalGet index =>
      simp only [execStore]
      split <;> exact .nothing rfl
  | globalSet index =>
      simp only [execStore]
      split <;> exact .nothing rfl
  | load op arg => exact .nothing (congrArg Store.memories (m.load_store op arg))
  | store op arg => exact m.storeScalar_edits op arg
  | memorySize index =>
      simp only [execStore]
      split <;> exact .nothing rfl
  | memoryGrow index =>
      simp only [execStore]
      split
      · split <;> exact .nothing rfl
      · exact .nothing rfl
  | memoryFill index => exact m.memoryFill_edits index
  | memoryCopy target source => exact m.memoryCopy_edits target source
  | memoryInit index data => exact m.memoryInit_edits index data
  | tableGet index => exact .nothing (congrArg Store.memories (m.tableGet_store index))
  | tableSet index => exact .nothing (m.tableSet_memories index)
  | tableSize index =>
      simp only [execStore]
      split <;> exact .nothing rfl
  | tableGrow index =>
      simp only [execStore]
      split
      · split <;> exact .nothing rfl
      · exact .nothing rfl
  | tableFill index => exact .nothing (m.tableFill_memories index)
  | tableCopy target source => exact .nothing (m.tableCopy_memories target source)
  | tableInit index elem => exact .nothing (m.tableInit_memories index elem)
  | _ => exact .nothing rfl

/-- A step of the machine changes at most one memory, and that within its size. -/
theorem step_edits [Engine] : m.store.Edits m.step.machine.store := by
  rcases m.step_store_or_execStore with kept | ⟨before, instr, same, performed⟩
  · exact .nothing (congrArg Store.memories kept)
  · rw [performed, ← same]
    exact before.execStore_edits instr

end Machine

end WasmHost
