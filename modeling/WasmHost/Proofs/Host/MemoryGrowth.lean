import Mathlib
import WasmHost.Proofs.Host.Overflow
import WasmHost.Proofs.Machine.Contents

/-!
# Growth is all or nothing

An instruction that grows a memory goes through the limiter and then through the engine. The limiter
may deny the growth, for one of two reasons, and the engine may be unable to carry out what the
limiter has approved and counted. This file proves that the module sees the same in all these cases,
which is minus one and nothing else, and that otherwise it gets exactly the pages that it has asked
for.

What is new in a memory reads as zeros because nothing was ever written past its size. That is the
invariant `Store.ZeroBeyond`, which is carried through the whole run. Minus one is never a number of
pages, because no memory outgrows its addresses, which is the invariant `Store.Addressable`. What
the limiter counts follows from its accounts, which are in order before and after. And the reasons
for a refusal are said here by sizes without a bound: a request that is cut down to what a word can
tell is refused by the engine, so that it does not matter what the limiter makes of it.
-/

namespace WasmHost

open Instantiation

variable {σ : Type}

section Limits

/-- The most pages that a memory may have: the declared maximum, or as many as a 32-bit address
reaches. -/
def MemoryType.pageLimit (type : MemoryType) : Option Nat :=
  match type.maximum, type.index with
  | some pages, _ => some pages
  | none, .i32 => some 65536
  | none, .i64 => none

theorem MemoryType.exists_pageLimit {type : MemoryType} :
    ∀ bound ∈ type.maximumBytes, ∃ limit ∈ type.pageLimit, bound = limit * pageSize := by
  intro bound bound_mem
  simp only [maximumBytes] at bound_mem
  split at bound_mem
  · rename_i limit declared
    split at bound_mem
    · simp only [Option.mem_def, Option.some.injEq] at bound_mem
      exact ⟨limit, by simp [pageLimit, declared], bound_mem.symm⟩
    · simp at bound_mem
  · rename_i undeclared narrow
    simp only [Option.mem_def, Option.some.injEq] at bound_mem
    exact ⟨65536, by simp [pageLimit, undeclared, narrow], bound_mem.symm⟩
  · simp at bound_mem

/-- The limiter is told every limit that a word can tell. -/
theorem MemoryType.maximumBytes_of_pageLimit {type : MemoryType} :
    ∀ limit ∈ type.pageLimit, limit * pageSize < UInt64.size →
      limit * pageSize ∈ type.maximumBytes := by
  intro limit limit_mem fits
  simp only [pageLimit] at limit_mem
  split at limit_mem
  · rename_i declared
    simp only [Option.mem_def, Option.some.injEq] at limit_mem
    subst limit_mem
    simp [maximumBytes, declared, fits]
  · rename_i undeclared narrow
    simp only [Option.mem_def, Option.some.injEq] at limit_mem
    subst limit_mem
    simp [maximumBytes, undeclared, narrow]
    decide
  · simp at limit_mem

theorem MemoryType.minimum_le_of_isValid {type : MemoryType} (valid : type.isValid = true) :
    type.minimum ≤ type.index.pages := by
  simp only [isValid, Bool.and_eq_true, decide_eq_true_eq] at valid
  exact valid.1.1.2

/-- A 32-bit memory is limited, and by no more pages than its addresses reach. -/
theorem MemoryType.exists_pageLimit_le {type : MemoryType} (valid : type.isValid = true)
    (narrow : type.index = .i32) : ∃ limit ∈ type.pageLimit, limit ≤ 65536 := by
  cases declared : type.maximum with
  | none => exact ⟨65536, by simp [pageLimit, declared, narrow], le_rfl⟩
  | some limit =>
      simp only [isValid, declared, narrow, Option.all_some, Bool.and_eq_true,
        decide_eq_true_eq] at valid
      exact ⟨limit, by simp [pageLimit, declared], valid.1.2⟩

theorem Module.memories_valid {m : Module} {bytes : ByteArray} (loaded : load? bytes = some m) :
    ∀ type ∈ m.memories.toList, type.isValid = true := by
  have valid := isValid_of_load? loaded
  simp only [isValid, Bool.and_eq_true, List.all_eq_true] at valid
  intro type type_mem
  apply valid.1.1.1.1.1.1.1.1.2 type
  simp only [context, memoryTypes, List.mem_append]
  exact .inr type_mem

end Limits

section Requests

/-- The size that the limiter is asked for, which a word can tell. -/
def Memory.requestedSize (memory : Memory) (pages : Nat) : Nat :=
  min (memory.size + pages * pageSize) Engine.greatestRequest

theorem Memory.requestedSize_le (memory : Memory) (pages : Nat) :
    memory.requestedSize pages ≤ memory.size + pages * pageSize :=
  Nat.min_le_left _ _

theorem Memory.requestedSize_lt (memory : Memory) (pages : Nat) :
    memory.requestedSize pages < UInt64.size :=
  Nat.lt_of_le_of_lt (Nat.min_le_right _ _) Engine.greatestRequest_lt_size

theorem Store.updateMemory_grow_zero (store : Store) (index : Nat) :
    store.updateMemory index (·.grow 0) = store := by
  have same : store.memories.modify index (·.grow 0) = store.memories := by
    apply Array.ext
    · simp
    · intro i _ _
      rw [Array.getElem_modify]
      split <;> rfl
  simp only [updateMemory, same]

end Requests

section Steps

variable [Engine] {host : Host σ} {memory : Memory} {pages : Nat}

theorem Run.growMemory_of_pos {machine : Machine} {index : Nat}
    (present : machine.store.memories[index]? = some memory) (positive : 0 < pages) :
    growMemory host machine index pages =
      match host.askMemory memory.size (memory.requestedSize pages) memory.type.maximumBytes with
      | none => .ended ⟨host, machine⟩ .overflow
      | some (false, host) => .running ⟨host, machine.push (.minusOne memory.type.index)⟩
      | some (true, host) =>
        if Engine.providesMemory (memory.requestedSize pages) then
          .running ⟨host, { machine with
            store := machine.store.updateMemory index (·.grow pages) }.push
              (.ofIndex memory.type.index memory.pages)⟩
        else
          .running ⟨host.growthFailed (memory.requestedSize pages),
            machine.push (.minusOne memory.type.index)⟩ := by
  simp only [growMemory, present, if_neg (Nat.ne_of_gt positive)]
  rfl

/-- The memories of a store are the same afterwards, or one of them has grown, as the limiter has
approved and the engine provides. -/
inductive MemoriesAfter (host : Host σ) (store after : Store) : Prop
  | same (memories : after.memories = store.memories)
  | grown {index pages : Nat} {memory : Memory} {granted : Host σ}
      (present : store.memories[index]? = some memory)
      (approved : host.askMemory memory.size (memory.requestedSize pages) memory.type.maximumBytes
        = some (true, granted))
      (provided : Engine.providesMemory (memory.requestedSize pages) = true)
      (store_eq : after = store.updateMemory index (·.grow pages))

theorem Run.growMemory_memories (host : Host σ) (machine : Machine) (index pages : Nat) :
    MemoriesAfter host machine.store
      (growMemory host machine index pages).state.machine.store := by
  cases present : machine.store.memories[index]? with
  | none =>
      simp only [growMemory, present]
      exact .same rfl
  | some memory =>
      rcases Nat.eq_zero_or_pos pages with rfl | positive
      · simp only [growMemory, present, if_true]
        exact .same rfl
      · rw [growMemory_of_pos present positive]
        split
        · exact .same rfl
        · exact .same rfl
        · rename_i approved
          split
          · rename_i provided
            exact .grown present approved provided rfl
          · exact .same rfl

theorem Run.growTable_memories (host : Host σ) (machine : Machine) (index n : Nat) (ref : Ref) :
    (growTable host machine index n ref).state.machine.store.memories
      = machine.store.memories := by
  simp only [growTable]
  split
  · rfl
  · split
    · rfl
    · split <;> rfl

/-- What a step of a run adds to the step of the machine is at most a growth. -/
theorem Run.step_memories [Sink σ] (run : Run σ) :
    MemoriesAfter run.host run.machine.step.machine.store run.step.state.machine.store := by
  rcases run with ⟨host, machine⟩
  simp only [step]
  split <;> rename_i stepped <;> rw [stepped]
  · exact .same rfl
  · exact .same rfl
  · exact .same rfl
  · refine .same ?_
    simp only [emit]
    split <;> rfl
  · exact growMemory_memories host _ _ _
  · exact .same (growTable_memories host _ _ _ _)

end Steps

section Zeros

variable [Engine] {host after : Host σ} {m : Module} {store : Store}

theorem Instantiation.makeMemory_eq {type : MemoryType} {memory : Memory}
    (made : (makeMemory type).Yields host memory after) :
    memory = { type, pages := type.minimum } := by
  simp only [makeMemory, HostM.Yields, HostM.outcome_bind, HostM.outcome_get] at made
  split at made
  · simp at made
  · simp only [HostM.outcome_bind, HostM.outcome_set] at made
    split at made
    · split at made
      · simp at made
      · split at made
        · simp only [HostM.outcome_pure, Prod.mk.injEq, Except.ok.injEq] at made
          exact made.1.symm
        · simp at made
    · simp at made

theorem Instantiation.makeMemories_zeroBeyond {types : List MemoryType}
    (made : (makeMemories m types).Yields host store after) : store.ZeroBeyond := by
  rcases HostM.bind_yields_iff.mp made with ⟨_, heaped, _, made⟩
  rcases HostM.bind_yields_iff.mp made with ⟨memories, last, madeAll, made⟩
  simp only [HostM.Yields, HostM.outcome_pure, Prod.mk.injEq, Except.ok.injEq] at made
  rcases made with ⟨rfl, rfl⟩
  have each : ∀ type ∈ types, ∀ (before : Host σ) memory later,
      (makeMemory type).Yields before memory later → memory.ZeroBeyond := by
    intro type _ before memory later made
    rw [makeMemory_eq made]
    exact Memory.zeroBeyond_new type type.minimum
  intro memory memory_mem
  exact HostM.forall_of_mapM_yields each madeAll memory (by simpa using memory_mem)

theorem Instantiation.makeTables_zeroBeyond {types : List TableType}
    (made : (makeTables m types).Yields host store after) : store.ZeroBeyond := by
  rcases HostM.bind_yields_iff.mp made with ⟨memories, middle, madeMemories, made⟩
  rcases HostM.bind_yields_iff.mp made with ⟨tables, last, _, made⟩
  simp only [HostM.Yields, HostM.outcome_pure, Prod.mk.injEq, Except.ok.injEq] at made
  rcases made with ⟨rfl, rfl⟩
  exact (makeMemories_zeroBeyond madeMemories).of_memories rfl

theorem Instantiation.fillTables_zeroBeyond {segments : List ElemSegment}
    (made : (fillTables m segments).Yields host store after) : store.ZeroBeyond := by
  rcases HostM.bind_yields_iff.mp made with ⟨empty, middle, madeTables, made⟩
  rcases HostM.bind_yields_iff.mp made with ⟨globals, later, _, copied⟩
  have zeros := makeTables_zeroBeyond madeTables
  apply copyElems_invariant _ _ copied (zeros.of_memories rfl)
  · intro other elems zerosOther
    exact zerosOther.of_memories rfl
  · intro other target start n value zerosOther
    exact zerosOther.of_memories rfl

/-- Data segments are copied within the sizes of memories. -/
theorem Instantiation.fillMemories_zeroBeyond {segments : List DataSegment}
    (made : (fillMemories m segments).Yields host store after) : store.ZeroBeyond := by
  rcases HostM.bind_yields_iff.mp made with ⟨filled, middle, madeTables, copied⟩
  apply copyDatas_invariant _ _ copied (fillTables_zeroBeyond madeTables)
  · intro other datas zeros
    exact zeros.of_memories rfl
  · intro other target memory start n value present inside zeros
    apply zeros.updateMemory present
    apply (Memory.editedWithin_write value inside).zeroBeyond
    exact zeros memory (Array.mem_of_getElem? present)

theorem Makes.zeroBeyond {first : Host σ} (makes : Makes m first host store) :
    store.ZeroBeyond := by
  cases makes with
  | memories types part made => exact makeMemories_zeroBeyond made
  | tables types part made => exact makeTables_zeroBeyond made
  | elems segments part made => exact fillTables_zeroBeyond made
  | datas segments part made => exact fillMemories_zeroBeyond made

/-- One step of a run writes nothing past the size of a memory. -/
theorem Run.step_zeroBeyond [Sink σ] (run : Run σ) (zeros : run.machine.store.ZeroBeyond) :
    run.step.state.machine.store.ZeroBeyond := by
  have kept := run.machine.step_edits.zeroBeyond zeros
  rcases run.step_memories with ⟨same⟩ | ⟨present, _, _, grown⟩
  · exact kept.of_memories same
  · rw [grown]
    exact kept.updateMemory present ((kept _ (Array.mem_of_getElem? present)).grow _)

/-- At every moment of a run, memories read as zeros past their sizes. -/
theorem Moment.zeroBeyond [Sink σ] {config : Config} {bytes : ByteArray} {first : Host σ}
    (moment : Moment config bytes first host store) : store.ZeroBeyond := by
  have invariant : Invariant config bytes first fun _ store => store.ZeroBeyond := by
    refine ⟨?_, ?_, Run.step_zeroBeyond⟩
    · intro m linked admitted host store _ _ makes
      exact makes.zeroBeyond
    · intro host store event zeros
      exact zeros
  exact invariant.moment moment

end Zeros

section Reach

/-- The type of the memory is valid, and addresses of its width reach all of its pages. -/
structure Memory.Addressable (memory : Memory) : Prop where
  valid : memory.type.isValid = true
  reached : memory.pages ≤ memory.type.index.pages

def Store.Addressable (store : Store) : Prop :=
  ∀ memory ∈ store.memories, memory.Addressable

theorem Store.Addressable.updateMemory {store : Store} {index : Nat} {memory : Memory}
    {change : Memory → Memory} (addressable : store.Addressable)
    (present : store.memories[index]? = some memory) (changed : (change memory).Addressable) :
    (store.updateMemory index change).Addressable :=
  forall_mem_modify present changed addressable

theorem Store.Addressable.of_shapes {store other : Store}
    (addressable : store.Addressable)
    (same : store.memories.map Memory.shape = other.memories.map Memory.shape) :
    other.Addressable := by
  intro memory memory_mem
  rcases exists_mem_of_map_eq same memory_mem with ⟨twin, twin_mem, shapes⟩
  simp only [Memory.shape, Prod.mk.injEq] at shapes
  rcases addressable twin twin_mem with ⟨valid, reached⟩
  rw [shapes.1] at valid reached
  rw [shapes.2] at reached
  exact ⟨valid, reached⟩

/-- A number of pages that addresses reach is read back as an index. -/
theorem Value.toIndex?_ofIndex {index : IndexType} {n : Nat} (reached : n ≤ index.pages) :
    (ofIndex index n).toIndex? = some n := by
  cases index with
  | i32 =>
      have few : n < 2 ^ 32 := Nat.lt_of_le_of_lt reached (by decide)
      exact congrArg some (Nat.mod_eq_of_lt few)
  | i64 =>
      have few : n < 2 ^ 64 := Nat.lt_of_le_of_lt reached (by decide)
      exact congrArg some (Nat.mod_eq_of_lt few)

/-- Minus one is the index of no page, nor a number of them. -/
theorem Value.toIndex?_minusOne {index : IndexType} {n : Nat} (reached : n ≤ index.pages) :
    (minusOne index).toIndex? ≠ some n := by
  intro same
  cases index with
  | i32 =>
      cases same
      exact absurd reached (by decide)
  | i64 =>
      cases same
      exact absurd reached (by decide)

/-- Numbers of pages are indices, and none of them is minus one. -/
theorem Memory.Addressable.toIndex?_pages {memory : Memory} (addressable : memory.Addressable) :
    (Value.ofIndex memory.type.index memory.pages).toIndex? = some memory.pages ∧
      Value.ofIndex memory.type.index memory.pages ≠ .minusOne memory.type.index := by
  have index := Value.toIndex?_ofIndex addressable.reached
  refine ⟨index, ?_⟩
  intro same
  rw [same] at index
  exact Value.toIndex?_minusOne addressable.reached index

end Reach

/-- A memory of the store cannot grow by a number of pages: it would have more than it may have, all
memories together would be over the ceiling, or the engine has no room for its new size. -/
def RefusesGrowth [Engine] (limits : ResourceLimits) (store : Store) (memory : Memory)
    (pages : Nat) : Prop :=
  0 < pages ∧
    ((∃ limit ∈ memory.type.pageLimit, limit < memory.pages + pages) ∨
      (∃ ceiling ∈ limits.maxMemoryBytes, ceiling.toNat < store.memoryBytes + pages * pageSize) ∨
      Engine.providesMemory (memory.size + pages * pageSize) = false)

section Decision

variable [Engine] {host after : Host σ} {limits : ResourceLimits} {store : Store} {memory : Memory}
  {pages : Nat}

/-- A size that the engine can provide was not cut down. -/
theorem Memory.requestedSize_eq
    (provided : Engine.providesMemory (memory.requestedSize pages) = true) :
    memory.requestedSize pages = memory.size + pages * pageSize := by
  have below := Engine.lt_of_providesMemory _ provided
  have reached := memoryBound_le_greatestRequest
  simp only [requestedSize] at below ⊢
  omega

/-- A size that was cut down is as much beyond the engine as the one that was meant. -/
theorem Memory.unprovided_of_requestedSize
    (unprovided : Engine.providesMemory (memory.requestedSize pages) = false) :
    Engine.providesMemory (memory.size + pages * pageSize) = false := by
  by_contra provided
  rw [Bool.not_eq_false] at provided
  have below := Engine.lt_of_providesMemory _ provided
  have reached := memoryBound_le_greatestRequest
  have uncut : memory.requestedSize pages = memory.size + pages * pageSize := by
    simp only [requestedSize]
    omega
  rw [uncut, provided] at unprovided
  cases unprovided

theorem refusesGrowth_of_denied (balanced : host.limiter.Balanced limits store.memoryBytes)
    (small : memory.size < UInt64.size) (positive : 0 < pages)
    (denied : host.askMemory memory.size (memory.requestedSize pages) memory.type.maximumBytes
      = some (false, after)) : RefusesGrowth limits store memory pages := by
  have requested := memory.requestedSize_le pages
  refine ⟨positive, ?_⟩
  rcases (Host.askMemory_denied_iff balanced small (memory.requestedSize_lt pages)
    MemoryType.maximumBytes_lt_size).mp ⟨after, denied⟩ with
    ⟨bound, bound_mem, exceeds⟩ | ⟨_, ceiling, configured, exceeds⟩
  · left
    rcases MemoryType.exists_pageLimit bound bound_mem with ⟨limit, limit_mem, rfl⟩
    refine ⟨limit, limit_mem, ?_⟩
    apply Nat.lt_of_mul_lt_mul_right (a := pageSize)
    rw [Nat.add_mul]
    exact Nat.lt_of_lt_of_le exceeds requested
  · right
    left
    refine ⟨ceiling, configured, ?_⟩
    omega

/-- Growth that the limiter approves and the engine can provide is not refused. -/
theorem not_refusesGrowth_of_approved
    (balanced : host.limiter.Balanced limits store.memoryBytes)
    (small : memory.size < UInt64.size)
    (provided : Engine.providesMemory (memory.requestedSize pages) = true)
    (approved : host.askMemory memory.size (memory.requestedSize pages) memory.type.maximumBytes
      = some (true, after)) : ¬RefusesGrowth limits store memory pages := by
  have requested := Memory.requestedSize_eq provided
  have desiredFits := memory.requestedSize_lt pages
  have isAnswered : host.askMemory memory.size (memory.requestedSize pages)
      memory.type.maximumBytes ≠ none := by
    simp [approved]
  have undenied : ¬∃ denied, host.askMemory memory.size (memory.requestedSize pages)
      memory.type.maximumBytes = some (false, denied) := by
    simp [approved]
  rw [ne_eq, Host.askMemory_eq_none_iff balanced small desiredFits
    MemoryType.maximumBytes_lt_size] at isAnswered
  rw [Host.askMemory_denied_iff balanced small desiredFits
    MemoryType.maximumBytes_lt_size] at undenied
  have allowed := Host.le_of_askMemory_approved desiredFits MemoryType.maximumBytes_lt_size approved
  rintro ⟨_, ⟨limit, limit_mem, exceeds⟩ | ⟨ceiling, configured, exceeds⟩ | noRoom⟩
  · have larger := Nat.mul_lt_mul_of_pos_right exceeds (by decide : 0 < pageSize)
    rw [Nat.add_mul] at larger
    have sizes : limit * pageSize < memory.requestedSize pages := by
      rw [requested]
      exact larger
    have within := allowed _
      (MemoryType.maximumBytes_of_pageLimit limit limit_mem (Nat.lt_trans sizes desiredFits))
    omega
  · apply undenied
    right
    refine ⟨?_, ceiling, configured, by omega⟩
    by_contra overflows
    exact isAnswered ⟨allowed, Nat.le_of_not_lt overflows⟩
  · rw [← requested, provided] at noRoom
    cases noRoom

/-- The limiter hears of the failure of what it has approved. -/
theorem Run.host_of_growMemory_unprovided {machine : Machine} {index : Nat} {granted : Host σ}
    {next : Run σ} (goesOn : growMemory host machine index pages = .running next)
    (present : machine.store.memories[index]? = some memory) (positive : 0 < pages)
    (approved : host.askMemory memory.size (memory.requestedSize pages) memory.type.maximumBytes
      = some (true, granted))
    (noRoom : Engine.providesMemory (memory.requestedSize pages) = false) :
    next.host = granted.growthFailed (memory.requestedSize pages) := by
  rw [growMemory_of_pos present positive, approved] at goesOn
  simp only [noRoom, Bool.false_eq_true, if_false, Progress.running.injEq] at goesOn
  rw [← goesOn]

/-- What becomes of a growth that does not overflow: it is refused, and the limiter counts what it
did, or it is carried out, and the limiter counts it. -/
theorem Run.growMemory_cases (machine : Machine) {index : Nat}
    (accounted : WasmHost.Accounted limits host.limiter machine.store)
    (present : machine.store.memories[index]? = some memory)
    (fits : (∀ bound ∈ memory.type.maximumBytes, memory.requestedSize pages ≤ bound) →
      machine.store.memoryBytes + (memory.requestedSize pages - memory.size) < UInt64.size) :
    ∃ after : Host σ,
      RefusesGrowth limits machine.store memory pages ∧
          growMemory host machine index pages
            = .running ⟨after, machine.push (.minusOne memory.type.index)⟩ ∧
          after.limiter.Balanced limits machine.store.memoryBytes ∨
        ¬RefusesGrowth limits machine.store memory pages ∧
          growMemory host machine index pages
            = .running ⟨after, { machine with
                store := machine.store.updateMemory index (·.grow pages) }.push
                  (.ofIndex memory.type.index memory.pages)⟩ ∧
          after.limiter.Balanced limits (machine.store.memoryBytes + pages * pageSize) := by
  have small : memory.size < UInt64.size :=
    Nat.lt_of_lt_of_le (accounted.memorySize memory (Array.mem_of_getElem? present)) (by decide)
  have desiredFits := memory.requestedSize_lt pages
  rcases Nat.eq_zero_or_pos pages with rfl | positive
  · -- Nobody is asked for no pages.
    refine ⟨host, .inr ⟨fun refuses => absurd refuses.1 (Nat.lt_irrefl 0), ?_, ?_⟩⟩
    · simp [growMemory, present, Store.updateMemory_grow_zero]
    · simpa using accounted.balanced
  · rw [growMemory_of_pos present positive]
    split
    · rename_i overflows
      rcases (Host.askMemory_eq_none_iff accounted.balanced small desiredFits
        MemoryType.maximumBytes_lt_size).mp overflows with ⟨allowed, tooMuch⟩
      exact absurd (fits allowed) (Nat.not_lt.mpr tooMuch)
    · rename_i after denied
      have balanced := Host.askMemory_balanced accounted.balanced small desiredFits denied
      exact ⟨after, .inl ⟨refusesGrowth_of_denied accounted.balanced small positive denied, rfl,
        balanced⟩⟩
    · rename_i after approved
      by_cases provided : Engine.providesMemory (memory.requestedSize pages) = true
      · have balanced := Host.askMemory_balanced accounted.balanced small desiredFits approved
        rw [if_pos rfl, Memory.requestedSize_eq provided, Nat.add_sub_cancel_left] at balanced
        refine ⟨after, .inr ⟨?_, if_pos provided, balanced⟩⟩
        exact not_refusesGrowth_of_approved accounted.balanced small provided approved
      · have noRoom := Memory.unprovided_of_requestedSize (Bool.eq_false_of_not_eq_true provided)
        refine ⟨after.growthFailed (memory.requestedSize pages), .inl ⟨?_, if_neg provided, ?_⟩⟩
        · exact ⟨positive, .inr (.inr noRoom)⟩
        · exact Host.growthFailed_balanced accounted.balanced approved

end Decision

section Keeping

variable [Engine] {host after : Host σ} {m : Module} {store : Store} {memory : Memory}

/-- Growth that the memory's maximum allows and the engine can provide stays within addresses. -/
theorem Memory.Addressable.grow {pages : Nat} (addressable : memory.Addressable)
    (allowed : ∀ bound ∈ memory.type.maximumBytes, memory.requestedSize pages ≤ bound)
    (provided : Engine.providesMemory (memory.requestedSize pages) = true) :
    (memory.grow pages).Addressable := by
  refine ⟨addressable.valid, ?_⟩
  change memory.pages + pages ≤ memory.type.index.pages
  have requested : memory.requestedSize pages = (memory.pages + pages) * pageSize := by
    rw [requestedSize_eq provided, size, Nat.add_mul]
  cases width : memory.type.index with
  | i32 =>
      rcases MemoryType.exists_pageLimit_le addressable.valid width with ⟨limit, limit_mem, few⟩
      have fits : limit * pageSize < UInt64.size :=
        Nat.lt_of_le_of_lt (Nat.mul_le_mul_right pageSize few) (by decide)
      have within := allowed _ (MemoryType.maximumBytes_of_pageLimit limit limit_mem fits)
      rw [requested] at within
      exact Nat.le_trans (Nat.le_of_mul_le_mul_right within (by decide)) few
  | i64 =>
      have below := Engine.lt_of_providesMemory _ provided
      have bound : memoryBound ≤ IndexType.i64.pages * pageSize := by decide
      rw [requested] at below
      exact Nat.le_of_mul_le_mul_right (Nat.le_trans (Nat.le_of_lt below) bound) (by decide)

theorem Instantiation.makeMemories_addressable {types : List MemoryType}
    (valid : ∀ type ∈ types, type.isValid = true)
    (made : (makeMemories m types).Yields host store after) : store.Addressable := by
  rcases HostM.bind_yields_iff.mp made with ⟨_, heaped, _, made⟩
  rcases HostM.bind_yields_iff.mp made with ⟨memories, last, madeAll, made⟩
  simp only [HostM.Yields, HostM.outcome_pure, Prod.mk.injEq, Except.ok.injEq] at made
  rcases made with ⟨rfl, rfl⟩
  have each : ∀ type ∈ types, ∀ (before : Host σ) memory later,
      (makeMemory type).Yields before memory later → memory.Addressable := by
    intro type type_mem before memory later made
    have isValid := valid type type_mem
    rw [makeMemory_eq made]
    exact ⟨isValid, MemoryType.minimum_le_of_isValid isValid⟩
  intro memory memory_mem
  exact HostM.forall_of_mapM_yields each madeAll memory (by simpa using memory_mem)

theorem Instantiation.exists_makeMemories_of_makeTables {types : List TableType}
    (made : (makeTables m types).Yields host store after) :
    ∃ blank middle, (makeMemories m m.memories.toList).Yields host blank middle ∧
      blank.memories.map Memory.shape = store.memories.map Memory.shape := by
  rcases HostM.bind_yields_iff.mp made with ⟨blank, middle, madeMemories, made⟩
  rcases HostM.bind_yields_iff.mp made with ⟨tables, last, _, made⟩
  simp only [HostM.Yields, HostM.outcome_pure, Prod.mk.injEq, Except.ok.injEq] at made
  rcases made with ⟨rfl, rfl⟩
  exact ⟨blank, middle, madeMemories, rfl⟩

theorem Instantiation.exists_makeMemories_of_fillTables {segments : List ElemSegment}
    (made : (fillTables m segments).Yields host store after) :
    ∃ blank middle, (makeMemories m m.memories.toList).Yields host blank middle ∧
      blank.memories.map Memory.shape = store.memories.map Memory.shape := by
  rcases HostM.bind_yields_iff.mp made with ⟨empty, _, madeTables, made⟩
  rcases HostM.bind_yields_iff.mp made with ⟨globals, _, _, copied⟩
  rcases exists_makeMemories_of_makeTables madeTables with ⟨blank, middle, madeMemories, same⟩
  exact ⟨blank, middle, madeMemories, same.trans (copyElems_sameShape copied).memories⟩

/-- What is made after the memories keeps their shapes. -/
theorem Makes.exists_makeMemories {first : Host σ} (makes : Makes m first host store) :
    ∃ types blank middle, types <+: m.memories.toList ∧
      (makeMemories m types).Yields first blank middle ∧
      blank.memories.map Memory.shape = store.memories.map Memory.shape := by
  cases makes with
  | memories types part made => exact ⟨types, store, host, part, made, rfl⟩
  | tables types part made =>
      rcases exists_makeMemories_of_makeTables made with ⟨blank, middle, madeMemories, same⟩
      exact ⟨_, blank, middle, List.prefix_refl _, madeMemories, same⟩
  | elems segments part made =>
      rcases exists_makeMemories_of_fillTables made with ⟨blank, middle, madeMemories, same⟩
      exact ⟨_, blank, middle, List.prefix_refl _, madeMemories, same⟩
  | datas segments part made =>
      rcases HostM.bind_yields_iff.mp made with ⟨filled, _, madeTables, copied⟩
      rcases exists_makeMemories_of_fillTables madeTables with ⟨blank, middle, madeMemories, same⟩
      refine ⟨_, blank, middle, List.prefix_refl _, madeMemories, same.trans ?_⟩
      exact (copyDatas_sameShape copied).memories

theorem Makes.addressable {bytes : ByteArray} {first : Host σ}
    (loaded : Module.load? bytes = some m) (makes : Makes m first host store) :
    store.Addressable := by
  rcases makes.exists_makeMemories with ⟨types, blank, middle, part, made, same⟩
  have valid : ∀ type ∈ types, type.isValid = true := by
    intro type type_mem
    exact Module.memories_valid loaded type (part.subset type_mem)
  exact (makeMemories_addressable valid made).of_shapes same

/-- One step of a run leaves no memory beyond its addresses. -/
theorem Run.step_addressable [Sink σ] (run : Run σ)
    (addressable : run.machine.store.Addressable) :
    run.step.state.machine.store.Addressable := by
  have kept := addressable.of_shapes run.machine.step_sameShape.memories
  rcases run.step_memories with ⟨same⟩ | ⟨present, approved, provided, grown⟩
  · exact kept.of_shapes (by rw [same])
  · have allowed := Host.le_of_askMemory_approved (Memory.requestedSize_lt _ _)
      MemoryType.maximumBytes_lt_size approved
    have old := kept _ (Array.mem_of_getElem? present)
    rw [grown]
    exact kept.updateMemory present (old.grow allowed provided)

/-- At every moment of a run, no memory is beyond its addresses. -/
theorem Moment.addressable [Sink σ] {config : Config} {bytes : ByteArray} {first : Host σ}
    (moment : Moment config bytes first host store) : store.Addressable := by
  have invariant : Invariant config bytes first fun _ store => store.Addressable := by
    refine ⟨?_, ?_, Run.step_addressable⟩
    · intro m linked admitted host store loaded _ makes
      exact makes.addressable loaded
    · intro host store event addressable
      exact addressable
  exact invariant.moment moment


end Keeping

namespace Run

/-- All memories are the same, and the limiter counts what it did. -/
structure Ungrown (before after : Run σ) : Prop where
  memories : after.machine.store.memories = before.machine.store.memories
  current : after.host.limiter.current = before.host.limiter.current
  peak : after.host.limiter.peak = before.host.limiter.peak

/-- One memory has pages of zeros after its old contents, the others are the same, and the limiter
counts the new pages. -/
structure Grown (index pages : Nat) (memory : Memory) (before after : Run σ) : Prop where
  longer : ∃ grown, after.machine.store.memories[index]? = some grown ∧ grown.type = memory.type ∧
    grown.pages = memory.pages + pages ∧
    (∀ address < memory.size, grown.byte address = memory.byte address) ∧
    ∀ address, memory.size ≤ address → address < grown.size → grown.byte address = 0
  others : ∀ other, other ≠ index →
    after.machine.store.memories[other]? = before.machine.store.memories[other]?
  current : after.host.limiter.current.toNat
    = before.host.limiter.current.toNat + pages * pageSize
  peak : after.host.limiter.peak.toNat = before.host.limiter.peak.toNat + pages * pageSize

theorem grown_of_updateMemory {before after : Run σ} {limits : ResourceLimits} {index pages : Nat}
    {memory : Memory} (present : before.machine.store.memories[index]? = some memory)
    (zeros : memory.ZeroBeyond)
    (stores : after.machine.store = before.machine.store.updateMemory index (·.grow pages))
    (old : before.host.limiter.Balanced limits before.machine.store.memoryBytes)
    (new : after.host.limiter.Balanced limits
      (before.machine.store.memoryBytes + pages * pageSize)) :
    Grown index pages memory before after := by
  refine ⟨⟨memory.grow pages, ?_, rfl, rfl, fun _ _ => rfl, ?_⟩, ?_, ?_, ?_⟩
  · simp [stores, Store.updateMemory, Array.getElem?_modify, present]
  · intro address beyond _
    exact zeros address beyond
  · intro other apart
    simp [stores, Store.updateMemory, Array.getElem?_modify, apart.symm]
  · rw [new.current_eq, old.current_eq]
  · rw [new.peak_eq, old.peak_eq, new.current_eq, old.current_eq]

theorem step_memoryGrow [Engine] [Sink σ] {run : Run σ} {index pages : Nat} {code : List Instr}
    {operand : Value} {operands : List Value}
    (next : run.machine.frame.code = .memoryGrow index :: code)
    (top : run.machine.frame.operands = operand :: operands)
    (count : operand.toIndex? = some pages) :
    run.step = growMemory run.host
      { run.machine with frame := { run.machine.frame with code, operands } } index pages := by
  have asks : run.machine.step = .growMemory
      { run.machine with frame := { run.machine.frame with code, operands } } index pages := by
    simp only [Machine.step, next, Machine.exec, Machine.execStore, top, count]
    rfl
  rcases run with ⟨host, machine⟩
  simp only [step, asks]

end Run

/-- An instruction that grows a memory, executed at any moment of a run, does all or nothing if its
request does not overflow the limiter. Either it answers minus one, and all memories and what the
limiter counts are as they were, or it answers the old number of pages, and the memory has the pages
that were asked for, all zeros, after its old contents. The answer is minus one exactly if pages are
asked for and the memory may not have them, the ceiling forbids them, or the engine cannot provide
the new size. The limiter hears of what it has approved and the engine cannot provide. -/
theorem memoryGrow_all_or_nothing [Engine] [Sink σ] {config : Config} {bytes : ByteArray}
    {first : Host σ} {run : Run σ} {index pages : Nat} {code : List Instr} {operand : Value}
    {operands : List Value} {memory : Memory}
    (moment : Moment config bytes first run.host run.machine.store)
    (next : run.machine.frame.code = .memoryGrow index :: code)
    (top : run.machine.frame.operands = operand :: operands)
    (count : operand.toIndex? = some pages)
    (present : run.machine.store.memories[index]? = some memory)
    (fits : (∀ bound ∈ memory.type.maximumBytes, memory.requestedSize pages ≤ bound) →
      run.host.limiter.current.toNat + (memory.requestedSize pages - memory.size) < UInt64.size) :
    ∃ after answer, run.step = .running after ∧
      after.machine.frame.code = code ∧ after.machine.frame.operands = answer :: operands ∧
      (answer = .minusOne memory.type.index ∧ run.Ungrown after ∨
        answer = .ofIndex memory.type.index memory.pages ∧ answer.toIndex? = some memory.pages ∧
          run.Grown index pages memory after) ∧
      (answer = .minusOne memory.type.index ↔
        0 < pages ∧
          ((∃ limit ∈ memory.type.pageLimit, limit < memory.pages + pages) ∨
            (∃ ceiling ∈ config.limits.maxMemoryBytes, ceiling.toNat
              < (run.machine.store.memories.toList.map Memory.size).sum + pages * pageSize) ∨
            Engine.providesMemory (memory.size + pages * pageSize) = false)) ∧
      ∀ granted, 0 < pages →
        run.host.askMemory memory.size (memory.requestedSize pages) memory.type.maximumBytes
          = some (true, granted) →
        Engine.providesMemory (memory.requestedSize pages) = false →
          after.host = granted.growthFailed (memory.requestedSize pages) := by
  have accounted := moment.accounted
  have balanced := accounted.balanced
  have pageCount := (moment.addressable memory (Array.mem_of_getElem? present)).toIndex?_pages
  rw [balanced.current_eq] at fits
  rw [Run.step_memoryGrow next top count, ← Store.memoryBytes_eq_sum]
  rcases Run.growMemory_cases
    { run.machine with frame := { run.machine.frame with code, operands } } accounted present
    fits with
    ⟨after, ⟨refuses, stepped, same⟩ | ⟨accepts, stepped, more⟩⟩
  · refine ⟨_, .minusOne memory.type.index, stepped, rfl, rfl, .inl ⟨rfl, rfl, ?_, ?_⟩, ?_, ?_⟩
    · apply UInt64.toNat.inj
      exact same.current_eq.trans balanced.current_eq.symm
    · apply UInt64.toNat.inj
      rw [balanced.peak_eq, balanced.current_eq, same.peak_eq]
      exact same.current_eq
    · exact iff_of_true rfl refuses
    · intro granted positive approved noRoom
      exact Run.host_of_growMemory_unprovided stepped present positive approved noRoom
  · refine ⟨_, .ofIndex memory.type.index memory.pages, stepped, rfl, rfl, .inr ⟨rfl, ?_, ?_⟩, ?_,
      ?_⟩
    · exact pageCount.1
    · have zeros := moment.zeroBeyond memory (Array.mem_of_getElem? present)
      exact Run.grown_of_updateMemory present zeros rfl balanced more
    · exact iff_of_false pageCount.2 accepts
    · intro granted positive approved noRoom
      exact Run.host_of_growMemory_unprovided stepped present positive approved noRoom

/-- A run that is about to grow a memory of an instance. -/
def Instance.growing (inst : Instance) (host : Host σ) (index : Nat) (operand : Value) : Run σ where
  host := host
  machine :=
    { module := inst.module
      store := inst.store
      frame := { code := [.memoryGrow index], operands := [operand] } }

section

open PlainEngine

/-- The second memory of the growing module gets a page, and the first one does not get nine pages,
which are over the ceiling. -/
theorem growingModule_grows_or_not :
    ∃ (inst : Instance) (host : Host Recorder) (memory : Memory),
      inst.store.memories[1]? = some memory ∧
      (∃ after, (inst.growing host 1 (.i64 1)).step = .running after ∧
        after.machine.frame.operands = [.i64 0] ∧
        (inst.growing host 1 (.i64 1)).Grown 1 1 memory after) ∧
      ∃ after, (inst.growing host 0 (.i32 9)).step = .running after ∧
        after.machine.frame.operands = [.minusOne .i32] ∧
        (inst.growing host 0 (.i32 9)).Ungrown after := by
  have instantiates : (instantiate 20 fourPages.limits growingModule).succeedsWith
      { sink := ({} : Recorder) } (fun inst host => host.limiter.current == 131072
        && inst.store.memoryBytes == 131072
        && inst.store.memories[0]?.any (fun memory => memory.type == { minimum := 1 }
          && memory.pages == 2)
        && inst.store.memories[1]?.any (fun memory => memory.type == { index := .i64, minimum := 0 }
          && memory.pages == 0)) = true := by
    decide +kernel
  rcases HostM.exists_of_succeedsWith instantiates with ⟨inst, host, yields, facts⟩
  simp only [Bool.and_eq_true, beq_iff_eq, Option.any_eq_true] at facts
  rcases facts with ⟨⟨⟨current, total⟩, full, atFirst, fullType, twoPages⟩,
    empty, atSecond, emptyType, noPages⟩
  have counted : host.limiter.current.toNat = 131072 := by
    rw [current]
    rfl
  rw [Store.memoryBytes_eq_sum] at total
  have moment : ∀ index operand, Moment fourPages growingModule { sink := ({} : Recorder) }
      (inst.growing host index operand).host (inst.growing host index operand).machine.store :=
    fun _ _ => .instantiated yields
  refine ⟨inst, host, empty, atSecond, ?_, ?_⟩
  · have requested : empty.size = 0 ∧ empty.requestedSize 1 = 65536 := by
      simp only [Memory.requestedSize, Memory.size, noPages]
      decide
    have fits : host.limiter.current.toNat + (empty.requestedSize 1 - empty.size)
        < UInt64.size := by
      rw [counted, requested.1, requested.2]
      decide
    rcases memoryGrow_all_or_nothing (moment 1 (.i64 1)) rfl rfl rfl atSecond (fun _ => fits) with
      ⟨after, answer, stepped, _, answers, ⟨minusOne, _⟩ | ⟨old, _, grown⟩, reasons, _⟩
    · rcases reasons.mp minusOne with
        ⟨_, ⟨limit, limit_mem, _⟩ | ⟨ceiling, ceiling_mem, exceeds⟩ | noRoom⟩
      · simp [emptyType, MemoryType.pageLimit] at limit_mem
      · cases ceiling_mem
        change _ < (inst.store.memories.toList.map Memory.size).sum + _ at exceeds
        rw [total] at exceeds
        exact absurd exceeds (by decide)
      · rw [requested.1] at noRoom
        exact absurd noRoom (by decide)
    · rw [old, emptyType, noPages] at answers
      exact ⟨after, stepped, answers, grown⟩
  · have requested : full.size = 131072 ∧ full.requestedSize 9 = 720896 := by
      simp only [Memory.requestedSize, Memory.size, twoPages]
      decide
    have fits : host.limiter.current.toNat + (full.requestedSize 9 - full.size)
        < UInt64.size := by
      rw [counted, requested.1, requested.2]
      decide
    rcases memoryGrow_all_or_nothing (moment 0 (.i32 9)) rfl rfl rfl atFirst (fun _ => fits) with
      ⟨after, answer, stepped, _, answers, outcome, reasons, _⟩
    have exceeds : (262144 : UInt64).toNat
        < (inst.store.memories.toList.map Memory.size).sum + 9 * pageSize := by
      rw [total]
      decide
    have refused := reasons.mpr ⟨by decide, .inr (.inl ⟨262144, rfl, exceeds⟩)⟩
    rcases outcome with ⟨_, ungrown⟩ | ⟨old, index, _⟩
    · rw [refused, fullType] at answers
      exact ⟨after, stepped, answers, ungrown⟩
    · rw [refused, fullType, twoPages] at index
      exact absurd index (by decide)

end

end WasmHost
