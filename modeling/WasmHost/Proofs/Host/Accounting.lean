import Mathlib
import WasmHost.Proofs.Host.Moments
import WasmHost.Proofs.Limiter.Growth

/-!
# The store and its limiter

The limiter sees one memory at a time and keeps one sum. This file proves that the sum is the size
of the whole store at every moment of a run, and that the store keeps to all limits.

The invariant is `Accounted`. It bounds every single memory by what the engine can provide, because
the limiter is told sizes as 64-bit words: only below that bound is the size that it is told the
size of the memory. Growth is carried out only if the new size stays below the bound, too. A growth
that is asked for beyond a word is cut down to the greatest request, which the engine never
provides, so the growth that is carried out is the one that was asked for.
-/

namespace WasmHost

theorem memoryBound_le_greatestRequest : memoryBound ≤ Engine.greatestRequest := by
  decide

theorem Engine.greatestRequest_lt_size : Engine.greatestRequest < UInt64.size := by
  decide

theorem sum_map_modify {α : Type} {measure : α → Nat} {change : α → α} {amount : Nat}
    {items : List α} {index : Nat} {item : α} (present : items[index]? = some item)
    (grows : measure (change item) = measure item + amount) :
    ((items.modify index change).map measure).sum = (items.map measure).sum + amount := by
  induction items generalizing index with
  | nil => simp at present
  | cons head rest ih =>
      cases index with
      | zero =>
          simp only [List.getElem?_cons_zero, Option.some.injEq] at present
          subst present
          simp only [List.modify_zero_cons, List.map_cons, List.sum_cons]
          omega
      | succ index =>
          simp only [List.getElem?_cons_succ] at present
          have grown := ih present
          simp only [List.modify_succ_cons, List.map_cons, List.sum_cons]
          omega

namespace Store

theorem memoryBytes_grow {store : Store} {index : Nat} {memory : Memory} (pages : Nat)
    (present : store.memories[index]? = some memory) :
    (store.updateMemory index (·.grow pages)).memoryBytes
      = store.memoryBytes + pages * pageSize := by
  rw [memoryBytes_eq_sum, memoryBytes_eq_sum]
  simp only [updateMemory, Array.toList_modify]
  refine sum_map_modify (by simpa using present) ?_
  simp [Memory.grow, Memory.size, Nat.add_mul]

theorem memoryBytes_ofList (memories : List Memory) (tables : Array Table) :
    Store.memoryBytes { memories := memories.toArray, tables }
      = (memories.map Memory.size).sum := by
  simp [memoryBytes_eq_sum]

end Store

namespace Host

variable {σ : Type} {host after : Host σ} {limits : ResourceLimits} {bytes current desired : Nat}
  {maximum : Option Nat} {approved : Bool}

theorem exists_verdict (answer : host.askMemory current desired maximum = some (approved, after)) :
    ∃ verdict, host.limiter.memoryGrowing (.ofNat current) (.ofNat desired) (maximum.map .ofNat)
        = some verdict ∧ verdict.approved = approved ∧ verdict.limiter = after.limiter := by
  simp only [askMemory] at answer
  split at answer
  · simp at answer
  · rename_i verdict verdictEq
    simp only [Option.some.injEq, Prod.mk.injEq] at answer
    rcases answer with ⟨rfl, rfl⟩
    exact ⟨verdict, verdictEq, rfl, rfl⟩

theorem askMemory_balanced (balanced : host.limiter.Balanced limits bytes)
    (currentFits : current < UInt64.size) (desiredFits : desired < UInt64.size)
    (answer : host.askMemory current desired maximum = some (approved, after)) :
    after.limiter.Balanced limits (if approved then bytes + (desired - current) else bytes) := by
  rcases exists_verdict answer with ⟨verdict, verdictEq, rfl, limiterEq⟩
  have balancedAfter := balanced.memoryGrowing verdictEq
  rwa [toNat_ofNat_of_lt currentFits, toNat_ofNat_of_lt desiredFits, limiterEq] at balancedAfter

theorem growthFailed_balanced [Engine] (balanced : host.limiter.Balanced limits bytes)
    (answer : host.askMemory current desired maximum = some (true, after)) :
    (after.growthFailed desired).limiter.Balanced limits bytes := by
  rcases exists_verdict answer with ⟨verdict, verdictEq, approved, limiterEq⟩
  have takenBack := Limiter.memoryGrowFailed_of_approved verdictEq approved
  simp only [growthFailed]
  rw [← limiterEq, takenBack]
  exact balanced.settled

theorem le_of_askTable (asked : host.askTable desired = true) :
    desired ≤ host.limiter.limits.maxTableElements.toNat := by
  simp only [askTable, Limiter.tableGrowing, Bool.and_eq_true, decide_eq_true_eq,
    UInt64.le_iff_toNat_le] at asked
  rcases asked with ⟨fits, le⟩
  rwa [toNat_ofNat_of_lt fits] at le

end Host

/-- The limiter counts the bytes of the store, and the store keeps to all limits. -/
structure Accounted (limits : ResourceLimits) (limiter : Limiter) (store : Store) : Prop where
  balanced : limiter.Balanced limits store.memoryBytes
  memorySize : ∀ memory ∈ store.memories, memory.size < memoryBound
  tableSize : ∀ table ∈ store.tables, table.size ≤ limits.maxTableElements.toNat
  memoryCount : store.memories.size ≤ limits.maxMemories.toNat
  tableCount : store.tables.size ≤ limits.maxTables.toNat

namespace Accounted

variable {limits : ResourceLimits} {limiter other : Limiter} {store changed : Store}

theorem of_sameShape (accounted : Accounted limits limiter store)
    (same : store.SameShape changed) : Accounted limits limiter changed := by
  refine ⟨?_, ?_, ?_, ?_, ?_⟩
  · rw [← same.memoryBytes]
    exact accounted.balanced
  · intro memory memory_mem
    rcases same.exists_memory memory_mem with ⟨twin, twin_mem, sizes⟩
    rw [← sizes]
    exact accounted.memorySize twin twin_mem
  · intro table table_mem
    rcases same.exists_table table_mem with ⟨twin, twin_mem, sizes⟩
    rw [← sizes]
    exact accounted.tableSize twin twin_mem
  · rw [← same.memories_size]
    exact accounted.memoryCount
  · rw [← same.tables_size]
    exact accounted.tableCount

theorem of_balanced (accounted : Accounted limits limiter store)
    (balanced : other.Balanced limits store.memoryBytes) : Accounted limits other store :=
  { accounted with balanced }

end Accounted

namespace Run

variable {σ : Type} {limits : ResourceLimits}

/-- The limiter of a run counts the bytes of the machine's store, which keeps to all limits. -/
def Accounted (limits : ResourceLimits) (run : Run σ) : Prop :=
  WasmHost.Accounted limits run.host.limiter run.machine.store

/-- A growth that is carried out adds to the sum of the limiter what it adds to the store. -/
theorem accounted_grown {host after : Host σ} {store : Store} {index pages : Nat} {memory : Memory}
    (accounted : WasmHost.Accounted limits host.limiter store)
    (present : store.memories[index]? = some memory)
    (provided : memory.size + pages * pageSize < memoryBound)
    (balanced : after.limiter.Balanced limits (store.memoryBytes + pages * pageSize)) :
    WasmHost.Accounted limits after.limiter (store.updateMemory index (·.grow pages)) := by
  refine ⟨?_, ?_, accounted.tableSize, ?_, accounted.tableCount⟩
  · rw [store.memoryBytes_grow pages present]
    exact balanced
  · change ∀ other ∈ store.memories.modify index (·.grow pages), other.size < memoryBound
    refine forall_mem_modify present ?_ accounted.memorySize
    simpa [Memory.grow, Memory.size, Nat.add_mul] using provided
  · simpa [Store.updateMemory] using accounted.memoryCount

theorem emit_accounted [Sink σ] {host : Host σ} {machine : Machine} (value : UInt32)
    (accounted : WasmHost.Accounted limits host.limiter machine.store) :
    (emit host machine value).state.Accounted limits := by
  simp only [emit, Host.emit]
  split <;> rename_i equation <;> simp only [Prod.mk.injEq] at equation <;>
    rcases equation with ⟨_, rfl⟩ <;> exact accounted

variable [Engine]

theorem growMemory_accounted {host : Host σ} {machine : Machine} (index pages : Nat)
    (accounted : WasmHost.Accounted limits host.limiter machine.store) :
    (growMemory host machine index pages).state.Accounted limits := by
  simp only [growMemory]
  split
  · exact accounted
  · rename_i memory present
    split
    · exact accounted
    · have small := accounted.memorySize memory (Array.mem_of_getElem? present)
      have capacity := memoryBound_le_greatestRequest
      have request := Engine.greatestRequest_lt_size
      split
      · exact accounted
      · -- The limiter denies the growth.
        rename_i after answer
        have balanced := Host.askMemory_balanced accounted.balanced (by omega) (by omega) answer
        exact accounted.of_balanced balanced
      · rename_i after answer
        split
        · -- The engine provides the new size, which therefore was not cut down.
          rename_i provides
          have provided := Engine.lt_of_providesMemory _ provides
          have uncut : min (memory.size + pages * pageSize) Engine.greatestRequest
              = memory.size + pages * pageSize := by
            omega
          have balanced := Host.askMemory_balanced accounted.balanced (by omega) (by omega) answer
          rw [uncut] at balanced provided
          simp only [if_true, Nat.add_sub_cancel_left] at balanced
          exact accounted_grown accounted present provided balanced
        · -- The engine does not, and the limiter takes the growth back.
          exact accounted.of_balanced (Host.growthFailed_balanced accounted.balanced answer)

theorem growTable_accounted {host : Host σ} {machine : Machine} (index n : Nat) (ref : Ref)
    (accounted : WasmHost.Accounted limits host.limiter machine.store) :
    (growTable host machine index n ref).state.Accounted limits := by
  simp only [growTable]
  split
  · exact accounted
  · rename_i table present
    split
    · exact accounted
    · split
      · rename_i allowed
        simp only [Bool.and_eq_true] at allowed
        have within := Host.le_of_askTable allowed.1.1
        rw [accounted.balanced.limits_eq] at within
        refine ⟨accounted.balanced, accounted.memorySize, ?_, accounted.memoryCount, ?_⟩
        · change ∀ other ∈ machine.store.tables.modify index (·.grow n ref),
            other.size ≤ limits.maxTableElements.toNat
          exact forall_mem_modify present within accounted.tableSize
        · simpa [Progress.state, Machine.push, Store.updateTable] using accounted.tableCount
      · exact accounted

/-- One step of a run keeps the accounts. -/
theorem step_accounted [Sink σ] (run : Run σ) (accounted : run.Accounted limits) :
    run.step.state.Accounted limits := by
  rcases run with ⟨host, machine⟩
  have shaped := Accounted.of_sameShape accounted machine.step_sameShape
  simp only [step]
  split <;> rename_i stepped <;> rw [stepped] at shaped
  · exact shaped
  · exact shaped
  · exact shaped
  · exact emit_accounted _ shaped
  · exact growMemory_accounted _ _ shaped
  · exact growTable_accounted _ _ _ shaped

/-- Any number of steps keeps the accounts. -/
theorem advance_accounted [Sink σ] {run : Run σ} (accounted : run.Accounted limits) (steps : Nat) :
    (run.advance steps).state.Accounted limits :=
  advance_invariant step_accounted steps accounted

end Run

namespace Instantiation

variable {σ : Type} {limits : ResourceLimits} {host after : Host σ} [Engine]

/-- A memory is made with the size that the limiter has approved. -/
theorem makeMemory_balanced {bytes : Nat} {type : MemoryType} {memory : Memory}
    (balanced : host.limiter.Balanced limits bytes)
    (made : (makeMemory type).Yields host memory after) :
    after.limiter.Balanced limits (bytes + memory.size) ∧
      memory.size < memoryBound ∧ memory.pages = type.minimum := by
  simp only [makeMemory, HostM.Yields, HostM.outcome_bind, HostM.outcome_get] at made
  have capacity := memoryBound_le_greatestRequest
  have request := Engine.greatestRequest_lt_size
  split at made
  · simp at made
  · rename_i approved asked answer
    simp only [HostM.outcome_bind, HostM.outcome_set] at made
    split at made
    · rename_i granted
      simp only [Bool.and_eq_true, decide_eq_true_eq] at granted
      split at made
      · simp at made
      · split at made
        · rename_i provides
          have provided := Engine.lt_of_providesMemory _ provides
          simp only [HostM.outcome_pure, Prod.mk.injEq, Except.ok.injEq] at made
          rcases made with ⟨rfl, rfl⟩
          have balancedAfter := Host.askMemory_balanced balanced (by decide) (by omega) answer
          have uncut : min (type.minimum * pageSize) Engine.greatestRequest
              = type.minimum * pageSize := by
            omega
          simp only [granted.1, if_true, Nat.sub_zero, uncut] at balancedAfter
          exact ⟨balancedAfter, provided, rfl⟩
        · simp at made
    · simp at made

theorem makeMemories_balanced {types : List MemoryType} {bytes : Nat} {memories : List Memory}
    (balanced : host.limiter.Balanced limits bytes)
    (made : (types.mapM makeMemory).Yields host memories after) :
    after.limiter.Balanced limits (bytes + (memories.map Memory.size).sum) ∧
      (∀ memory ∈ memories, memory.size < memoryBound) ∧
      memories.length = types.length := by
  induction types generalizing host bytes memories with
  | nil =>
      simp only [List.mapM_nil, HostM.Yields, HostM.outcome_pure, Prod.mk.injEq,
        Except.ok.injEq] at made
      rcases made with ⟨rfl, rfl⟩
      simpa using balanced
  | cons type rest ih =>
      rw [List.mapM_cons] at made
      rcases HostM.bind_yields_iff.mp made with ⟨memory, middle, madeFirst, made⟩
      rcases HostM.bind_yields_iff.mp made with ⟨others, last, madeRest, made⟩
      simp only [HostM.Yields, HostM.outcome_pure, Prod.mk.injEq, Except.ok.injEq] at made
      rcases made with ⟨rfl, rfl⟩
      rcases makeMemory_balanced balanced madeFirst with ⟨balancedFirst, small, _⟩
      rcases ih balancedFirst madeRest with ⟨balancedRest, smallRest, lengths⟩
      refine ⟨?_, ?_, ?_⟩
      · simpa [Nat.add_assoc] using balancedRest
      · intro other other_mem
        rcases List.mem_cons.mp other_mem with rfl | later
        · exact small
        · exact smallRest other later
      · simp [lengths]

/-- The heap of outside references starts without a byte. -/
theorem makeRefHeap_balanced {m : Module} {bytes : Nat}
    (balanced : host.limiter.Balanced limits bytes)
    (made : (makeRefHeap m).Yields host () after) : after.limiter.Balanced limits bytes := by
  simp only [makeRefHeap] at made
  split at made
  · rcases HostM.bind_yields_iff.mp made with ⟨memory, middle, madeHeap, made⟩
    simp only [HostM.Yields, HostM.outcome_pure, Prod.mk.injEq, true_and] at made
    subst made
    rcases makeMemory_balanced balanced madeHeap with ⟨balancedAfter, _, pages⟩
    simpa [Memory.size, pages] using balancedAfter
  · simp only [HostM.Yields, HostM.outcome_pure, Prod.mk.injEq, true_and] at made
    subst made
    exact balanced

theorem makeTable_yields {type : TableType} {table : Table}
    (made : (makeTable type).Yields host table after) :
    after = host ∧ table.size ≤ host.limiter.limits.maxTableElements.toNat := by
  simp only [makeTable, HostM.Yields, HostM.outcome_bind, HostM.outcome_get] at made
  split at made
  · rename_i asked
    split at made
    · simp only [HostM.outcome_pure, Prod.mk.injEq, Except.ok.injEq] at made
      rcases made with ⟨rfl, rfl⟩
      exact ⟨rfl, Host.le_of_askTable asked⟩
    · simp at made
  · simp at made

theorem mapM_makeTable_yields {types : List TableType} {tables : List Table}
    (made : (types.mapM makeTable).Yields host tables after) :
    after = host ∧ (∀ table ∈ tables, table.size ≤ host.limiter.limits.maxTableElements.toNat) ∧
      tables.length = types.length := by
  induction types generalizing host tables with
  | nil =>
      simp only [List.mapM_nil, HostM.Yields, HostM.outcome_pure, Prod.mk.injEq,
        Except.ok.injEq] at made
      rcases made with ⟨rfl, rfl⟩
      simp
  | cons type rest ih =>
      rw [List.mapM_cons] at made
      rcases HostM.bind_yields_iff.mp made with ⟨table, middle, madeFirst, made⟩
      rcases HostM.bind_yields_iff.mp made with ⟨others, last, madeRest, made⟩
      simp only [HostM.Yields, HostM.outcome_pure, Prod.mk.injEq, Except.ok.injEq] at made
      rcases made with ⟨rfl, rfl⟩
      rcases makeTable_yields madeFirst with ⟨rfl, short⟩
      rcases ih madeRest with ⟨rfl, shortRest, lengths⟩
      refine ⟨rfl, ?_, by simp [lengths]⟩
      intro other other_mem
      rcases List.mem_cons.mp other_mem with rfl | later
      · exact short
      · exact shortRest other later

section Stages

variable {m : Module} {store : Store}

theorem makeMemories_accounted {types : List MemoryType} (part : types <+: m.memories.toList)
    (counts : WithinCounts limits m) (fresh : host.limiter = .ofLimits limits)
    (made : (makeMemories m types).Yields host store after) :
    Accounted limits after.limiter store := by
  simp only [makeMemories] at made
  rcases HostM.bind_yields_iff.mp made with ⟨_, heaped, heap, made⟩
  rcases HostM.bind_yields_iff.mp made with ⟨memories, last, madeAll, made⟩
  simp only [HostM.Yields, HostM.outcome_pure, Prod.mk.injEq, Except.ok.injEq] at made
  rcases made with ⟨rfl, rfl⟩
  have balanced : host.limiter.Balanced limits 0 := by
    rw [fresh]
    exact .ofLimits limits
  rcases makeMemories_balanced (makeRefHeap_balanced balanced heap) madeAll with
    ⟨balancedAll, small, lengths⟩
  refine ⟨?_, ?_, by simp, ?_, by simp⟩
  · rw [Store.memoryBytes_ofList]
    simpa using balancedAll
  · simpa using small
  · have := part.length_le
    have := counts.memories
    simp only [List.size_toArray, Array.length_toList] at *
    omega

theorem makeTables_accounted {types : List TableType} (part : types <+: m.tables.toList)
    (counts : WithinCounts limits m) (fresh : host.limiter = .ofLimits limits)
    (made : (makeTables m types).Yields host store after) :
    Accounted limits after.limiter store := by
  simp only [makeTables] at made
  rcases HostM.bind_yields_iff.mp made with ⟨memories, middle, madeMemories, made⟩
  rcases HostM.bind_yields_iff.mp made with ⟨tables, last, madeTables, made⟩
  simp only [HostM.Yields, HostM.outcome_pure, Prod.mk.injEq, Except.ok.injEq] at made
  rcases made with ⟨rfl, rfl⟩
  have accounted := makeMemories_accounted (List.prefix_refl _) counts fresh madeMemories
  rcases mapM_makeTable_yields madeTables with ⟨rfl, short, lengths⟩
  rw [accounted.balanced.limits_eq] at short
  refine ⟨accounted.balanced, accounted.memorySize, ?_, accounted.memoryCount, ?_⟩
  · simpa using short
  · have := part.length_le
    have := counts.tables
    simp only [List.size_toArray, Array.length_toList] at *
    omega

theorem fillTables_accounted {segments : List ElemSegment} (counts : WithinCounts limits m)
    (fresh : host.limiter = .ofLimits limits)
    (made : (fillTables m segments).Yields host store after) :
    Accounted limits after.limiter store := by
  simp only [fillTables] at made
  rcases HostM.bind_yields_iff.mp made with ⟨empty, middle, madeTables, made⟩
  rcases HostM.bind_yields_iff.mp made with ⟨globals, later, madeGlobals, copied⟩
  have accounted := makeTables_accounted (List.prefix_refl _) counts fresh madeTables
  rw [(HostFree.sequential.makeGlobals _ _).host_eq madeGlobals] at copied
  rw [(HostFree.sequential.copyElems _ _).host_eq copied]
  have shape := copyElems_sameShape copied
  exact accounted.of_sameShape ⟨shape.memories, shape.tables⟩

theorem fillMemories_accounted {segments : List DataSegment} (counts : WithinCounts limits m)
    (fresh : host.limiter = .ofLimits limits)
    (made : (fillMemories m segments).Yields host store after) :
    Accounted limits after.limiter store := by
  simp only [fillMemories] at made
  rcases HostM.bind_yields_iff.mp made with ⟨filled, middle, madeTables, copied⟩
  have accounted := fillTables_accounted counts fresh madeTables
  rw [(HostFree.sequential.copyDatas _ _).host_eq copied]
  exact accounted.of_sameShape (copyDatas_sameShape copied)

end Stages

end Instantiation

end WasmHost
