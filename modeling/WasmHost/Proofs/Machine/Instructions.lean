import Mathlib
import WasmHost.Machine.Step
import WasmHost.Proofs.Machine.Linked
import WasmHost.Proofs.Machine.Rows
import WasmHost.Proofs.Validation.Typing

/-!
# Instructions on operands of their types

An instruction that finds operands of the types that validation has found leaves results of the
types that validation expects, or it traps for a reason of its own. It never meets one of the cases
in which the machine traps as `unreachable` because validation rules them out.

For this the variables of the call have to be of their types, and so do the parts of the store. Both
are kept by each instruction, together with the place of the machine: `Signal.Delivers` says all of
it, and `Machine.exec_delivers` proves it for the instructions that work at their place.
-/

namespace WasmHost

/-- Both machines are at the same place: they run the same code, in the same blocks, for the same
callers. -/
structure Machine.SamePlace (m other : Machine) : Prop where
  module : m.module = other.module
  code : m.frame.code = other.frame.code
  labels : m.frame.labels = other.frame.labels
  arity : m.frame.arity = other.frame.arity
  callers : m.callers = other.callers

/-- Whether an instruction works at its place, and does not enter or leave a block or a call. -/
def Instr.stays : Instr → Bool
  | .unreachable | .block _ _ | .loop _ _ | .ite _ _ _ => false
  | .br _ | .brIf _ | .brTable _ _ | .ret => false
  | .call _ | .callIndirect _ _ | .returnCall _ | .returnCallIndirect _ _ => false
  | _ => true

/-- The result has the property. If there is none, the trap is one that validation does not rule
out. -/
def Regular {α : Type} (holds : α → Prop) : Except Trap α → Prop
  | .ok value => holds value
  | .error trap => trap ≠ .unreachable

section Numbers

variable {m : LinkedModule}

theorem Width.hasType_ofInt (width : Width) (n : Int) :
    (width.ofInt n).HasType m (.num width.intType) := by
  cases width with
  | w32 => exact .i32 _
  | w64 => exact .i64 _

theorem Conversion.integer_regular (saturating : Bool) (target source : Width) (sign : Signedness)
    (bits : Nat) : Regular (fun value => value.HasType m (.num target.intType))
      (integer saturating target source sign bits) := by
  have beyond : ∀ n : Int, Regular (fun value => value.HasType m (.num target.intType))
      (if saturating then .ok (target.ofInt n) else .error .integerOverflow) := by
    intro n
    split
    · exact target.hasType_ofInt n
    · simp [Regular]
  simp only [integer]
  split
  · split
    · exact target.hasType_ofInt 0
    · simp [Regular]
  · exact beyond _
  · split
    · exact beyond _
    · split
      · exact beyond _
      · exact target.hasType_ofInt _

theorem Conversion.hasType_float (target : Width) (sign : Signedness) (signedWord : Int64)
    (word : UInt64) : (float target sign signedWord word).HasType m (.num target.floatType) := by
  cases target <;> cases sign
  · exact .f32 _
  · exact .f32 _
  · exact .f64 _
  · exact .f64 _

theorem Conversion.eval_regular {conversion : Conversion} {operand : Value}
    (typed : operand.HasType m (.num conversion.source)) :
    Regular (fun value => value.HasType m (.num conversion.target)) (conversion.eval operand) := by
  cases conversion with
  | wrap =>
      cases typed with
      | i64 bits => exact .i32 _
  | extend sign =>
      cases typed with
      | i32 bits =>
          cases sign with
          | signed => exact .i64 _
          | unsigned => exact .i64 _
  | truncate saturating target source sign =>
      cases source with
      | w32 =>
          cases typed with
          | f32 bits => exact integer_regular saturating target .w32 sign bits.toNat
      | w64 =>
          cases typed with
          | f64 bits => exact integer_regular saturating target .w64 sign bits.toNat
  | convert target source sign =>
      cases source with
      | w32 =>
          cases typed with
          | i32 bits => exact hasType_float target sign _ _
      | w64 =>
          cases typed with
          | i64 bits => exact hasType_float target sign _ _
  | demote =>
      cases typed with
      | f64 bits => exact .f32 _
  | promote =>
      cases typed with
      | f32 bits => exact .f64 _
  | reinterpretFloat width =>
      cases width with
      | w32 =>
          cases typed with
          | f32 bits => exact .i32 _
      | w64 =>
          cases typed with
          | f64 bits => exact .i64 _
  | reinterpretInt width =>
      cases width with
      | w32 =>
          cases typed with
          | i32 bits => exact .f32 _
      | w64 =>
          cases typed with
          | i64 bits => exact .f64 _

theorem IntBinOp.eval32_ne_unreachable (op : IntBinOp) (a b : UInt32) :
    op.eval32 a b ≠ .error .unreachable := by
  cases op <;> simp only [eval32] <;> (repeat' split) <;> simp

theorem IntBinOp.eval64_ne_unreachable (op : IntBinOp) (a b : UInt64) :
    op.eval64 a b ≠ .error .unreachable := by
  cases op <;> simp only [eval64] <;> (repeat' split) <;> simp

/-- An operator on operands of its types leaves one result of its type in their place. -/
theorem NumOp.eval_regular {op : NumOp} {front : List Value}
    (stacked : Stacked m front (op.operands.map .num)) (rest : List Value) :
    Regular (fun after => ∃ value, value.HasType m (.num op.result) ∧ after = value :: rest)
      (op.eval (front ++ rest)) := by
  cases op with
  | intTest width =>
      rcases stacked_singleton_iff.mp stacked with ⟨operand, rfl, typed⟩
      cases width <;> cases typed <;> exact ⟨_, .i32 _, rfl⟩
  | intRel width op =>
      rcases stacked_pair_iff.mp stacked with ⟨first, second, rfl, typedFirst, typedSecond⟩
      cases width <;> cases typedFirst <;> cases typedSecond <;> exact ⟨_, .i32 _, rfl⟩
  | intUn width op =>
      rcases stacked_singleton_iff.mp stacked with ⟨operand, rfl, typed⟩
      cases width <;> cases typed
      · exact ⟨_, .i32 _, rfl⟩
      · exact ⟨_, .i64 _, rfl⟩
  | intBin width op =>
      rcases stacked_pair_iff.mp stacked with ⟨first, second, rfl, typedFirst, typedSecond⟩
      cases width <;> cases typedFirst <;> cases typedSecond <;>
        simp only [eval, List.cons_append, List.nil_append]
      · rename_i a b
        cases evaluated : op.eval32 a b with
        | ok c => exact ⟨_, .i32 c, rfl⟩
        | error trap =>
            intro unreachable
            exact op.eval32_ne_unreachable a b (unreachable ▸ evaluated)
      · rename_i a b
        cases evaluated : op.eval64 a b with
        | ok c => exact ⟨_, .i64 c, rfl⟩
        | error trap =>
            intro unreachable
            exact op.eval64_ne_unreachable a b (unreachable ▸ evaluated)
  | floatRel width op =>
      rcases stacked_pair_iff.mp stacked with ⟨first, second, rfl, typedFirst, typedSecond⟩
      cases width <;> cases typedFirst <;> cases typedSecond <;> exact ⟨_, .i32 _, rfl⟩
  | floatUn width op =>
      rcases stacked_singleton_iff.mp stacked with ⟨operand, rfl, typed⟩
      cases width <;> cases typed
      · exact ⟨_, .f32 _, rfl⟩
      · exact ⟨_, .f64 _, rfl⟩
  | floatBin width op =>
      rcases stacked_pair_iff.mp stacked with ⟨first, second, rfl, typedFirst, typedSecond⟩
      cases width <;> cases typedFirst <;> cases typedSecond
      · exact ⟨_, .f32 _, rfl⟩
      · exact ⟨_, .f64 _, rfl⟩
  | convert conversion =>
      rcases stacked_singleton_iff.mp stacked with ⟨operand, rfl, typed⟩
      have regular := Conversion.eval_regular typed
      simp only [eval, List.cons_append, List.nil_append]
      cases evaluated : conversion.eval operand with
      | ok value =>
          rw [evaluated] at regular
          exact ⟨value, regular, rfl⟩
      | error trap =>
          rw [evaluated] at regular
          exact regular

theorem LoadOp.hasType_value (op : LoadOp) (word : UInt64) :
    (op.value word).HasType m (.num op.type) := by
  simp only [value]
  cases op.type with
  | i32 =>
      simp only
      split <;> exact .i32 _
  | i64 =>
      simp only
      split <;> exact .i64 _
  | f32 => exact .f32 _
  | f64 => exact .f64 _

end Numbers

/-- The variables are of these types: those that have a value, and the others by their defaults. -/
structure Locals.Fits (m : LinkedModule) (types : Array ValType) (locals : Locals) : Prop where
  values : ∀ (index : Nat) (value : Value), locals.values[index]? = some value →
    ∃ type, types[index]? = some type ∧ value.HasType m type
  defaults : ∀ index : Nat, locals.values.size ≤ index →
    locals.default? index = (types[index]?).map Value.default

namespace Locals.Fits

variable {m : LinkedModule} {types : Array ValType} {locals : Locals} {index : Nat} {type : ValType}
  {value : Value}

theorem ofArgs {params : List ValType} {args : List Value} (own : Array ValType)
    (typed : List.Forall₂ (Value.HasType m) args params) :
    (Locals.ofArgs own args).Fits m (params.toArray ++ own) := by
  have sameLength := typed.length_eq
  refine ⟨?_, ?_⟩
  · intro index value found
    have found : args[index]? = some value := by simpa [Locals.ofArgs] using found
    rcases List.getElem?_eq_some_iff.mp found with ⟨inArgs, rfl⟩
    have inParams : index < params.length := sameLength ▸ inArgs
    refine ⟨params.get ⟨index, inParams⟩, ?_,
      (List.forall₂_iff_get.mp typed).2 index inArgs inParams⟩
    rw [Array.getElem?_append_left (by simpa using inParams)]
    simp [inParams]
  · intro index beyond
    have beyond : args.length ≤ index := by simpa [Locals.ofArgs] using beyond
    rw [Array.getElem?_append_right (by simpa [← sameLength] using beyond)]
    simp [Locals.ofArgs, Locals.default?, sameLength]

/-- A variable that is declared has a value of its type. -/
theorem get? (fits : locals.Fits m types) (declared : types[index]? = some type) :
    ∃ value, locals.get? index = some value ∧ value.HasType m type := by
  simp only [Locals.get?]
  split
  · rename_i value found
    rcases fits.values index value found with ⟨other, same, typed⟩
    rw [declared, Option.some.injEq] at same
    exact ⟨value, rfl, same ▸ typed⟩
  · rename_i absent
    refine ⟨Value.default type, ?_, .ofDefault type⟩
    rw [fits.defaults index (Array.getElem?_eq_none_iff.mp absent), declared]
    rfl

theorem extend (fits : locals.Fits m types) (n : Nat) : (locals.extend n).Fits m types := by
  induction n generalizing locals with
  | zero => exact fits
  | succ n ih =>
      simp only [Locals.extend]
      split
      · rename_i value found
        apply ih
        rw [fits.defaults _ le_rfl] at found
        rcases Option.map_eq_some_iff.mp found with ⟨type, declared, rfl⟩
        refine ⟨?_, ?_⟩
        · intro index other present
          rw [Array.getElem?_push] at present
          split at present
          · rename_i last
            cases present
            exact ⟨type, last ▸ declared, .ofDefault type⟩
          · exact fits.values index other present
        · intro index beyond
          rw [Array.size_push] at beyond
          exact fits.defaults index (by omega)
      · exact fits

theorem set (fits : locals.Fits m types) (declared : types[index]? = some type)
    (typed : value.HasType m type) : (locals.set index value).Fits m types := by
  have extended := fits.extend (index + 1 - locals.values.size)
  refine ⟨?_, ?_⟩
  · intro place other present
    simp only [Locals.set] at present
    rw [Array.getElem?_setIfInBounds] at present
    split at present
    · rename_i same
      split at present
      · cases present
        exact ⟨type, same ▸ declared, typed⟩
      · simp at present
    · exact extended.values place other present
  · intro place beyond
    simp only [Locals.set, Array.size_setIfInBounds] at beyond
    exact extended.defaults place beyond

end Locals.Fits

/-- Each item that is declared has something in its place that fits it. -/
def Fulfilled {α β : Type} (fits : α → β → Prop) (declared : Array α) (present : Array β) : Prop :=
  ∀ (index : Nat) (item : α), declared[index]? = some item →
    ∃ other, present[index]? = some other ∧ fits item other

namespace Fulfilled

variable {α β : Type} {fits : α → β → Prop} {declared : Array α} {present : Array β} {index : Nat}

theorem modify (fulfilled : Fulfilled fits declared present) {change : β → β}
    (kept : ∀ item other, declared[index]? = some item → fits item other →
      fits item (change other)) :
    Fulfilled fits declared (present.modify index change) := by
  intro place item found
  rcases fulfilled place item found with ⟨other, there, fit⟩
  rw [Array.getElem?_modify]
  split
  · rename_i same
    subst same
    exact ⟨change other, by simp [there], kept item other found fit⟩
  · exact ⟨other, there, fit⟩

theorem setIfInBounds (fulfilled : Fulfilled fits declared present) {value : β}
    (new : ∀ item, declared[index]? = some item → fits item value) :
    Fulfilled fits declared (present.setIfInBounds index value) := by
  intro place item found
  rcases fulfilled place item found with ⟨other, there, fit⟩
  rw [Array.getElem?_setIfInBounds]
  split
  · rename_i same
    subst same
    rcases Array.getElem?_eq_some_iff.mp there with ⟨inside, _⟩
    exact ⟨value, by simp [inside], new item found⟩
  · exact ⟨other, there, fit⟩

end Fulfilled

/-- A table of the type, with elements of its element type. -/
structure Table.Fits (m : LinkedModule) (type : TableType) (table : Table) : Prop where
  type_eq : table.type = type
  elements : table.elements.All fun ref => (Value.ref ref).HasType m type.element

/-- Each part of the store is what the module declares. -/
structure Store.Typed (m : LinkedModule) (store : Store) : Prop where
  memories : Fulfilled (fun type memory => memory.type = type) m.memories store.memories
  tables : Fulfilled (Table.Fits m) m.tables store.tables
  globals : Fulfilled (fun (global : Global) value => value.HasType m global.type.type) m.globals
    store.globals
  elems : Fulfilled (fun (segment : ElemSegment) items => ∀ ref ∈ items,
    (Value.ref ref).HasType m segment.type) m.elems store.elems
  datas : Fulfilled (fun _ _ => True) m.datas store.datas

namespace Store.Typed

variable {m : LinkedModule} {store : Store} {index : Nat}

theorem updateMemory (typed : store.Typed m) {change : Memory → Memory}
    (kept : ∀ memory, (change memory).type = memory.type) :
    (store.updateMemory index change).Typed m := by
  refine ⟨typed.memories.modify ?_, typed.tables, typed.globals, typed.elems, typed.datas⟩
  intro type memory _ same
  rw [kept, same]

theorem updateTable (typed : store.Typed m) {change : Table → Table}
    (kept : ∀ type table, m.tables[index]? = some type → Table.Fits m type table →
      Table.Fits m type (change table)) :
    (store.updateTable index change).Typed m :=
  ⟨typed.memories, typed.tables.modify kept, typed.globals, typed.elems, typed.datas⟩

theorem setGlobal (typed : store.Typed m) {value : Value}
    (new : ∀ global, m.globals[index]? = some global → value.HasType m global.type.type) :
    (store.setGlobal index value).Typed m :=
  ⟨typed.memories, typed.tables, typed.globals.setIfInBounds new, typed.elems, typed.datas⟩

theorem dropElem (typed : store.Typed m) : (store.dropElem index).Typed m :=
  ⟨typed.memories, typed.tables, typed.globals, typed.elems.setIfInBounds (by simp), typed.datas⟩

theorem dropData (typed : store.Typed m) : (store.dropData index).Typed m :=
  ⟨typed.memories, typed.tables, typed.globals, typed.elems, typed.datas.setIfInBounds (by simp)⟩

end Store.Typed

/-- What makes the code of a module run as validation expects: functions are well typed, tables hold
references, and data segments are announced as they are. -/
structure Module.Sound (m : Module) : Prop where
  funcs : ∀ func ∈ m.funcs, m.context.checkFunc func = true
  elements : ∀ type ∈ m.tables, type.element.isRef = true
  dataCount : ∀ count, m.dataCount = some count → count = m.datas.size

/-- The context is one of code in the module. -/
structure Context.Within (m : LinkedModule) (context : Context) : Prop where
  funcs : context.funcs = m.funcTypes
  tables : context.tables = m.tables
  memories : context.memories = m.memories
  globals : context.globals = m.globals.map (·.type)
  elems : context.elems = m.elems.map (·.type)
  dataCount : context.dataCount = m.dataCount

theorem LinkedModule.within (m : LinkedModule) : m.context.Within m :=
  ⟨rfl, m.tableTypes_eq, m.memoryTypes_eq, m.globalTypes_eq,
    by simp [Module.context, ← List.map_toArray], rfl⟩

/-- The machine runs code that was checked in the context. -/
structure Machine.Runs (context : Context) (m : Machine) : Prop where
  sound : m.module.Sound
  within : context.Within m.module
  store : m.store.Typed m.module
  locals : m.frame.locals.Fits m.module context.locals

section Entities

variable {m : Machine} {context : Context} {index : Nat}

namespace Machine.Runs

theorem memory (runs : m.Runs context) {type : MemoryType}
    (declared : context.memories[index]? = some type) :
    ∃ memory, m.store.memories[index]? = some memory ∧ memory.type = type :=
  runs.store.memories index type (runs.within.memories ▸ declared)

theorem table (runs : m.Runs context) {type : TableType}
    (declared : context.tables[index]? = some type) :
    ∃ table, m.store.tables[index]? = some table ∧ Table.Fits m.module type table :=
  runs.store.tables index type (runs.within.tables ▸ declared)

theorem isRef (runs : m.Runs context) {type : TableType}
    (declared : context.tables[index]? = some type) : type.element.isRef = true := by
  rw [runs.within.tables] at declared
  exact runs.sound.elements type (Array.mem_of_getElem? declared)

theorem updateTable (runs : m.Runs context) {type : TableType}
    (declared : context.tables[index]? = some type) {change : Table → Table}
    (kept : ∀ table, Table.Fits m.module type table → Table.Fits m.module type (change table)) :
    (m.store.updateTable index change).Typed m.module := by
  refine runs.store.updateTable ?_
  intro other table found fits
  rw [← runs.within.tables, declared, Option.some.injEq] at found
  subst found
  exact kept table fits

theorem global (runs : m.Runs context) {type : GlobalType}
    (declared : context.globals[index]? = some type) :
    ∃ value, m.store.globals[index]? = some value ∧ value.HasType m.module type.type := by
  rw [runs.within.globals, Array.getElem?_map, Option.map_eq_some_iff] at declared
  rcases declared with ⟨global, declared, rfl⟩
  exact runs.store.globals index global declared

theorem elem (runs : m.Runs context) {type : ValType}
    (declared : context.elems[index]? = some type) :
    ∃ items, m.store.elems[index]? = some items ∧
      ∀ ref ∈ items, (Value.ref ref).HasType m.module type := by
  rw [runs.within.elems, Array.getElem?_map, Option.map_eq_some_iff] at declared
  rcases declared with ⟨segment, declared, rfl⟩
  exact runs.store.elems index segment declared

theorem data (runs : m.Runs context) (announced : context.hasData index = true) :
    ∃ bytes, m.store.datas[index]? = some bytes := by
  rw [Context.hasData, runs.within.dataCount, Option.any_eq_true] at announced
  rcases announced with ⟨count, counted, below⟩
  have inRange : index < m.module.datas.size := by
    rw [← runs.sound.dataCount count counted]
    simpa using below
  rcases runs.store.datas index _ (Array.getElem?_eq_getElem inRange) with ⟨bytes, present, _⟩
  exact ⟨bytes, present⟩

end Machine.Runs

theorem Context.memory_of_accessed {bytes : Nat} {arg : MemArg} {type : MemoryType}
    (accessed : context.accessed? bytes arg = some type) :
    context.memories[arg.memory]? = some type := by
  simp only [accessed?, Option.bind_eq_bind, Option.bind_eq_some_iff, Option.pure_def,
    Option.some.injEq] at accessed
  rcases accessed with ⟨_, declared, _, _, _, _, rfl⟩
  exact declared

end Entities

/-- The machine goes on at the place of `m` with results of these types above the rest of its
operands. If it traps, that is not because of something that validation rules out. Where it asks for
growth, there is something to grow, and the answer is still to be put on the stack. -/
def Signal.Delivers (context : Context) (m : Machine) (results : List ValType) (rest : List Value) :
    Signal → Prop
  | next after => after.SamePlace m ∧ after.Runs context ∧
      ∃ front, Stacked m.module front results ∧ after.frame.operands = front ++ rest
  | done _ _ => False
  | trap _ reason => reason ≠ .unreachable
  | emit _ _ => False
  | growMemory after index _ => after.SamePlace m ∧ after.Runs context ∧
      after.frame.operands = rest ∧ ∃ memory, after.store.memories[index]? = some memory ∧
        results = [memory.type.index.valType]
  | growTable after index _ ref => after.SamePlace m ∧ after.Runs context ∧
      after.frame.operands = rest ∧ ∃ table, after.store.tables[index]? = some table ∧
        results = [table.type.index.valType] ∧ (Value.ref ref).HasType m.module table.type.element

namespace Machine

variable {m : Machine} {context : Context} {type : FuncType} {front rest : List Value}

section Deliveries

variable {results : List ValType}

theorem delivers_trap {trap : Trap} (genuine : trap ≠ .unreachable) (after : Machine) :
    (Signal.trap after trap).Delivers context m results rest :=
  genuine

theorem delivers_withOperands (runs : m.Runs context) (stacked : Stacked m.module front results) :
    (Signal.next (m.withOperands (front ++ rest))).Delivers context m results rest :=
  ⟨⟨rfl, rfl, rfl, rfl, rfl⟩, ⟨runs.sound, runs.within, runs.store, runs.locals⟩, front, stacked,
    rfl⟩

theorem delivers_push (runs : m.Runs context) {value : Value} {type : ValType}
    (operands : m.frame.operands = rest) (typed : value.HasType m.module type) :
    (Signal.next (m.push value)).Delivers context m [type] rest :=
  ⟨⟨rfl, rfl, rfl, rfl, rfl⟩, ⟨runs.sound, runs.within, runs.store, runs.locals⟩, [value],
    stacked_singleton_iff.mpr ⟨value, rfl, typed⟩, congrArg (value :: ·) operands⟩

theorem delivers_updateStore (runs : m.Runs context) {change : Store → Store}
    (typed : (change m.store).Typed m.module) :
    (Signal.next (m.updateStore rest change)).Delivers context m [] rest :=
  ⟨⟨rfl, rfl, rfl, rfl, rfl⟩, ⟨runs.sound, runs.within, typed, runs.locals⟩, [],
    stacked_nil_iff.mpr rfl, rfl⟩

/-- Three operands of which the first and the last are indices can be taken as such. -/
theorem exists_indices3? (first third : IndexType) {middle : ValType}
    (operands : m.frame.operands = front ++ rest)
    (stacked : Stacked m.module front [first.valType, middle, third.valType]) :
    ∃ start value n, m.indices3? = some (start, value, n, rest) ∧
      value.HasType m.module middle := by
  rcases stacked_triple_iff.mp stacked with
    ⟨lower, value, upper, rfl, typedFirst, typed, typedThird⟩
  rcases typedFirst.exists_index with ⟨start, isStart⟩
  rcases typedThird.exists_index with ⟨n, isLength⟩
  refine ⟨start, value, n, ?_, typed⟩
  simp only [indices3?, operands, List.cons_append, List.nil_append, isStart, isLength]

end Deliveries

section Plain

variable (runs : m.Runs context) (operands : m.frame.operands = front ++ rest)
  (stacked : Stacked m.module front type.params)

include runs operands stacked

theorem load_delivers {op : LoadOp} {arg : MemArg}
    (typed : context.plainType? (.load op arg) = some type) :
    (m.load op arg).Delivers context m type.results rest := by
  simp only [Context.plainType?, Option.bind_eq_bind, Option.bind_eq_some_iff, Option.pure_def,
    Option.some.injEq] at typed
  rcases typed with ⟨memoryType, accessed, rfl⟩
  rcases runs.memory (Context.memory_of_accessed accessed) with ⟨memory, present, _⟩
  rcases stacked_singleton_iff.mp stacked with ⟨base, rfl, typedBase⟩
  rcases typedBase.exists_index with ⟨address, isAddress⟩
  simp only [load, operands, present, List.cons_append, List.nil_append, isAddress]
  split
  · exact delivers_withOperands runs
      (stacked_singleton_iff.mpr ⟨_, rfl, op.hasType_value _⟩)
  · exact delivers_trap (by simp) m

theorem storeScalar_delivers {op : StoreOp} {arg : MemArg}
    (typed : context.plainType? (.store op arg) = some type) :
    (m.storeScalar op arg).Delivers context m type.results rest := by
  simp only [Context.plainType?, Option.bind_eq_bind, Option.bind_eq_some_iff, Option.pure_def,
    Option.some.injEq] at typed
  rcases typed with ⟨memoryType, accessed, rfl⟩
  rcases stacked_pair_iff.mp stacked with ⟨base, value, rfl, typedBase, typedValue⟩
  rcases typedBase.exists_index with ⟨address, isAddress⟩
  rcases typedValue.exists_word with ⟨word, isWord⟩
  simp only [storeScalar, operands, List.cons_append, List.nil_append, isAddress, isWord]
  split
  · exact delivers_updateStore runs (runs.store.updateMemory fun _ => rfl)
  · exact delivers_trap (by simp) m

theorem memoryFill_delivers {index : Nat}
    (typed : context.plainType? (.memoryFill index) = some type) :
    (m.memoryFill index).Delivers context m type.results rest := by
  simp only [Context.plainType?, Option.bind_eq_bind, Option.bind_eq_some_iff, Option.pure_def,
    Option.some.injEq] at typed
  rcases typed with ⟨memoryType, declared, rfl⟩
  rcases exists_indices3? memoryType.index memoryType.index operands stacked with
    ⟨start, _, n, taken, typedValue⟩
  rcases typedValue.exists_i32 with ⟨value, rfl⟩
  simp only [memoryFill, taken]
  split
  · exact delivers_updateStore runs (runs.store.updateMemory fun _ => rfl)
  · exact delivers_trap (by simp) m

theorem memoryCopy_delivers {target source : Nat}
    (typed : context.plainType? (.memoryCopy target source) = some type) :
    (m.memoryCopy target source).Delivers context m type.results rest := by
  simp only [Context.plainType?, Option.bind_eq_bind, Option.bind_eq_some_iff, Option.pure_def,
    Option.some.injEq] at typed
  rcases typed with ⟨targetType, _, sourceType, declared, rfl⟩
  rcases runs.memory declared with ⟨memory, present, _⟩
  rcases exists_indices3? targetType.index (targetType.index.narrower sourceType.index) operands
    stacked with ⟨start, value, n, taken, typedPlace⟩
  rcases typedPlace.exists_index with ⟨place, isPlace⟩
  simp only [memoryCopy, taken, present, isPlace]
  split
  · exact delivers_updateStore runs (runs.store.updateMemory fun _ => rfl)
  · exact delivers_trap (by simp) m

theorem memoryInit_delivers {index data : Nat}
    (typed : context.plainType? (.memoryInit index data) = some type) :
    (m.memoryInit index data).Delivers context m type.results rest := by
  simp only [Context.plainType?, Option.bind_eq_bind, Option.bind_eq_some_iff, Option.pure_def,
    Option.some.injEq, Option.guard_eq_some'] at typed
  rcases typed with ⟨memoryType, _, _, announced, rfl⟩
  rcases runs.data announced with ⟨bytes, present⟩
  rcases exists_indices3? memoryType.index .i32 operands stacked with
    ⟨start, _, n, taken, typedPlace⟩
  rcases typedPlace.exists_i32 with ⟨place, rfl⟩
  simp only [memoryInit, taken, present, Value.toIndex?]
  split
  · exact delivers_updateStore runs (runs.store.updateMemory fun _ => rfl)
  · exact delivers_trap (by simp) m

theorem tableGet_delivers {index : Nat} (typed : context.plainType? (.tableGet index) = some type) :
    (m.tableGet index).Delivers context m type.results rest := by
  simp only [Context.plainType?, Option.bind_eq_bind, Option.bind_eq_some_iff, Option.pure_def,
    Option.some.injEq] at typed
  rcases typed with ⟨tableType, declared, rfl⟩
  rcases runs.table declared with ⟨table, present, fits⟩
  rcases stacked_singleton_iff.mp stacked with ⟨operand, rfl, typedOperand⟩
  rcases typedOperand.exists_index with ⟨i, isIndex⟩
  simp only [tableGet, operands, present, List.cons_append, List.nil_append, isIndex,
    Option.bind_some, Table.get?]
  split
  · rename_i ref found
    rcases Option.ite_none_right_eq_some.mp found with ⟨_, same⟩
    cases same
    exact delivers_withOperands runs (stacked_singleton_iff.mpr ⟨_, rfl, fits.elements.get i⟩)
  · exact delivers_trap (by simp) m

theorem tableSet_delivers {index : Nat} (typed : context.plainType? (.tableSet index) = some type) :
    (m.tableSet index).Delivers context m type.results rest := by
  simp only [Context.plainType?, Option.bind_eq_bind, Option.bind_eq_some_iff, Option.pure_def,
    Option.some.injEq] at typed
  rcases typed with ⟨tableType, declared, rfl⟩
  rcases stacked_pair_iff.mp stacked with ⟨lower, upper, rfl, first, second⟩
  rcases first.exists_index with ⟨i, isIndex⟩
  rcases second.exists_ref (runs.isRef declared) with ⟨ref, rfl⟩
  simp only [tableSet, operands, List.cons_append, List.nil_append, isIndex]
  split
  · refine delivers_updateStore runs (runs.updateTable declared ?_)
    intro table fits
    exact ⟨fits.type_eq, fits.elements.fill second i 1⟩
  · exact delivers_trap (by simp) m

theorem tableFill_delivers {index : Nat}
    (typed : context.plainType? (.tableFill index) = some type) :
    (m.tableFill index).Delivers context m type.results rest := by
  simp only [Context.plainType?, Option.bind_eq_bind, Option.bind_eq_some_iff, Option.pure_def,
    Option.some.injEq] at typed
  rcases typed with ⟨tableType, declared, rfl⟩
  rcases exists_indices3? tableType.index tableType.index operands stacked with
    ⟨start, _, n, taken, typedRef⟩
  rcases typedRef.exists_ref (runs.isRef declared) with ⟨ref, rfl⟩
  simp only [tableFill, taken]
  split
  · refine delivers_updateStore runs (runs.updateTable declared ?_)
    intro table fits
    exact ⟨fits.type_eq, fits.elements.fill typedRef _ _⟩
  · exact delivers_trap (by simp) m

theorem tableCopy_delivers {target source : Nat}
    (typed : context.plainType? (.tableCopy target source) = some type) :
    (m.tableCopy target source).Delivers context m type.results rest := by
  simp only [Context.plainType?, Option.bind_eq_bind, Option.bind_eq_some_iff, Option.pure_def,
    Option.some.injEq, Option.guard_eq_some'] at typed
  rcases typed with ⟨targetType, declaredTarget, sourceType, declaredSource, _, sameElement, rfl⟩
  rcases runs.table declaredSource with ⟨table, present, fitsSource⟩
  rcases exists_indices3? targetType.index (targetType.index.narrower sourceType.index) operands
    stacked with ⟨start, value, n, taken, typedPlace⟩
  rcases typedPlace.exists_index with ⟨place, isPlace⟩
  simp only [tableCopy, taken, present, isPlace]
  split
  · refine delivers_updateStore runs (runs.updateTable declaredTarget ?_)
    intro copied fits
    refine ⟨fits.type_eq, fits.elements.copy ?_ _ _ _⟩
    rw [sameElement]
    exact fitsSource.elements
  · exact delivers_trap (by simp) m

theorem tableInit_delivers {index elem : Nat}
    (typed : context.plainType? (.tableInit index elem) = some type) :
    (m.tableInit index elem).Delivers context m type.results rest := by
  simp only [Context.plainType?, Option.bind_eq_bind, Option.bind_eq_some_iff, Option.pure_def,
    Option.some.injEq, Option.guard_eq_some'] at typed
  rcases typed with ⟨tableType, declared, element, declaredElem, _, sameElement, rfl⟩
  rcases runs.elem declaredElem with ⟨items, present, typedItems⟩
  rcases exists_indices3? tableType.index .i32 operands stacked with
    ⟨start, _, n, taken, typedPlace⟩
  rcases typedPlace.exists_i32 with ⟨place, rfl⟩
  simp only [tableInit, taken, present, Value.toIndex?]
  split
  · refine delivers_updateStore runs (runs.updateTable declared ?_)
    intro table fits
    refine ⟨fits.type_eq, fits.elements.write _ _ ?_⟩
    intro i
    rw [sameElement]
    cases item : items[place.toNat + i]? with
    | none => exact .ofNull (sameElement ▸ runs.isRef declared)
    | some ref => exact typedItems ref (Array.mem_of_getElem? item)
  · exact delivers_trap (by simp) m

/-- An instruction that works at its place delivers the results of its type. -/
theorem exec_delivers [Engine] {instr : Instr} (typed : context.plainType? instr = some type)
    (stays : instr.stays = true) : (m.exec instr).Delivers context m type.results rest := by
  cases instr with
  | nop =>
      cases typed
      cases stacked_nil_iff.mp stacked
      exact ⟨⟨rfl, rfl, rfl, rfl, rfl⟩, runs, [], stacked, operands⟩
  | localGet index =>
      simp only [Context.plainType?, Option.bind_eq_bind, Option.bind_eq_some_iff, Option.pure_def,
        Option.some.injEq] at typed
      rcases typed with ⟨valType, declared, rfl⟩
      rcases runs.locals.get? declared with ⟨value, present, typedValue⟩
      cases stacked_nil_iff.mp stacked
      simp only [exec, present]
      exact delivers_push runs operands typedValue
  | localSet index =>
      simp only [Context.plainType?, Option.bind_eq_bind, Option.bind_eq_some_iff, Option.pure_def,
        Option.some.injEq] at typed
      rcases typed with ⟨valType, declared, rfl⟩
      rcases stacked_singleton_iff.mp stacked with ⟨value, rfl, typedValue⟩
      simp only [exec, operands, List.cons_append, List.nil_append]
      exact ⟨⟨rfl, rfl, rfl, rfl, rfl⟩, ⟨runs.sound, runs.within, runs.store,
        runs.locals.set declared typedValue⟩, [], stacked_nil_iff.mpr rfl, rfl⟩
  | localTee index =>
      simp only [Context.plainType?, Option.bind_eq_bind, Option.bind_eq_some_iff, Option.pure_def,
        Option.some.injEq] at typed
      rcases typed with ⟨valType, declared, rfl⟩
      rcases stacked_singleton_iff.mp stacked with ⟨value, rfl, typedValue⟩
      simp only [exec, operands, List.cons_append, List.nil_append]
      exact ⟨⟨rfl, rfl, rfl, rfl, rfl⟩, ⟨runs.sound, runs.within, runs.store,
        runs.locals.set declared typedValue⟩, [value], stacked, rfl⟩
  | const value =>
      have typedValue : ∃ valType, value.HasType m.module valType ∧ type = ⟨[], [valType]⟩ := by
        cases value with
        | i32 bits => exact ⟨_, .i32 bits, (Option.some.inj typed).symm⟩
        | i64 bits => exact ⟨_, .i64 bits, (Option.some.inj typed).symm⟩
        | f32 bits => exact ⟨_, .f32 bits, (Option.some.inj typed).symm⟩
        | f64 bits => exact ⟨_, .f64 bits, (Option.some.inj typed).symm⟩
        | v128 bits => simp [Context.plainType?] at typed
        | ref reference => simp [Context.plainType?] at typed
      rcases typedValue with ⟨valType, typedValue, rfl⟩
      cases stacked_nil_iff.mp stacked
      exact delivers_push runs operands typedValue
  | numeric op =>
      cases typed
      have regular := NumOp.eval_regular stacked rest
      simp only [exec, operands]
      cases evaluated : op.eval (front ++ rest) with
      | ok after =>
          rw [evaluated] at regular
          rcases regular with ⟨value, typedValue, rfl⟩
          exact delivers_withOperands runs (stacked_singleton_iff.mpr ⟨value, rfl, typedValue⟩)
      | error trap =>
          rw [evaluated] at regular
          exact delivers_trap regular m
  | refNull heap =>
      cases typed
      cases stacked_nil_iff.mp stacked
      exact delivers_push runs operands (.null true heap)
  | refFunc func =>
      simp only [Context.plainType?, Option.bind_eq_bind, Option.bind_eq_some_iff, Option.pure_def,
        Option.some.injEq] at typed
      rcases typed with ⟨funcType, declared, _, _, rfl⟩
      rw [runs.within.funcs] at declared
      rcases m.module.exists_callee declared with ⟨callee, found, _⟩
      cases stacked_nil_iff.mp stacked
      exact delivers_push runs operands (.func true found)
  | globalGet index =>
      simp only [Context.plainType?, Option.bind_eq_bind, Option.bind_eq_some_iff, Option.pure_def,
        Option.some.injEq] at typed
      rcases typed with ⟨globalType, declared, rfl⟩
      rcases runs.global declared with ⟨value, present, typedValue⟩
      cases stacked_nil_iff.mp stacked
      simp only [exec, execStore, present]
      exact delivers_push runs operands typedValue
  | globalSet index =>
      simp only [Context.plainType?, Option.bind_eq_bind, Option.bind_eq_some_iff, Option.pure_def,
        Option.some.injEq] at typed
      rcases typed with ⟨globalType, declared, _, _, rfl⟩
      rcases stacked_singleton_iff.mp stacked with ⟨value, rfl, typedValue⟩
      simp only [exec, execStore, operands, List.cons_append, List.nil_append]
      refine delivers_updateStore runs (runs.store.setGlobal ?_)
      intro global found
      rw [runs.within.globals, Array.getElem?_map, found, Option.map_some, Option.some.injEq]
        at declared
      rw [declared]
      exact typedValue
  | load op arg => exact load_delivers runs operands stacked typed
  | store op arg => exact storeScalar_delivers runs operands stacked typed
  | memorySize index =>
      simp only [Context.plainType?, Option.bind_eq_bind, Option.bind_eq_some_iff, Option.pure_def,
        Option.some.injEq] at typed
      rcases typed with ⟨memoryType, declared, rfl⟩
      rcases runs.memory declared with ⟨memory, present, rfl⟩
      cases stacked_nil_iff.mp stacked
      simp only [exec, execStore, present]
      exact delivers_push runs operands (.ofIndex _ _)
  | memoryGrow index =>
      simp only [Context.plainType?, Option.bind_eq_bind, Option.bind_eq_some_iff, Option.pure_def,
        Option.some.injEq] at typed
      rcases typed with ⟨memoryType, declared, rfl⟩
      rcases runs.memory declared with ⟨memory, present, rfl⟩
      rcases stacked_singleton_iff.mp stacked with ⟨operand, rfl, typedOperand⟩
      rcases typedOperand.exists_index with ⟨pages, isNumber⟩
      simp only [exec, execStore, operands, List.cons_append, List.nil_append, isNumber]
      exact ⟨⟨rfl, rfl, rfl, rfl, rfl⟩, ⟨runs.sound, runs.within, runs.store, runs.locals⟩, rfl,
        memory, present, rfl⟩
  | memoryFill index => exact memoryFill_delivers runs operands stacked typed
  | memoryCopy target source => exact memoryCopy_delivers runs operands stacked typed
  | memoryInit index data => exact memoryInit_delivers runs operands stacked typed
  | dataDrop data =>
      simp only [Context.plainType?, Option.bind_eq_bind, Option.bind_eq_some_iff, Option.pure_def,
        Option.some.injEq] at typed
      rcases typed with ⟨_, _, rfl⟩
      cases stacked_nil_iff.mp stacked
      simp only [exec, execStore, operands, List.nil_append]
      exact delivers_updateStore runs runs.store.dropData
  | tableGet index => exact tableGet_delivers runs operands stacked typed
  | tableSet index => exact tableSet_delivers runs operands stacked typed
  | tableSize index =>
      simp only [Context.plainType?, Option.bind_eq_bind, Option.bind_eq_some_iff, Option.pure_def,
        Option.some.injEq] at typed
      rcases typed with ⟨tableType, declared, rfl⟩
      rcases runs.table declared with ⟨table, present, rfl, _⟩
      cases stacked_nil_iff.mp stacked
      simp only [exec, execStore, present]
      exact delivers_push runs operands (.ofIndex _ _)
  | tableGrow index =>
      simp only [Context.plainType?, Option.bind_eq_bind, Option.bind_eq_some_iff, Option.pure_def,
        Option.some.injEq] at typed
      rcases typed with ⟨tableType, declared, rfl⟩
      rcases runs.table declared with ⟨table, present, rfl, _⟩
      rcases stacked_pair_iff.mp stacked with ⟨lower, upper, rfl, first, second⟩
      rcases first.exists_ref (runs.isRef declared) with ⟨ref, rfl⟩
      rcases second.exists_index with ⟨n, isNumber⟩
      simp only [exec, execStore, operands, List.cons_append, List.nil_append, isNumber]
      exact ⟨⟨rfl, rfl, rfl, rfl, rfl⟩, ⟨runs.sound, runs.within, runs.store, runs.locals⟩, rfl,
        table, present, rfl, first⟩
  | tableFill index => exact tableFill_delivers runs operands stacked typed
  | tableCopy target source => exact tableCopy_delivers runs operands stacked typed
  | tableInit index elem => exact tableInit_delivers runs operands stacked typed
  | elemDrop elem =>
      simp only [Context.plainType?, Option.bind_eq_bind, Option.bind_eq_some_iff, Option.pure_def,
        Option.some.injEq] at typed
      rcases typed with ⟨_, _, rfl⟩
      cases stacked_nil_iff.mp stacked
      simp only [exec, execStore, operands, List.nil_append]
      exact delivers_updateStore runs runs.store.dropElem
  | unreachable | block | loop | ite | br | brIf | brTable | ret | call | callIndirect | returnCall
  | returnCallIndirect => simp [Instr.stays] at stays
  | drop | select | refIsNull => simp [Context.plainType?] at typed

end Plain

end Machine

end WasmHost
