import Mathlib
import WasmHost.Machine.Step

/-!
# Calls of the host function

The machine does not print. It hands a call of the host function out as a signal, with the number to
be printed, and waits for its host to go on. This file says which steps do so, in terms of the code
alone: the next instruction is a call, by name or through a table, with or without giving up the
running call, the function that it goes to is the host's, and the operand on top is the number. No
other instruction hands a number out, and no such call is passed over.
-/

namespace WasmHost

/-- The number that a signal hands out to be printed. -/
def Signal.argument? : Signal → Option Int32
  | emit _ value => some value.toInt32
  | _ => none

/-- The number that a call with the given operands prints, if it goes to the host function. -/
def Callee.argument? : Callee → List Value → Option Int32
  | host .putn, .i32 value :: _ => some value.toInt32
  | _, _ => none

namespace Machine

variable (m : Machine)

/-- The number with which the next instruction calls the host function, if it does. -/
def hostArgument? : Option Int32 :=
  match m.frame.code with
  | .call func :: _ => (m.module.callee? func).bind (·.argument? m.frame.operands)
  | .returnCall func :: _ => (m.module.callee? func).bind (·.argument? m.frame.operands)
  | .callIndirect table type :: _ =>
    (m.indirectCallee table type).toOption.bind (·.argument? m.frame.operands.tail)
  | .returnCallIndirect table type :: _ =>
    (m.indirectCallee table type).toOption.bind (·.argument? m.frame.operands.tail)
  | _ => none

section Calls

theorem argument?_call [Engine] (callee : Callee) :
    (m.call callee).argument? = callee.argument? m.frame.operands := by
  cases callee with
  | host func =>
      cases func
      simp only [call]
      rcases m.frame.operands with _ | ⟨value, operands⟩
      · rfl
      · cases value <;> rfl
  | defined func =>
      simp only [call]
      split <;> rfl

theorem argument?_tailCall (callee : Callee) :
    (m.tailCall callee).argument? = callee.argument? m.frame.operands := by
  cases callee with
  | host func =>
      cases func
      simp only [tailCall]
      rcases m.frame.operands with _ | ⟨value, operands⟩
      · rfl
      · cases value <;> rfl
  | defined func => rfl

/-- An indirect call takes its place in the table from the operands, so the number is below it. -/
theorem argument?_callIndirect [Engine] (table : Nat) (type : FuncType) (tail : Bool) :
    (m.callIndirect table type tail).argument?
      = (m.indirectCallee table type).toOption.bind (·.argument? m.frame.operands.tail) := by
  simp only [callIndirect]
  cases m.indirectCallee table type with
  | error reason => rfl
  | ok callee =>
      cases tail with
      | false => exact argument?_call _ callee
      | true => exact argument?_tailCall _ callee

end Calls

section Silent

@[simp]
theorem argument?_ret : m.ret.argument? = none := by
  simp only [ret]
  split <;> rfl

@[simp]
theorem argument?_leave : m.leave.argument? = none := by
  simp only [leave]
  split
  · exact m.argument?_ret
  · rfl

@[simp]
theorem argument?_branch (label : Nat) : (m.branch label).argument? = none := by
  simp only [branch]
  split
  · rfl
  · exact m.argument?_ret

/-- Instructions on memories, tables and globals never print. -/
theorem argument?_execStore (instr : Instr) : (m.execStore instr).argument? = none := by
  cases instr
  all_goals
    simp only [execStore, load, storeScalar, memoryFill, memoryCopy, memoryInit, tableGet, tableSet,
      tableFill, tableCopy, tableInit]
    repeat' split
  all_goals rfl

end Silent

/-- A step hands out a number exactly if the next instruction calls the host function with it. -/
theorem argument?_step [Engine] : m.step.argument? = m.hostArgument? := by
  simp only [step, hostArgument?]
  cases m.frame.code with
  | nil => exact m.argument?_leave
  | cons instr code =>
      cases instr with
      | call func =>
          simp only [exec]
          cases m.module.callee? func with
          | none => rfl
          | some callee => exact argument?_call _ callee
      | returnCall func =>
          simp only [exec]
          cases m.module.callee? func with
          | none => rfl
          | some callee => exact argument?_tailCall _ callee
      | callIndirect table type => exact argument?_callIndirect _ table type false
      | returnCallIndirect table type => exact argument?_callIndirect _ table type true
      | br label => exact argument?_branch _ label
      | brIf label =>
          simp only [exec]
          split
          · split
            · rfl
            · exact argument?_branch _ label
          · rfl
      | brTable labels otherwise =>
          simp only [exec]
          split
          · exact argument?_branch _ _
          · rfl
      | ret => exact argument?_ret _
      | unreachable => rfl
      | nop => rfl
      | block type body => rfl
      | loop type body => rfl
      | ite type thenBody elseBody =>
          simp only [exec]
          split <;> rfl
      | drop => rfl
      | select type =>
          simp only [exec]
          split <;> rfl
      | localGet index =>
          simp only [exec]
          split <;> rfl
      | localSet index =>
          simp only [exec]
          split <;> rfl
      | localTee index =>
          simp only [exec]
          split <;> rfl
      | const value => rfl
      | numeric op =>
          simp only [exec]
          split <;> rfl
      | refNull heap => rfl
      | refIsNull =>
          simp only [exec]
          split <;> rfl
      | refFunc func => rfl
      | _ =>
          simp only [exec]
          exact argument?_execStore _ _

section Emission

variable {m} {index : Nat} {code : List Instr} {value : UInt32} {operands : List Value}

/-- A call of the host function takes its argument off the operands and hands it out. -/
theorem step_of_call_putn [Engine] (bound : m.module.callee? index = some (.host .putn))
    (next : m.frame.code = .call index :: code) (top : m.frame.operands = .i32 value :: operands) :
    m.step = .emit { m with frame := { m.frame with code, operands } } value := by
  simp only [step, next, exec, bound, call, top]
  rfl

/-- So does a tail call, after which there is nothing left to do in the running call. -/
theorem step_of_returnCall_putn [Engine] (bound : m.module.callee? index = some (.host .putn))
    (next : m.frame.code = .returnCall index :: code)
    (top : m.frame.operands = .i32 value :: operands) :
    m.step = .emit { m with frame := { m.frame with code := [], labels := [], operands := [] } }
      value := by
  simp only [step, next, exec, bound, tailCall, top]

end Emission

end Machine

end WasmHost
