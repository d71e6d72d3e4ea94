import WasmHost.Validation.Module

/-!
# The heap of outside references

References to things outside the module live in a heap of their own, which is made for a store
before all else if the module may need it: if it has a table of such references, or code that reads
or writes a global of that type. Code that follows a jump is not looked at, unless a branch leads to
it.

`Context.flow` tells where control can go from a piece of code. An access that lies outside its
memory whatever the address is a jump, too.
-/

namespace WasmHost

/-- Where control can go from a piece of code: whether it uses outside references on the way,
whether it can run to its end, and the enclosing blocks that it can branch to. -/
structure Flow where
  usesHeap : Bool := false
  falls : Bool := true
  branches : List Nat := []
  deriving DecidableEq, Repr

namespace Flow

/-- Control leaves for the given blocks, or for good. -/
def jump (branches : List Nat) : Flow where
  falls := false
  branches := branches

/-- One piece of code after the other. -/
def andThen (first second : Flow) : Flow :=
  if first.falls then
    { usesHeap := first.usesHeap || second.usesHeap
      falls := second.falls
      branches := first.branches ++ second.branches }
  else first

/-- One piece of code or the other. -/
def either (first second : Flow) : Flow where
  usesHeap := first.usesHeap || second.usesHeap
  falls := first.falls || second.falls
  branches := first.branches ++ second.branches

/-- Seen from outside of the innermost block, the branches that leave it. -/
def outer (branches : List Nat) : List Nat :=
  branches.filterMap fun
    | 0 => none
    | label + 1 => some label

/-- A block around code: a branch to it goes on after it. -/
def block (flow : Flow) : Flow :=
  { flow with falls := flow.falls || flow.branches.contains 0, branches := outer flow.branches }

/-- A loop around code: a branch to it starts again. -/
def loop (flow : Flow) : Flow :=
  { flow with branches := outer flow.branches }

end Flow

namespace Context

/-- Whether a global holds a reference to something outside the module. -/
def isOutside (context : Context) (global : Nat) : Bool :=
  (context.globals[global]?).any (·.type = .externref)

/-- Whether an access of `bytes` bytes lies outside its memory whatever the address. An offset of
more than 32 bits counts as part of the address. -/
def isOutOfReach (context : Context) (bytes : Nat) (arg : MemArg) : Bool :=
  let offset := if arg.offset < UInt32.size then arg.offset else 0
  ((context.memories[arg.memory]?).bind MemoryType.maximumBytes).any (· < offset + bytes)

/-- An access of `bytes` bytes. -/
def accessFlow (context : Context) (bytes : Nat) (arg : MemArg) : Flow :=
  if context.isOutOfReach bytes arg then .jump [] else {}

mutual

/-- Where control can go from an instruction. -/
def flow (context : Context) : Instr → Flow
  | .block _ body => (context.flows body).block
  | .loop _ body => (context.flows body).loop
  | .ite _ thenBody elseBody => ((context.flows thenBody).either (context.flows elseBody)).block
  | .unreachable => .jump []
  | .br label => .jump [label]
  | .brIf label => { branches := [label] }
  | .brTable labels otherwise => .jump (otherwise :: labels.toList)
  | .ret => .jump []
  | .returnCall _ => .jump []
  | .returnCallIndirect _ _ => .jump []
  | .globalGet index => { usesHeap := context.isOutside index }
  | .globalSet index => { usesHeap := context.isOutside index }
  | .load op arg => context.accessFlow op.bytes arg
  | .store op arg => context.accessFlow op.bytes arg
  | _ => {}
termination_by structural instr => instr

/-- Where control can go from a row of instructions. -/
def flows (context : Context) : List Instr → Flow
  | [] => {}
  | instr :: rest => (context.flow instr).andThen (context.flows rest)
termination_by structural instrs => instrs

end

end Context

/-- Whether a store for the module has a heap of outside references. -/
def Module.needsRefHeap (m : Module) : Bool :=
  let context := m.context
  m.tables.toList.any (·.element = .externref)
    || m.funcs.toList.any fun func => (context.flows func.body).usesHeap

end WasmHost
