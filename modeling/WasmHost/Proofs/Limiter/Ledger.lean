import Mathlib
import WasmHost.Proofs.Limiter.Growth

/-!
# The limiter and its ledger

A limiter remembers two words and one slot: the bytes of all memories now and at most so far, and
the growth that it could still take back. A ledger remembers everything. It keeps every growth that
is in effect, in numbers without a bound, and whether the last request was approved and has not been
undone. What the limiter should answer is easy to say of a ledger, and this file proves that the
limiter answers the same, call by call, and overflows at the same call.

The relation between the two is `Ledger.Tracks`. The word is the sum of the growths, and the slot
holds the last growth exactly as long as the ledger may undo it. The slot stays filled after a
growth that was carried out, so the relation has to survive failures that are told twice, late or
without any reason; it does, because each of them empties the slot and clears the mark at the same
time.
-/

namespace WasmHost

open Limiter

/-- All growths in effect, the oldest one first, and whether the last request for memory was
approved and has not been undone. -/
structure Ledger where
  limits : ResourceLimits
  growths : List Nat := []
  undoable : Bool := false

namespace Ledger

def ofLimits (limits : ResourceLimits) : Ledger :=
  { limits }

def bytes (ledger : Ledger) : Nat :=
  ledger.growths.sum

/-- The ledger after a request that was denied: there is nothing to undo. -/
def closed (ledger : Ledger) : Ledger :=
  { ledger with undoable := false }

/-- The ledger with one more growth in effect. -/
def enter (ledger : Ledger) (growth : Nat) : Ledger :=
  { ledger with growths := ledger.growths ++ [growth], undoable := true }

/-- Takes the last growth out if that may be done. -/
def undo (ledger : Ledger) : Ledger :=
  if ledger.undoable then { ledger with growths := ledger.growths.dropLast, undoable := false }
  else ledger

/-- The growth that would be undone. -/
def undoable? (ledger : Ledger) : Option Nat :=
  if ledger.undoable then ledger.growths.getLast? else none

/-- Asks for memory. There is no answer if the bytes of all memories are no longer a 64-bit
number. -/
def ask (ledger : Ledger) (current desired : Nat) (maximum : Option Nat) : Option (Bool × Ledger) :=
  let total := ledger.bytes + (desired - current)
  if maximum.any (· < desired) then some (false, ledger.closed)
  else if 2 ^ 64 ≤ total then none
  else if ledger.limits.maxMemoryBytes.any (·.toNat < total) then some (false, ledger.closed)
  else some (true, ledger.enter (desired - current))

/-- The answer to a call, and the ledger after it. -/
def respond? (ledger : Ledger) : Call → Option (Answer × Ledger)
  | .memoryGrowing current desired maximum =>
    (ledger.ask current.toNat desired.toNat (maximum.map UInt64.toNat)).map fun answer =>
      (.approved answer.1, answer.2)
  | .memoryGrowFailed _ => some (.noted, ledger.undo)
  | .tableGrowing _ desired _ => some (.approved (desired ≤ ledger.limits.maxTableElements), ledger)
  | .counts =>
    let limits := ledger.limits
    some (.counts limits.maxInstances limits.maxTables limits.maxMemories, ledger)

/-- The answers to a row of calls, each with the bytes in effect after it. The row ends at the first
call without an answer, whose place in the list is `none`. -/
def trace (ledger : Ledger) : List Call → List (Option (Answer × Nat))
  | [] => []
  | call :: rest =>
    match ledger.respond? call with
    | some (answer, after) => some (answer, after.bytes) :: after.trace rest
    | none => [none]

/-- The limiter knows of the ledger what it needs: the sum, and the growth that may be undone. -/
structure Tracks (ledger : Ledger) (limiter : Limiter) : Prop where
  limits_eq : limiter.limits = ledger.limits
  current_eq : limiter.current.toNat = ledger.bytes
  pending_eq : limiter.pending.map (·.delta.toNat) = ledger.undoable?

@[simp]
theorem bytes_enter (ledger : Ledger) (growth : Nat) :
    (ledger.enter growth).bytes = ledger.bytes + growth := by
  simp [bytes, enter]

theorem bytes_undo {ledger : Ledger} {growth : Nat} (last : ledger.undoable? = some growth) :
    ledger.undo.bytes + growth = ledger.bytes := by
  simp only [undoable?] at last
  split at last
  · rename_i marked
    have parts := List.dropLast_append_getLast? growth last
    simp only [undo, marked, if_true, bytes]
    conv_rhs => rw [← parts]
    simp
  · simp at last

theorem undo_of_nothing {ledger : Ledger} (nothing : ledger.undoable? = none) :
    ledger.undo.bytes = ledger.bytes ∧ ledger.undo.limits = ledger.limits ∧
      ledger.undo.undoable? = none := by
  simp only [undoable?] at nothing
  split at nothing
  -- A mark without any growth does not occur in a run, but it does no harm either.
  · rename_i marked
    rw [List.getLast?_eq_none_iff] at nothing
    simp [undo, marked, bytes, undoable?, nothing]
  · rename_i unmarked
    simp [undo, unmarked, undoable?]

namespace Tracks

variable {ledger : Ledger} {limiter : Limiter} {current desired : UInt64} {maximum : Option UInt64}

theorem ofLimits (limits : ResourceLimits) : (Ledger.ofLimits limits).Tracks (.ofLimits limits) :=
  ⟨rfl, rfl, rfl⟩

theorem totalAfter_eq (tracks : ledger.Tracks limiter) (current desired : UInt64) :
    limiter.totalAfter current desired = ledger.bytes + (desired.toNat - current.toNat) := by
  rw [totalAfter, tracks.current_eq]

theorem settled (tracks : ledger.Tracks limiter) : ledger.closed.Tracks limiter.settled :=
  ⟨tracks.limits_eq, tracks.current_eq, rfl⟩

/-- An approved growth goes into the ledger and into the slot. -/
theorem approving (tracks : ledger.Tracks limiter)
    (fits : limiter.totalAfter current desired < UInt64.size) :
    (ledger.enter (desired.toNat - current.toNat)).Tracks (limiter.approving current desired) := by
  refine ⟨tracks.limits_eq, ?_, ?_⟩
  · have exactTotal : (UInt64.ofNat (limiter.totalAfter current desired)).toNat
        = limiter.totalAfter current desired := toNat_ofNat_of_lt fits
    rw [bytes_enter, ← tracks.totalAfter_eq]
    exact exactTotal
  · simp [Limiter.approving, undoable?, enter]

/-- A failure takes the growth in the slot back, which is the last one of the ledger. -/
theorem memoryGrowFailed (tracks : ledger.Tracks limiter) :
    ledger.undo.Tracks limiter.memoryGrowFailed := by
  have slot := tracks.pending_eq
  cases pending : limiter.pending with
  | none =>
      rw [pending, Option.map_none] at slot
      rcases undo_of_nothing slot.symm with ⟨bytes, limits, nothing⟩
      simp only [Limiter.memoryGrowFailed, pending]
      refine ⟨?_, ?_, ?_⟩
      · rw [limits]
        exact tracks.limits_eq
      · rw [bytes]
        exact tracks.current_eq
      · rw [nothing, pending, Option.map_none]
  | some growth =>
      rw [pending, Option.map_some] at slot
      have undone := bytes_undo slot.symm
      have counted := tracks.current_eq
      have marked : ledger.undoable = true := by
        by_contra unmarked
        simp [undoable?, unmarked] at slot
      simp only [Limiter.memoryGrowFailed, pending]
      refine ⟨?_, ?_, ?_⟩
      · simpa [undo, marked] using tracks.limits_eq
      · rw [UInt64.toNat_sub_of_le _ _ (by rw [UInt64.le_iff_toNat_le]; omega)]
        omega
      · simp [undo, marked, undoable?]

/-- The limiter and the ledger decide a request alike. -/
theorem memoryGrowing (tracks : ledger.Tracks limiter) (current desired : UInt64)
    (maximum : Option UInt64) :
    Option.Rel (fun verdict answer => verdict.approved = answer.1 ∧ answer.2.Tracks verdict.limiter)
      (limiter.memoryGrowing current desired maximum)
      (ledger.ask current.toNat desired.toNat (maximum.map UInt64.toNat)) := by
  have decision := memoryGrowing_decision limiter current desired maximum
  have total := tracks.totalAfter_eq current desired
  have size : UInt64.size = 2 ^ 64 := rfl
  have withinMaximum : (∀ bound ∈ maximum, desired ≤ bound) →
      (maximum.map UInt64.toNat).any (· < desired.toNat) = false := by
    intro allowed
    cases maximum with
    | none => rfl
    | some bound => simpa [UInt64.le_iff_toNat_le] using allowed bound rfl
  generalize limiter.memoryGrowing current desired maximum = answer at decision
  cases decision with
  | overMaximum bound declared exceeds =>
      have exceeded : (maximum.map UInt64.toNat).any (· < desired.toNat) = true := by
        simpa [declared, UInt64.lt_iff_toNat_lt] using exceeds
      rw [ask, if_pos exceeded]
      exact .some ⟨rfl, tracks.settled⟩
  | overflow allowed overflows =>
      rw [ask, withinMaximum allowed, if_neg Bool.false_ne_true, if_pos (by omega)]
      exact .none
  | overCeiling allowed fits ceiling configured exceeds =>
      have exceeded : ledger.limits.maxMemoryBytes.any
          (·.toNat < ledger.bytes + (desired.toNat - current.toNat)) = true := by
        rw [← tracks.limits_eq, configured, ← total]
        simpa using exceeds
      rw [ask, withinMaximum allowed, if_neg Bool.false_ne_true, if_neg (by omega), if_pos exceeded]
      exact .some ⟨rfl, tracks.settled⟩
  | approved allowed fits below =>
      have within : ledger.limits.maxMemoryBytes.any
          (·.toNat < ledger.bytes + (desired.toNat - current.toNat)) = false := by
        rw [← tracks.limits_eq, ← total]
        cases configured : limiter.limits.maxMemoryBytes with
        | none => rfl
        | some ceiling => simpa using below ceiling configured
      rw [ask, withinMaximum allowed, if_neg Bool.false_ne_true, if_neg (by omega), within,
        if_neg Bool.false_ne_true]
      exact .some ⟨rfl, tracks.approving fits⟩

/-- One call: both overflow, or both give the same answer and stay related. -/
theorem respond (tracks : ledger.Tracks limiter) (call : Call) :
    Option.Rel (fun reply next => reply.answer = next.1 ∧ next.2.Tracks reply.limiter)
      (limiter.reply? call) (ledger.respond? call) := by
  cases call with
  | memoryGrowing current desired maximum =>
      have decided := tracks.memoryGrowing current desired maximum
      simp only [reply?, respond?]
      generalize limiter.memoryGrowing current desired maximum = verdict at decided
      generalize ledger.ask _ _ _ = answer at decided
      cases decided with
      | none => exact .none
      | some related => exact .some ⟨congrArg Answer.approved related.1, related.2⟩
  | memoryGrowFailed reason => exact .some ⟨rfl, tracks.memoryGrowFailed⟩
  | tableGrowing current desired maximum =>
      refine .some ⟨?_, tracks⟩
      simp only [tableGrowing, tracks.limits_eq]
  | counts =>
      refine .some ⟨?_, tracks⟩
      simp only [tracks.limits_eq]

theorem replies (tracks : ledger.Tracks limiter) (calls : List Call) :
    (limiter.replies calls).map
        (Option.map fun reply => (reply.answer, reply.limiter.current.toNat))
      = ledger.trace calls := by
  induction calls generalizing ledger limiter with
  | nil => rfl
  | cons call rest ih =>
      have related := tracks.respond call
      simp only [Limiter.replies, trace]
      generalize limiter.reply? call = reply at related
      generalize ledger.respond? call = response at related
      cases related with
      | none => rfl
      | some related =>
          rcases related with ⟨answer, tracksAfter⟩
          simp only [List.map_cons, Option.map_some, answer, tracksAfter.current_eq, ih tracksAfter]

end Tracks

end Ledger

/-- A new limiter refines a new ledger: to every row of calls, with arbitrary words, it gives the
same answers and counts the same bytes after each of them, and if it overflows it does so at the
same call. -/
theorem limiter_refines_ledger (limits : ResourceLimits) (calls : List Call) :
    ((Limiter.ofLimits limits).replies calls).map
        (Option.map fun reply => (reply.answer, reply.limiter.current.toNat))
      = (Ledger.ofLimits limits).trace calls :=
  (Ledger.Tracks.ofLimits limits).replies calls

end WasmHost
