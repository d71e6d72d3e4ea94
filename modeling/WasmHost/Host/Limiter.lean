import WasmHost.Host.Event

/-!
# Resource limits and the memory limiter

A store asks its limiter before a memory or a table is made or grows. The limiter adds up the bytes
of all memories in 64-bit words: a sum that does not fit is not an answer but an overflow, which
ends the whole run. A growth that was approved and then not carried out is taken back.
-/

namespace WasmHost

/-- What a module may use. -/
structure ResourceLimits where
  maxMemoryBytes : Option UInt64 := none
  maxTableElements : UInt64 := 20000
  maxInstances : UInt64 := 10
  maxTables : UInt64 := 100
  maxMemories : UInt64 := 10
  deriving DecidableEq, Repr

/-- The growth approved last, as far as it can still be taken back. -/
structure Growth where
  delta : UInt64
  peakBefore : UInt64
  deriving DecidableEq, Repr

/-- The bytes of all memories of a store, now and at most so far. -/
structure Limiter where
  limits : ResourceLimits := {}
  current : UInt64 := 0
  peak : UInt64 := 0
  pending : Option Growth := none
  deriving DecidableEq, Repr

/-- The sum of two words, if it fits into one. -/
def checkedAdd (a b : UInt64) : Option UInt64 :=
  if a.toNat + b.toNat < UInt64.size then some (a + b) else none

namespace Limiter

/-- An answer of the limiter: whether the growth is approved, the limiter after it and what it
logs. -/
structure Verdict where
  approved : Bool
  limiter : Limiter
  event : Event
  deriving DecidableEq, Repr

/-- Asks for the growth of one memory from `current` to `desired` bytes, where the memory itself may
have at most `maximum`. There is no answer if the sum of all bytes overflows. -/
def memoryGrowing (limiter : Limiter) (current desired : UInt64) (maximum : Option UInt64) :
    Option Verdict :=
  let limiter := { limiter with pending := none }
  match maximum.filter (· < desired) with
  | some maximum => some ⟨false, limiter, .growthOverMaximum current desired maximum⟩
  | none =>
    let delta := if current ≤ desired then desired - current else 0
    match checkedAdd limiter.current delta with
    | none => none
    | some total =>
      match limiter.limits.maxMemoryBytes.filter (· < total) with
      | some ceiling => some ⟨false, limiter, .growthOverCeiling current desired ceiling⟩
      | none =>
        let grown := { limiter with
          current := total
          peak := max limiter.peak total
          pending := some ⟨delta, limiter.peak⟩ }
        some ⟨true, grown, .growing current desired⟩

/-- Takes back the growth approved last, if that has not been done. -/
def memoryGrowFailed (limiter : Limiter) : Limiter :=
  match limiter.pending with
  | some growth =>
    { limiter with
      current := limiter.current - growth.delta
      peak := growth.peakBefore
      pending := none }
  | none => limiter

/-- Whether a table may have `desired` elements. -/
def tableGrowing (limiter : Limiter) (desired : UInt64) : Bool :=
  desired ≤ limiter.limits.maxTableElements

/-- A limiter that has approved nothing. -/
def ofLimits (limits : ResourceLimits) : Limiter :=
  { limits }

/-- What a store can ask or tell its limiter. -/
inductive Call
  | memoryGrowing (current desired : UInt64) (maximum : Option UInt64)
  | memoryGrowFailed (reason : String)
  | tableGrowing (current desired : UInt64) (maximum : Option UInt64)
  | counts
  deriving DecidableEq, Repr

/-- What a limiter answers. -/
inductive Answer
  | approved (isApproved : Bool)
  | noted
  | counts (instances tables memories : UInt64)
  deriving DecidableEq, Repr

/-- An answer, the limiter after it and what it logs. -/
structure Reply where
  answer : Answer
  limiter : Limiter
  events : List Event := []
  deriving DecidableEq, Repr

/-- The reply to a call, unless the sum of all bytes overflows. -/
def reply? (limiter : Limiter) : Call → Option Reply
  | .memoryGrowing current desired maximum =>
    (limiter.memoryGrowing current desired maximum).map fun verdict =>
      ⟨.approved verdict.approved, verdict.limiter, [verdict.event]⟩
  | .memoryGrowFailed reason => some ⟨.noted, limiter.memoryGrowFailed, [.growthFailed reason]⟩
  | .tableGrowing _ desired _ => some ⟨.approved (limiter.tableGrowing desired), limiter, []⟩
  | .counts =>
    let limits := limiter.limits
    some ⟨.counts limits.maxInstances limits.maxTables limits.maxMemories, limiter, []⟩

/-- The replies to a row of calls. An overflow ends the row, and its place in the list is `none`. -/
def replies (limiter : Limiter) : List Call → List (Option Reply)
  | [] => []
  | call :: rest =>
    match limiter.reply? call with
    | some reply => some reply :: replies reply.limiter rest
    | none => [none]

end Limiter

end WasmHost
