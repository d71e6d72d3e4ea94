import Mathlib
import WasmHost.Proofs.Limiter.Rollback

/-!
# The order of requests

The limiter decides every request against the bytes that it has approved before. Whether a single
request is approved therefore depends on those that come first. This file proves that it does not
matter for a row of requests that are all approved: they are so exactly if no request is over the
maximum of its own memory and all growths together fit into a word and under the ceiling. None of
these conditions speaks of an order, so they hold of every permutation of the row, and the bytes
counted in the end are the same.

The induction is over the row, with the bytes counted so far as a parameter: growth only adds to
them, so the last sum bounds all the sums before it.
-/

namespace WasmHost

namespace Limiter

/-- A request for the growth of one memory. -/
structure Request where
  current : UInt64
  desired : UInt64
  maximum : Option UInt64 := none

namespace Request

def call (request : Request) : Call :=
  .memoryGrowing request.current request.desired request.maximum

/-- The bytes that the request adds; a memory that would get smaller adds none. -/
def growth (request : Request) : Nat :=
  request.desired.toNat - request.current.toNat

/-- The memory's own maximum allows the request. -/
def Allowed (request : Request) : Prop :=
  ∀ bound ∈ request.maximum, request.desired ≤ bound

end Request

/-- The bytes that a row of requests adds. -/
def totalGrowth (requests : List Request) : Nat :=
  (requests.map Request.growth).sum

/-- Every request of a row is answered, and every answer is an approval. -/
def ApprovesAll (limiter : Limiter) (requests : List Request) : Prop :=
  ∀ reply ∈ limiter.replies (requests.map Request.call),
    reply.map Reply.answer = some (.approved true)

/-- Every request is within the maximum of its own memory, and the growths together with some bytes
fit into a word and under the ceiling. -/
structure Fit (limits : ResourceLimits) (bytes : Nat) (requests : List Request) : Prop where
  allowed : ∀ request ∈ requests, request.Allowed
  word : bytes + totalGrowth requests < UInt64.size
  ceiling : ∀ ceiling ∈ limits.maxMemoryBytes, bytes + totalGrowth requests ≤ ceiling.toNat

variable {limits : ResourceLimits} {limiter : Limiter} {bytes : Nat} {request : Request}
  {requests : List Request}

theorem totalGrowth_cons (request : Request) (rest : List Request) :
    totalGrowth (request :: rest) = request.growth + totalGrowth rest := by
  simp [totalGrowth]

theorem totalGrowth_perm {order : List Request} (perm : order.Perm requests) :
    totalGrowth order = totalGrowth requests :=
  (perm.map Request.growth).sum_eq

theorem Fit.perm {order : List Request} (fit : Fit limits bytes requests)
    (perm : order.Perm requests) : Fit limits bytes order := by
  refine ⟨?_, ?_, ?_⟩
  · intro request request_mem
    exact fit.allowed request (perm.mem_iff.mp request_mem)
  · rw [totalGrowth_perm perm]
    exact fit.word
  · rw [totalGrowth_perm perm]
    exact fit.ceiling

theorem fit_cons_iff {rest : List Request} :
    Fit limits bytes (request :: rest) ↔
      request.Allowed ∧ Fit limits (bytes + request.growth) rest := by
  constructor
  · rintro ⟨allowed, word, ceiling⟩
    rw [totalGrowth_cons, ← Nat.add_assoc] at word ceiling
    refine ⟨allowed request List.mem_cons_self, ?_, word, ceiling⟩
    intro other other_mem
    exact allowed other (List.mem_cons_of_mem request other_mem)
  · rintro ⟨first, allowed, word, ceiling⟩
    refine ⟨?_, ?_, ?_⟩
    · intro other other_mem
      rcases List.mem_cons.mp other_mem with rfl | later
      · exact first
      · exact allowed other later
    · rwa [totalGrowth_cons, ← Nat.add_assoc]
    · rwa [totalGrowth_cons, ← Nat.add_assoc]

/-- A request that fits together with others fits alone: growth only adds. -/
theorem Fit.head (fit : Fit limits (bytes + request.growth) requests) :
    bytes + request.growth < UInt64.size ∧
      ∀ ceiling ∈ limits.maxMemoryBytes, bytes + request.growth ≤ ceiling.toNat := by
  refine ⟨?_, ?_⟩
  · have word := fit.word
    omega
  · intro ceiling configured
    have below := fit.ceiling ceiling configured
    omega

/-- When a request is approved, and what the limiter counts then. -/
theorem Balanced.approves_iff (balanced : limiter.Balanced limits bytes) :
    (∃ verdict,
        limiter.memoryGrowing request.current request.desired request.maximum = some verdict ∧
        verdict.approved = true) ↔
      request.Allowed ∧ bytes + request.growth < UInt64.size ∧
        ∀ ceiling ∈ limits.maxMemoryBytes, bytes + request.growth ≤ ceiling.toNat := by
  have total : limiter.totalAfter request.current request.desired = bytes + request.growth :=
    balanced.totalAfter_eq _ _
  have decision := limiter.memoryGrowing_decision request.current request.desired request.maximum
  generalize limiter.memoryGrowing request.current request.desired request.maximum = answer
    at decision
  cases decision with
  | overMaximum bound declared exceeds =>
      apply iff_of_false
      · simp
      · rintro ⟨allowed, _⟩
        exact absurd (allowed bound declared) (UInt64.not_le.mpr exceeds)
  | overflow allowed overflows =>
      apply iff_of_false
      · simp
      · rintro ⟨_, fits, _⟩
        omega
  | overCeiling allowed fits ceiling configured exceeds =>
      apply iff_of_false
      · simp
      · rintro ⟨_, _, below⟩
        rw [balanced.limits_eq] at configured
        have within := below ceiling configured
        omega
  | approved allowed fits below =>
      apply iff_of_true
      · exact ⟨_, rfl, rfl⟩
      · rw [balanced.limits_eq, total] at below
        rw [total] at fits
        exact ⟨allowed, fits, below⟩

theorem approvesAll_cons_iff {rest : List Request} :
    limiter.ApprovesAll (request :: rest) ↔
      ∃ verdict,
        limiter.memoryGrowing request.current request.desired request.maximum = some verdict ∧
          verdict.approved = true ∧ verdict.limiter.ApprovesAll rest := by
  simp only [ApprovesAll, List.map_cons, replies, Request.call, reply?]
  cases limiter.memoryGrowing request.current request.desired request.maximum with
  | none => simp
  | some verdict => simp

/-- A row of requests is approved exactly if it fits, whatever has been counted before. -/
theorem Balanced.approvesAll_iff (balanced : limiter.Balanced limits bytes) :
    limiter.ApprovesAll requests ↔ Fit limits bytes requests := by
  induction requests generalizing limiter bytes with
  | nil =>
      apply iff_of_true
      · simp [ApprovesAll, replies]
      · refine ⟨by simp, ?_, ?_⟩
        · rw [← balanced.current_eq]
          exact limiter.current.toNat_lt
        · exact balanced.below
  | cons request rest ih =>
      rw [approvesAll_cons_iff, fit_cons_iff]
      constructor
      · rintro ⟨verdict, answer, approved, approvesRest⟩
        have grown := balanced.memoryGrowing answer
        rw [approved, if_pos rfl] at grown
        refine ⟨?_, (ih grown).mp approvesRest⟩
        exact (balanced.approves_iff.mp ⟨verdict, answer, approved⟩).1
      · rintro ⟨allowed, fit⟩
        rcases balanced.approves_iff.mpr ⟨allowed, fit.head⟩ with ⟨verdict, answer, approved⟩
        have grown := balanced.memoryGrowing answer
        rw [approved, if_pos rfl] at grown
        exact ⟨verdict, answer, approved, (ih grown).mpr fit⟩

/-- Once a row is approved, the limiter has counted all its growths. -/
theorem Balanced.after_approvesAll (balanced : limiter.Balanced limits bytes)
    (approves : limiter.ApprovesAll requests) :
    ∃ last, limiter.after? (requests.map Request.call) = some last ∧
      last.Balanced limits (bytes + totalGrowth requests) := by
  induction requests generalizing limiter bytes with
  | nil => exact ⟨limiter, rfl, balanced⟩
  | cons request rest ih =>
      rcases approvesAll_cons_iff.mp approves with ⟨verdict, answer, approved, approvesRest⟩
      have grown := balanced.memoryGrowing answer
      rw [approved, if_pos rfl] at grown
      rcases ih grown approvesRest with ⟨last, reached, counted⟩
      refine ⟨last, ?_, ?_⟩
      · exact after?_cons_iff.mpr ⟨_, reply?_of_answer answer, reached⟩
      · rw [totalGrowth_cons, ← Nat.add_assoc]
        exact counted

end Limiter

open Limiter

/-- A new limiter approves all requests of a row exactly if each is within its own maximum and the
exact sum of all growths fits into a word and under the ceiling. So if it approves them in one
order, it approves them in every order, and it counts the same bytes in the end, now and at most so
far. -/
theorem approval_regardless_of_order (limits : ResourceLimits) (requests : List Request) :
    ((Limiter.ofLimits limits).ApprovesAll requests ↔
        (∀ request ∈ requests, ∀ bound ∈ request.maximum, request.desired ≤ bound) ∧
          (requests.map fun request => request.desired.toNat - request.current.toNat).sum < 2 ^ 64 ∧
          ∀ ceiling ∈ limits.maxMemoryBytes,
            (requests.map fun request => request.desired.toNat - request.current.toNat).sum
              ≤ ceiling.toNat) ∧
      ∀ order : List Request, order.Perm requests → (Limiter.ofLimits limits).ApprovesAll requests →
        (Limiter.ofLimits limits).ApprovesAll order ∧
          ∃ last other, (Limiter.ofLimits limits).after? (requests.map Request.call) = some last ∧
            (Limiter.ofLimits limits).after? (order.map Request.call) = some other ∧
            other.current = last.current ∧ other.peak = last.peak := by
  have fresh : (Limiter.ofLimits limits).Balanced limits 0 := .ofLimits limits
  refine ⟨?_, ?_⟩
  · rw [fresh.approvesAll_iff]
    constructor
    · rintro ⟨allowed, word, ceiling⟩
      rw [Nat.zero_add] at word ceiling
      exact ⟨allowed, word, ceiling⟩
    · rintro ⟨allowed, word, ceiling⟩
      refine ⟨allowed, ?_, ?_⟩
      · rw [Nat.zero_add]
        exact word
      · rw [Nat.zero_add]
        exact ceiling
  · intro order perm approves
    have approvesOrder := fresh.approvesAll_iff.mpr ((fresh.approvesAll_iff.mp approves).perm perm)
    rcases fresh.after_approvesAll approves with ⟨last, reached, counted⟩
    rcases fresh.after_approvesAll approvesOrder with ⟨other, reachedToo, countedToo⟩
    have same : other.current = last.current := by
      apply UInt64.toNat.inj
      rw [counted.current_eq, countedToo.current_eq, totalGrowth_perm perm]
    refine ⟨approvesOrder, last, other, reached, reachedToo, same, ?_⟩
    rw [counted.peak_eq, countedToo.peak_eq, same]

/-- A memory of two pages, one of one page and the growth of the first one fill a ceiling of four
pages, also with the growth in front. -/
theorem fourPages_in_any_order :
    (Limiter.ofLimits { maxMemoryBytes := some 262144 }).ApprovesAll
        [⟨0, 131072, none⟩, ⟨0, 65536, some 65536⟩, ⟨131072, 196608, none⟩] ∧
      (Limiter.ofLimits { maxMemoryBytes := some 262144 }).ApprovesAll
        [⟨131072, 196608, none⟩, ⟨0, 131072, none⟩, ⟨0, 65536, some 65536⟩] := by
  have holds := approval_regardless_of_order { maxMemoryBytes := some 262144 }
    [⟨0, 131072, none⟩, ⟨0, 65536, some 65536⟩, ⟨131072, 196608, none⟩]
  have approves := holds.1.mpr (by simp)
  have perm : List.Perm ([Request.mk 131072 196608 none]
      ++ [⟨0, 131072, none⟩, ⟨0, 65536, some 65536⟩])
      ([⟨0, 131072, none⟩, ⟨0, 65536, some 65536⟩] ++ [⟨131072, 196608, none⟩]) :=
    List.perm_append_comm
  exact ⟨approves, (holds.2 _ perm approves).1⟩

end WasmHost
