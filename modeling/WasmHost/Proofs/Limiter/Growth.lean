import Mathlib
import WasmHost.Host.Limiter

/-!
# The limiter in natural numbers

The limiter works with 64-bit words. This file says what it does in natural numbers, where nothing
wraps around: a request is over the maximum of its own memory, or its exact total does not fit into
a word, or the total is over the ceiling, or it is approved. `Decision` has one constructor for each
of these cases, and `memoryGrowing_decision` says that the limiter's answer is the one of its case.

A limiter is balanced for a number of bytes if that is what it counts, now and at most so far, and
if its ceiling allows them. Approved growth moves the balance by what was asked for. Denied growth
leaves it alone, and so does growth that was approved and then taken back.
-/

namespace WasmHost

theorem toNat_ofNat_of_lt {n : Nat} (fits : n < UInt64.size) : (UInt64.ofNat n).toNat = n := by
  simpa [UInt64.size] using Nat.mod_eq_of_lt fits

theorem checkedAdd_eq_none {a b : UInt64} (overflows : UInt64.size ≤ a.toNat + b.toNat) :
    checkedAdd a b = none := by
  simp only [checkedAdd]
  rw [if_neg (by omega)]

theorem checkedAdd_eq_some {a b : UInt64} (fits : a.toNat + b.toNat < UInt64.size) :
    checkedAdd a b = some (.ofNat (a.toNat + b.toNat)) := by
  simp only [checkedAdd]
  rw [if_pos fits]
  simp

namespace Limiter

variable {limits : ResourceLimits} {limiter : Limiter} {current desired : UInt64}
  {maximum : Option UInt64} {verdict : Verdict}

/-- The bytes that a request adds. -/
def growthDelta (current desired : UInt64) : UInt64 :=
  if current ≤ desired then desired - current else 0

/-- The exact sum of all bytes after a request. -/
def totalAfter (limiter : Limiter) (current desired : UInt64) : Nat :=
  limiter.current.toNat + (desired.toNat - current.toNat)

/-- The limiter with nothing that could be taken back. -/
def settled (limiter : Limiter) : Limiter :=
  { limiter with pending := none }

/-- The limiter after it has approved a request. -/
def approving (limiter : Limiter) (current desired : UInt64) : Limiter :=
  let total := UInt64.ofNat (limiter.totalAfter current desired)
  { limiter with
    current := total
    peak := max limiter.peak total
    pending := some ⟨growthDelta current desired, limiter.peak⟩ }

@[simp]
theorem toNat_growthDelta (current desired : UInt64) :
    (growthDelta current desired).toNat = desired.toNat - current.toNat := by
  simp only [growthDelta]
  split
  · rename_i le
    exact UInt64.toNat_sub_of_le _ _ le
  · rename_i notLe
    have lt : desired.toNat < current.toNat := by
      simpa [UInt64.le_iff_toNat_le] using notLe
    simp only [UInt64.toNat_zero]
    omega

/-- How a request for memory is decided. -/
inductive Decision (limiter : Limiter) (current desired : UInt64) (maximum : Option UInt64) :
    Option Verdict → Prop
  | overMaximum (bound : UInt64) (declared : maximum = some bound) (exceeds : bound < desired) :
      Decision limiter current desired maximum
        (some ⟨false, limiter.settled, .growthOverMaximum current desired bound⟩)
  | overflow (allowed : ∀ bound ∈ maximum, desired ≤ bound)
      (overflows : UInt64.size ≤ limiter.totalAfter current desired) :
      Decision limiter current desired maximum none
  | overCeiling (allowed : ∀ bound ∈ maximum, desired ≤ bound)
      (fits : limiter.totalAfter current desired < UInt64.size) (ceiling : UInt64)
      (configured : limiter.limits.maxMemoryBytes = some ceiling)
      (exceeds : ceiling.toNat < limiter.totalAfter current desired) :
      Decision limiter current desired maximum
        (some ⟨false, limiter.settled, .growthOverCeiling current desired ceiling⟩)
  | approved (allowed : ∀ bound ∈ maximum, desired ≤ bound)
      (fits : limiter.totalAfter current desired < UInt64.size)
      (below : ∀ ceiling ∈ limiter.limits.maxMemoryBytes,
        limiter.totalAfter current desired ≤ ceiling.toNat) :
      Decision limiter current desired maximum
        (some ⟨true, limiter.approving current desired, .growing current desired⟩)

/-- What is left of a request once the memory's own maximum allows it. -/
theorem decision_of_allowed (limiter : Limiter) (allowed : ∀ bound ∈ maximum, desired ≤ bound) :
    Decision limiter current desired maximum (limiter.memoryGrowing current desired maximum) := by
  have withinMaximum : maximum.filter (· < desired) = none := by
    rw [Option.filter_eq_none_iff]
    intro bound bound_mem
    simpa using allowed bound bound_mem
  have delta : limiter.current.toNat + (growthDelta current desired).toNat
      = limiter.totalAfter current desired := by
    simp [totalAfter]
  have added : (if current ≤ desired then desired - current else 0) = growthDelta current desired :=
    rfl
  simp only [memoryGrowing, withinMaximum, added]
  by_cases fits : limiter.totalAfter current desired < UInt64.size
  · rw [checkedAdd_eq_some (by omega), delta]
    have totalExact : (UInt64.ofNat (limiter.totalAfter current desired)).toNat
        = limiter.totalAfter current desired := toNat_ofNat_of_lt fits
    cases configured : limiter.limits.maxMemoryBytes with
    | none =>
        exact .approved allowed fits (by simp [configured])
    | some ceiling =>
        by_cases exceeds : ceiling.toNat < limiter.totalAfter current desired
        · have isOver : ceiling < UInt64.ofNat (limiter.totalAfter current desired) := by
            rw [UInt64.lt_iff_toNat_lt, totalExact]
            exact exceeds
          simp only [Option.filter_some, isOver, decide_true, if_true]
          exact .overCeiling allowed fits ceiling configured exceeds
        · have notOver : ¬ceiling < UInt64.ofNat (limiter.totalAfter current desired) := by
            rw [UInt64.lt_iff_toNat_lt, totalExact]
            exact exceeds
          simp only [Option.filter_some, notOver, decide_false, Bool.false_eq_true, if_false]
          refine .approved allowed fits ?_
          intro other other_mem
          rw [configured, Option.mem_some_iff] at other_mem
          subst other_mem
          omega
  · rw [checkedAdd_eq_none (by omega)]
    exact .overflow allowed (by omega)

/-- The answer to a request is the one of its case. -/
theorem memoryGrowing_decision (limiter : Limiter) (current desired : UInt64)
    (maximum : Option UInt64) :
    Decision limiter current desired maximum (limiter.memoryGrowing current desired maximum) := by
  cases maximum with
  | none => exact decision_of_allowed limiter (by simp)
  | some bound =>
      by_cases exceeds : bound < desired
      · simp only [memoryGrowing, Option.filter_some, exceeds, decide_true, if_true]
        exact .overMaximum bound rfl exceeds
      · refine decision_of_allowed limiter ?_
        intro other other_mem
        rw [Option.mem_some_iff] at other_mem
        subst other_mem
        simpa using exceeds

/-- There is no answer exactly if the maximum allows the request and the exact total does not fit.
-/
theorem memoryGrowing_eq_none_iff :
    limiter.memoryGrowing current desired maximum = none ↔
      (∀ bound ∈ maximum, desired ≤ bound) ∧
        UInt64.size ≤ limiter.totalAfter current desired := by
  have decision := memoryGrowing_decision limiter current desired maximum
  generalize limiter.memoryGrowing current desired maximum = answer at decision
  cases decision with
  | overMaximum bound declared exceeds =>
      simp only [reduceCtorEq, false_iff, not_and]
      intro allowed
      have := allowed bound (by simp [declared])
      rw [UInt64.le_iff_toNat_le] at this
      rw [UInt64.lt_iff_toNat_lt] at exceeds
      omega
  | overflow allowed overflows => exact iff_of_true rfl ⟨allowed, overflows⟩
  | overCeiling allowed fits ceiling configured exceeds =>
      simp only [reduceCtorEq, false_iff, not_and]
      omega
  | approved allowed fits below =>
      simp only [reduceCtorEq, false_iff, not_and]
      omega

/-- A request is denied exactly if it is over the memory's own maximum, or if its exact total fits
into a word and is over the ceiling. -/
theorem memoryGrowing_denied_iff :
    (∃ verdict, limiter.memoryGrowing current desired maximum = some verdict ∧
        verdict.approved = false) ↔
      (∃ bound ∈ maximum, bound < desired) ∨
        limiter.totalAfter current desired < UInt64.size ∧
          ∃ ceiling ∈ limiter.limits.maxMemoryBytes,
            ceiling.toNat < limiter.totalAfter current desired := by
  have decision := memoryGrowing_decision limiter current desired maximum
  generalize limiter.memoryGrowing current desired maximum = answer at decision
  have notOverMaximum : (∀ bound ∈ maximum, desired ≤ bound) →
      ¬∃ bound ∈ maximum, bound < desired := by
    rintro allowed ⟨bound, bound_mem, exceeds⟩
    exact absurd (allowed bound bound_mem) (by simpa using exceeds)
  cases decision with
  | overMaximum bound declared exceeds =>
      exact iff_of_true ⟨_, rfl, rfl⟩ (.inl ⟨bound, declared, exceeds⟩)
  | overflow allowed overflows =>
      refine iff_of_false (by simp) ?_
      rintro (overMaximum | ⟨fits, _⟩)
      · exact notOverMaximum allowed overMaximum
      · omega
  | overCeiling allowed fits ceiling configured exceeds =>
      exact iff_of_true ⟨_, rfl, rfl⟩ (.inr ⟨fits, ceiling, configured, exceeds⟩)
  | approved allowed fits below =>
      refine iff_of_false (by simp) ?_
      rintro (overMaximum | ⟨_, ceiling, ceiling_mem, exceeds⟩)
      · exact notOverMaximum allowed overMaximum
      · have := below ceiling ceiling_mem
        omega

/-- The limiter has the given limits, it counts `bytes` bytes, now and at most so far, and its
ceiling allows them. -/
structure Balanced (limits : ResourceLimits) (limiter : Limiter) (bytes : Nat) : Prop where
  limits_eq : limiter.limits = limits
  current_eq : limiter.current.toNat = bytes
  peak_eq : limiter.peak = limiter.current
  below : ∀ ceiling ∈ limits.maxMemoryBytes, bytes ≤ ceiling.toNat

namespace Balanced

variable {bytes : Nat}

theorem ofLimits (limits : ResourceLimits) : Balanced limits (.ofLimits limits) 0 :=
  ⟨rfl, rfl, rfl, fun _ _ => Nat.zero_le _⟩

theorem settled (balanced : Balanced limits limiter bytes) :
    Balanced limits limiter.settled bytes :=
  ⟨balanced.limits_eq, balanced.current_eq, balanced.peak_eq, balanced.below⟩

theorem totalAfter_eq (balanced : Balanced limits limiter bytes) (current desired : UInt64) :
    limiter.totalAfter current desired = bytes + (desired.toNat - current.toNat) := by
  rw [totalAfter, balanced.current_eq]

/-- The peak follows the sum, which has just been raised. -/
theorem approving (balanced : Balanced limits limiter bytes)
    (fits : limiter.totalAfter current desired < UInt64.size)
    (below : ∀ ceiling ∈ limiter.limits.maxMemoryBytes,
      limiter.totalAfter current desired ≤ ceiling.toNat) :
    Balanced limits (limiter.approving current desired)
      (bytes + (desired.toNat - current.toNat)) := by
  have total := balanced.totalAfter_eq current desired
  have totalExact : (UInt64.ofNat (limiter.totalAfter current desired)).toNat
      = limiter.totalAfter current desired := toNat_ofNat_of_lt fits
  refine ⟨balanced.limits_eq, ?_, ?_, ?_⟩
  · simp only [Limiter.approving]
    omega
  · have raised : limiter.peak ≤ UInt64.ofNat (limiter.totalAfter current desired) := by
      rw [balanced.peak_eq, UInt64.le_iff_toNat_le, totalExact, balanced.current_eq]
      omega
    exact if_pos raised
  · intro ceiling ceiling_mem
    rw [← total]
    exact below ceiling (by rwa [balanced.limits_eq])

/-- An answer leaves the limiter balanced: for the larger sum if it approves, else for the old one.
-/
theorem memoryGrowing (balanced : Balanced limits limiter bytes)
    (answer : limiter.memoryGrowing current desired maximum = some verdict) :
    Balanced limits verdict.limiter
      (if verdict.approved then bytes + (desired.toNat - current.toNat) else bytes) := by
  have decision := memoryGrowing_decision limiter current desired maximum
  rw [answer] at decision
  cases decision with
  | overMaximum bound declared exceeds => exact balanced.settled
  | overCeiling allowed fits ceiling configured exceeds => exact balanced.settled
  | approved allowed fits below => exact balanced.approving fits below

end Balanced

/-- Growth that is taken back as soon as it is approved leaves no trace. -/
theorem memoryGrowFailed_approving (limiter : Limiter)
    (fits : limiter.totalAfter current desired < UInt64.size) :
    (limiter.approving current desired).memoryGrowFailed = limiter.settled := by
  have totalExact : (UInt64.ofNat (limiter.totalAfter current desired)).toNat
      = limiter.totalAfter current desired := toNat_ofNat_of_lt fits
  have total : limiter.totalAfter current desired
      = limiter.current.toNat + (growthDelta current desired).toNat := by
    simp [totalAfter]
  have restored : UInt64.ofNat (limiter.totalAfter current desired) - growthDelta current desired
      = limiter.current := by
    apply UInt64.toNat.inj
    rw [UInt64.toNat_sub_of_le _ _ (by rw [UInt64.le_iff_toNat_le]; omega)]
    omega
  simp [approving, memoryGrowFailed, settled, restored]

/-- An approved request that is taken back leaves the limiter without anything to take back and as
it was else. -/
theorem memoryGrowFailed_of_approved
    (answer : limiter.memoryGrowing current desired maximum = some verdict)
    (approved : verdict.approved = true) :
    verdict.limiter.memoryGrowFailed = limiter.settled := by
  have decision := memoryGrowing_decision limiter current desired maximum
  rw [answer] at decision
  cases decision with
  | overMaximum bound declared exceeds => simp at approved
  | overCeiling allowed fits ceiling configured exceeds => simp at approved
  | approved allowed fits below => exact memoryGrowFailed_approving limiter fits

theorem limits_memoryGrowFailed (limiter : Limiter) :
    limiter.memoryGrowFailed.limits = limiter.limits := by
  rcases limiter with ⟨limits, current, peak, _ | growth⟩ <;> rfl

theorem limits_of_memoryGrowing
    (answer : limiter.memoryGrowing current desired maximum = some verdict) :
    verdict.limiter.limits = limiter.limits := by
  have decision := limiter.memoryGrowing_decision current desired maximum
  rw [answer] at decision
  cases decision <;> rfl

end Limiter

end WasmHost
