import Mathlib
import WasmHost.Proofs.Limiter.Growth

/-!
# Growth that is taken back

A limiter approves growth before anyone knows whether it can be carried out, and it is told later if
it could not. All that it keeps for this is one slot with the growth approved last. The slot stays
filled when the growth succeeds, so a failure that is told late, twice or without any reason meets
whatever the slot holds by then. This file proves that no row of calls can do harm in this way.

The invariant is `Sound`: the growth in the slot leads from the peak that is kept with it to the sum
counted now. Taking it back therefore never goes below zero, and the peak is the sum again
afterwards.

It also proves that growth which is taken back leaves nothing that later calls could see. The
limiter is not quite the one that it was, because an older growth in the slot is lost. That shows
only if a failure is told before the next request, so two limiters that agree apart from their slots
answer alike until then, and from then on they are the same.
-/

namespace WasmHost

namespace Limiter

/-- A call that asks for memory. -/
def Call.isRequest : Call → Bool
  | memoryGrowing _ _ _ => true
  | _ => false

/-- A call that neither asks for memory nor tells of a failure. -/
def Call.isIdle : Call → Bool
  | tableGrowing _ _ _ => true
  | counts => true
  | _ => false

/-- The limiter after a row of calls, unless one of them overflows. -/
def after? (limiter : Limiter) : List Call → Option Limiter
  | [] => some limiter
  | call :: rest =>
    match limiter.reply? call with
    | some reply => reply.limiter.after? rest
    | none => none

section Rows

variable {limiter last : Limiter} {calls : List Call}

theorem after?_cons_iff {call : Call} :
    limiter.after? (call :: calls) = some last ↔
      ∃ reply, limiter.reply? call = some reply ∧ reply.limiter.after? calls = some last := by
  simp only [after?]
  split
  · rename_i reply answered
    simp [answered]
  · rename_i overflows
    simp [overflows]

theorem after?_append_iff {front : List Call} :
    limiter.after? (front ++ calls) = some last ↔
      ∃ middle, limiter.after? front = some middle ∧ middle.after? calls = some last := by
  induction front generalizing limiter with
  | nil => simp [after?]
  | cons call rest ih =>
      simp only [List.cons_append, after?_cons_iff, ih]
      constructor
      · rintro ⟨reply, answered, middle, reached, later⟩
        exact ⟨middle, ⟨reply, answered, reached⟩, later⟩
      · rintro ⟨middle, ⟨reply, answered, reached⟩, later⟩
        exact ⟨reply, answered, middle, reached, later⟩

/-- A row without an overflow has a reply for each call, and more calls go on from where it ends. -/
theorem drop_replies_append (reached : limiter.after? calls = some last) (later : List Call) :
    (limiter.replies (calls ++ later)).drop calls.length = last.replies later := by
  induction calls generalizing limiter with
  | nil =>
      simp only [after?, Option.some.injEq] at reached
      subst reached
      rfl
  | cons call rest ih =>
      rcases after?_cons_iff.mp reached with ⟨reply, answered, reachedRest⟩
      simp only [List.cons_append, replies, answered, List.length_cons, List.drop_succ_cons]
      exact ih reachedRest

theorem reply?_of_answer {current desired : UInt64} {maximum : Option UInt64} {verdict : Verdict}
    (answer : limiter.memoryGrowing current desired maximum = some verdict) :
    limiter.reply? (.memoryGrowing current desired maximum)
      = some ⟨.approved verdict.approved, verdict.limiter, [verdict.event]⟩ := by
  simp only [reply?, answer, Option.map_some]

theorem reply?_of_isIdle (limiter : Limiter) {call : Call} (idle : call.isIdle = true) :
    ∃ reply, limiter.reply? call = some reply ∧ reply.limiter = limiter := by
  cases call with
  | memoryGrowing current desired maximum => cases idle
  | memoryGrowFailed reason => cases idle
  | tableGrowing current desired maximum => exact ⟨⟨_, limiter, _⟩, rfl, rfl⟩
  | counts => exact ⟨⟨_, limiter, _⟩, rfl, rfl⟩

theorem after?_of_isIdle (idle : ∀ call ∈ calls, call.isIdle = true) :
    limiter.after? calls = some limiter := by
  induction calls with
  | nil => rfl
  | cons call rest ih =>
      rcases reply?_of_isIdle limiter (idle call List.mem_cons_self) with ⟨reply, answered, same⟩
      apply after?_cons_iff.mpr
      refine ⟨reply, answered, ?_⟩
      rw [same]
      apply ih
      intro other other_mem
      exact idle other (List.mem_cons_of_mem call other_mem)

end Rows

/-- The limiter counts what its ceiling allows, its peak is its sum, and the growth in its slot
leads from the peak before to the sum. -/
structure Sound (limits : ResourceLimits) (limiter : Limiter) : Prop where
  balanced : limiter.Balanced limits limiter.current.toNat
  slot : ∀ growth ∈ limiter.pending,
    growth.peakBefore.toNat + growth.delta.toNat = limiter.current.toNat

namespace Sound

variable {limits : ResourceLimits} {limiter last : Limiter} {current desired : UInt64}
  {maximum : Option UInt64}

theorem ofLimits (limits : ResourceLimits) : Sound limits (.ofLimits limits) :=
  ⟨.ofLimits limits, by simp [Limiter.ofLimits]⟩

theorem settled (sound : Sound limits limiter) : Sound limits limiter.settled :=
  ⟨sound.balanced.settled, by simp [Limiter.settled]⟩

theorem approving (sound : Sound limits limiter)
    (fits : limiter.totalAfter current desired < UInt64.size)
    (below : ∀ ceiling ∈ limiter.limits.maxMemoryBytes,
      limiter.totalAfter current desired ≤ ceiling.toNat) :
    Sound limits (limiter.approving current desired) := by
  have grown := sound.balanced.approving fits below
  have total := grown.current_eq
  refine ⟨?_, ?_⟩
  · rw [total]
    exact grown
  · intro growth inSlot
    simp only [Limiter.approving, Option.mem_some_iff] at inSlot
    subst inSlot
    simp only [toNat_growthDelta, sound.balanced.peak_eq]
    omega

theorem memoryGrowing {verdict : Verdict} (sound : Sound limits limiter)
    (answer : limiter.memoryGrowing current desired maximum = some verdict) :
    Sound limits verdict.limiter := by
  have decision := limiter.memoryGrowing_decision current desired maximum
  rw [answer] at decision
  cases decision with
  | overMaximum bound declared exceeds => exact sound.settled
  | overCeiling allowed fits ceiling configured exceeds => exact sound.settled
  | approved allowed fits below => exact sound.approving fits below

/-- Taking growth back gives the peak that was kept with it, and that is the sum again. -/
theorem memoryGrowFailed (sound : Sound limits limiter) :
    Sound limits limiter.memoryGrowFailed := by
  cases pending : limiter.pending with
  | none =>
      simp only [Limiter.memoryGrowFailed, pending]
      exact sound
  | some growth =>
      have slot := sound.slot growth pending
      have restored : limiter.current - growth.delta = growth.peakBefore := by
        apply UInt64.toNat.inj
        rw [UInt64.toNat_sub_of_le _ _ (by rw [UInt64.le_iff_toNat_le]; omega)]
        omega
      simp only [Limiter.memoryGrowFailed, pending]
      refine ⟨⟨sound.balanced.limits_eq, rfl, restored.symm, ?_⟩, by simp⟩
      intro ceiling ceiling_mem
      have below := sound.balanced.below ceiling ceiling_mem
      simp only [restored]
      omega

/-- One call keeps the limiter sound, whatever it is and whoever makes it. -/
theorem reply? {call : Call} {reply : Reply} (sound : Sound limits limiter)
    (answered : limiter.reply? call = some reply) : Sound limits reply.limiter := by
  cases call with
  | memoryGrowing current desired maximum =>
      simp only [Limiter.reply?, Option.map_eq_some_iff] at answered
      rcases answered with ⟨verdict, answer, rfl⟩
      exact sound.memoryGrowing answer
  | memoryGrowFailed reason =>
      simp only [Limiter.reply?, Option.some.injEq] at answered
      subst answered
      exact sound.memoryGrowFailed
  | tableGrowing current desired maximum =>
      simp only [Limiter.reply?, Option.some.injEq] at answered
      subst answered
      exact sound
  | counts =>
      simp only [Limiter.reply?, Option.some.injEq] at answered
      subst answered
      exact sound

theorem after? {calls : List Call} (sound : Sound limits limiter)
    (reached : limiter.after? calls = some last) : Sound limits last := by
  induction calls generalizing limiter with
  | nil =>
      simp only [Limiter.after?, Option.some.injEq] at reached
      subst reached
      exact sound
  | cons call rest ih =>
      rcases after?_cons_iff.mp reached with ⟨reply, answered, reachedRest⟩
      exact ih (sound.reply? answered) reachedRest

/-- Taking growth back never subtracts more than there is. -/
theorem delta_le (sound : Sound limits limiter) : ∀ growth ∈ limiter.pending,
    growth.delta ≤ limiter.current := by
  intro growth inSlot
  have slot := sound.slot growth inSlot
  rw [UInt64.le_iff_toNat_le]
  omega

end Sound

section Slot

variable {limiter last : Limiter} {calls : List Call} {current desired : UInt64}
  {maximum : Option UInt64} {verdict : Verdict}

theorem eq_settled_of_denied
    (answer : limiter.memoryGrowing current desired maximum = some verdict)
    (denied : verdict.approved = false) : verdict.limiter = limiter.settled := by
  have decision := limiter.memoryGrowing_decision current desired maximum
  rw [answer] at decision
  cases decision with
  | overMaximum bound declared exceeds => rfl
  | overCeiling allowed fits ceiling configured exceeds => rfl
  | approved allowed fits below => simp at denied

theorem memoryGrowFailed_of_empty (empty : limiter.pending = none) :
    limiter.memoryGrowFailed = limiter := by
  simp only [memoryGrowFailed, empty]

theorem pending_memoryGrowFailed (limiter : Limiter) : limiter.memoryGrowFailed.pending = none := by
  simp only [memoryGrowFailed]
  split
  · rfl
  · rename_i empty
    exact empty

/-- Only a request can fill the slot. -/
theorem after?_of_no_request (empty : limiter.pending = none)
    (noRequest : ∀ call ∈ calls, call.isRequest = false) :
    limiter.after? calls = some limiter := by
  induction calls with
  | nil => rfl
  | cons call rest ih =>
      have noRequestRest : ∀ other ∈ rest, other.isRequest = false := by
        intro other other_mem
        exact noRequest other (List.mem_cons_of_mem call other_mem)
      have first := noRequest call List.mem_cons_self
      apply after?_cons_iff.mpr
      cases call with
      | memoryGrowing current desired maximum => simp [Call.isRequest] at first
      | memoryGrowFailed reason =>
          refine ⟨_, rfl, ?_⟩
          simp only [memoryGrowFailed_of_empty empty]
          exact ih noRequestRest
      | tableGrowing current desired maximum => exact ⟨_, rfl, ih noRequestRest⟩
      | counts => exact ⟨_, rfl, ih noRequestRest⟩

end Slot

/-- A row of calls, made from a limiter on, leaves nothing to take back: its last request was
denied, or a failure was told after it, or it has none. -/
inductive Discharged (first : Limiter) : List Call → Prop
  | unasked {calls : List Call} (noRequest : ∀ call ∈ calls, call.isRequest = false) :
      Discharged first calls
  | denied {front rest : List Call} {before : Limiter} {current desired : UInt64}
      {maximum : Option UInt64} {verdict : Verdict} (reached : first.after? front = some before)
      (answer : before.memoryGrowing current desired maximum = some verdict)
      (denied : verdict.approved = false)
      (noRequest : ∀ call ∈ rest, call.isRequest = false) :
      Discharged first (front ++ .memoryGrowing current desired maximum :: rest)
  | undone {front rest : List Call} {reason : String}
      (noRequest : ∀ call ∈ rest, call.isRequest = false) :
      Discharged first (front ++ .memoryGrowFailed reason :: rest)

/-- The last request of a row of calls was approved by the limiter `before`, and no failure has been
told since. -/
inductive Outstanding (first : Limiter) : List Call → (before : Limiter) → Prop
  | intro {front rest : List Call} {before : Limiter} {current desired : UInt64}
      {maximum : Option UInt64} {verdict : Verdict} (reached : first.after? front = some before)
      (answer : before.memoryGrowing current desired maximum = some verdict)
      (approved : verdict.approved = true) (idle : ∀ call ∈ rest, call.isIdle = true) :
      Outstanding first (front ++ .memoryGrowing current desired maximum :: rest) before

section Histories

variable {first last before : Limiter} {calls : List Call}

theorem Discharged.pending_eq_none (discharged : Discharged first calls)
    (empty : first.pending = none) (reached : first.after? calls = some last) :
    last.pending = none := by
  cases discharged with
  | unasked noRequest =>
      rw [after?_of_no_request empty noRequest, Option.some.injEq] at reached
      subst reached
      exact empty
  | denied reachedBefore answer denied noRequest =>
      rcases after?_append_iff.mp reached with ⟨middle, reachedToo, reachedRest⟩
      cases reachedBefore.symm.trans reachedToo
      rcases after?_cons_iff.mp reachedRest with ⟨reply, answered, reachedRest⟩
      cases (reply?_of_answer answer).symm.trans answered
      simp only [eq_settled_of_denied answer denied] at reachedRest
      rw [after?_of_no_request rfl noRequest, Option.some.injEq] at reachedRest
      subst reachedRest
      rfl
  | undone noRequest =>
      rcases after?_append_iff.mp reached with ⟨middle, _, reachedRest⟩
      rcases after?_cons_iff.mp reachedRest with ⟨reply, answered, reachedRest⟩
      simp only [reply?, Option.some.injEq] at answered
      subst answered
      have emptied := middle.pending_memoryGrowFailed
      simp only [after?_of_no_request emptied noRequest, Option.some.injEq] at reachedRest
      subst reachedRest
      exact emptied

theorem Outstanding.memoryGrowFailed_eq (outstanding : Outstanding first calls before)
    (reached : first.after? calls = some last) : last.memoryGrowFailed = before.settled := by
  rcases outstanding with ⟨reachedBefore, answer, approved, idle⟩
  rcases after?_append_iff.mp reached with ⟨middle, reachedToo, reachedRest⟩
  cases reachedBefore.symm.trans reachedToo
  rcases after?_cons_iff.mp reachedRest with ⟨reply, answered, reachedRest⟩
  cases (reply?_of_answer answer).symm.trans answered
  rw [after?_of_isIdle idle, Option.some.injEq] at reachedRest
  subst reachedRest
  exact memoryGrowFailed_of_approved answer approved

end Histories

end Limiter

open Limiter

/-- Whatever calls a new limiter has answered, its peak is its sum and is within its ceiling. A
failure that is told then subtracts no more than the sum. It changes nothing if the last request was
denied or has been undone, and otherwise it restores what the limiter counted before that
request. -/
theorem limiter_sound_for_any_caller {limits : ResourceLimits} {calls : List Call}
    {limiter : Limiter} (reached : (Limiter.ofLimits limits).after? calls = some limiter) :
    limiter.peak = limiter.current ∧
      (∀ ceiling ∈ limits.maxMemoryBytes, limiter.current ≤ ceiling ∧ limiter.peak ≤ ceiling) ∧
      (∀ growth ∈ limiter.pending, growth.delta ≤ limiter.current) ∧
      limiter.memoryGrowFailed.current ≤ limiter.current ∧
      (Discharged (.ofLimits limits) calls →
        limiter.memoryGrowFailed.current = limiter.current ∧
          limiter.memoryGrowFailed.peak = limiter.peak) ∧
      ∀ before, Outstanding (.ofLimits limits) calls before →
        limiter.memoryGrowFailed.current = before.current ∧
          limiter.memoryGrowFailed.peak = before.peak := by
  have sound := (Sound.ofLimits limits).after? reached
  have peak := sound.balanced.peak_eq
  refine ⟨peak, ?_, sound.delta_le, ?_, ?_, ?_⟩
  · intro ceiling configured
    have below := UInt64.le_iff_toNat_le.mpr (sound.balanced.below ceiling configured)
    rw [peak]
    exact ⟨below, below⟩
  · simp only [memoryGrowFailed]
    split
    · rename_i growth inSlot
      have enough := UInt64.le_iff_toNat_le.mp (sound.delta_le growth inSlot)
      rw [UInt64.le_iff_toNat_le, UInt64.toNat_sub_of_le _ _ (sound.delta_le growth inSlot)]
      omega
    · exact UInt64.le_refl _
  · intro discharged
    rw [memoryGrowFailed_of_empty (discharged.pending_eq_none rfl reached)]
    exact ⟨rfl, rfl⟩
  · intro before outstanding
    rw [outstanding.memoryGrowFailed_eq reached]
    exact ⟨rfl, rfl⟩

/-- The limiter counts a page, is asked for another one that its ceiling forbids, and is then told
of two failures. Neither of them moves the sum, because the request was denied. -/
theorem fullLimiter_sound :
    ∃ limiter,
      (Limiter.ofLimits { maxMemoryBytes := some 65536 }).after?
          [.memoryGrowing 0 65536 none, .memoryGrowing 65536 131072 none,
            .memoryGrowFailed "too late"] = some limiter ∧
        limiter.peak = limiter.current ∧ limiter.current ≤ 65536 ∧
        limiter.memoryGrowFailed.current = 65536 ∧ limiter.memoryGrowFailed.peak = 65536 := by
  let first := Limiter.ofLimits { maxMemoryBytes := some 65536 }
  let requests : List Call := [.memoryGrowing 0 65536 none, .memoryGrowing 65536 131072 none]
  let limiter : Limiter := ⟨{ maxMemoryBytes := some 65536 }, 65536, 65536, none⟩
  have reached : first.after? (requests ++ [.memoryGrowFailed "too late"]) = some limiter := by
    decide
  have discharged : Discharged first (requests ++ [.memoryGrowFailed "too late"]) :=
    .undone (by simp)
  rcases limiter_sound_for_any_caller reached with ⟨peak, below, _, _, unmoved, _⟩
  exact ⟨limiter, reached, peak, (below 65536 rfl).1, unmoved discharged⟩

namespace Limiter

/-- What is seen of a reply: the answer, the bytes counted now and at most so far, and the log. -/
def Reply.shown (reply : Reply) : Answer × UInt64 × UInt64 × List Event :=
  (reply.answer, reply.limiter.current, reply.limiter.peak, reply.events)

/-- Every failure that a row of calls tells comes after a request of the row. -/
def FailuresFollowRequests (calls : List Call) : Prop :=
  ∀ front reason rest, calls = front ++ .memoryGrowFailed reason :: rest →
    ∃ call ∈ front, call.isRequest = true

theorem FailuresFollowRequests.tail {call : Call} {rest : List Call}
    (follows : FailuresFollowRequests (call :: rest)) (noRequest : call.isRequest = false) :
    FailuresFollowRequests rest := by
  intro front reason after parts
  rcases follows (call :: front) reason after (by rw [parts, List.cons_append]) with
    ⟨request, request_mem, isRequest⟩
  rcases List.mem_cons.mp request_mem with rfl | inFront
  · rw [noRequest] at isRequest
    simp at isRequest
  · exact ⟨request, inFront, isRequest⟩

/-- A request empties the slot before it is decided. -/
theorem memoryGrowing_settled (limiter : Limiter) (current desired : UInt64)
    (maximum : Option UInt64) :
    limiter.settled.memoryGrowing current desired maximum
      = limiter.memoryGrowing current desired maximum :=
  rfl

/-- An empty slot shows in no reply as long as failures come after requests. -/
theorem replies_settled (limiter : Limiter) {calls : List Call}
    (follows : FailuresFollowRequests calls) :
    (limiter.settled.replies calls).map (Option.map Reply.shown)
      = (limiter.replies calls).map (Option.map Reply.shown) := by
  induction calls with
  | nil => rfl
  | cons call rest ih =>
      cases call with
      | memoryGrowing current desired maximum =>
          -- From the first request on the two limiters are the same.
          simp only [replies, reply?, memoryGrowing_settled]
      | memoryGrowFailed reason =>
          rcases follows [] reason rest rfl with ⟨request, request_mem, _⟩
          simp at request_mem
      | tableGrowing current desired maximum =>
          have later := ih (follows.tail rfl)
          simp only [replies, reply?, List.map_cons, later]
          rfl
      | counts =>
          have later := ih (follows.tail rfl)
          simp only [replies, reply?, List.map_cons, later]
          rfl

/-- A request, calls that do not touch the slot, and the news that the growth failed. -/
def failedAttempt (current desired : UInt64) (maximum : Option UInt64) (between : List Call)
    (reason : String) : List Call :=
  .memoryGrowing current desired maximum :: between ++ [.memoryGrowFailed reason]

theorem after?_failedAttempt {limiter : Limiter} {current desired : UInt64}
    {maximum : Option UInt64} {verdict : Verdict} {between : List Call}
    (answer : limiter.memoryGrowing current desired maximum = some verdict)
    (approved : verdict.approved = true) (idle : ∀ call ∈ between, call.isIdle = true)
    (reason : String) :
    limiter.after? (failedAttempt current desired maximum between reason)
      = some limiter.settled := by
  rw [failedAttempt, List.cons_append]
  refine after?_cons_iff.mpr ⟨_, reply?_of_answer answer, ?_⟩
  refine after?_append_iff.mpr ⟨verdict.limiter, after?_of_isIdle idle, ?_⟩
  rw [← memoryGrowFailed_of_approved answer approved]
  rfl

end Limiter

/-- After any calls that a new limiter has answered, growth that it approves and that then fails is
not seen any more. Later calls get the same answers, see the same sum and the same peak and leave
the same log as if the attempt had not been made, and they overflow at the same call, provided that
the next failure that they tell comes after a request of theirs. -/
theorem failed_growth_unobservable {limits : ResourceLimits} {calls between later : List Call}
    {limiter : Limiter} {current desired : UInt64} {maximum : Option UInt64} {verdict : Verdict}
    (reached : (Limiter.ofLimits limits).after? calls = some limiter)
    (answer : limiter.memoryGrowing current desired maximum = some verdict)
    (approved : verdict.approved = true) (idle : ∀ call ∈ between, call.isIdle = true)
    (reason : String) (follows : FailuresFollowRequests later) :
    (((Limiter.ofLimits limits).replies
          (calls ++ failedAttempt current desired maximum between reason ++ later)).drop
        (calls ++ failedAttempt current desired maximum between reason).length).map
          (Option.map Reply.shown)
      = (((Limiter.ofLimits limits).replies (calls ++ later)).drop calls.length).map
          (Option.map Reply.shown) := by
  have attempted : (Limiter.ofLimits limits).after?
      (calls ++ failedAttempt current desired maximum between reason) = some limiter.settled :=
    after?_append_iff.mpr ⟨limiter, reached, after?_failedAttempt answer approved idle reason⟩
  rw [drop_replies_append attempted, drop_replies_append reached]
  exact limiter.replies_settled follows

/-- A limiter that has approved a page approves three more, which fail. The request that follows,
and the failure after it, are answered as if the three pages had never been asked for. -/
theorem threePages_unobservable :
    FailuresFollowRequests [.counts, .memoryGrowing 65536 131072 none, .memoryGrowFailed "again"] ∧
      (((Limiter.ofLimits { maxMemoryBytes := some 262144 }).replies
          ([.memoryGrowing 0 65536 none]
            ++ failedAttempt 65536 262144 none [.tableGrowing 0 10 none] "no room"
            ++ [.counts, .memoryGrowing 65536 131072 none, .memoryGrowFailed "again"])).drop 4).map
              (Option.map Reply.shown)
        = (((Limiter.ofLimits { maxMemoryBytes := some 262144 }).replies
            [.memoryGrowing 0 65536 none, .counts, .memoryGrowing 65536 131072 none,
              .memoryGrowFailed "again"]).drop 1).map (Option.map Reply.shown) := by
  let limits : ResourceLimits := { maxMemoryBytes := some 262144 }
  let limiter : Limiter := ⟨limits, 65536, 65536, some ⟨65536, 0⟩⟩
  have reached : (Limiter.ofLimits limits).after? [.memoryGrowing 0 65536 none] = some limiter := by
    decide
  have answer : limiter.memoryGrowing 65536 262144 none
      = some ⟨true, ⟨limits, 262144, 262144, some ⟨196608, 65536⟩⟩, .growing 65536 262144⟩ := by
    decide
  have follows : FailuresFollowRequests
      [.counts, .memoryGrowing 65536 131072 none, .memoryGrowFailed "again"] := by
    intro front reason rest parts
    rcases front with _ | ⟨first, _ | ⟨second, front⟩⟩
    · simp at parts
    · simp at parts
    · simp only [List.cons_append, List.cons.injEq] at parts
      exact ⟨second, by simp, by rw [← parts.2.1]; rfl⟩
  have idle : ∀ call ∈ [Call.tableGrowing 0 10 none], call.isIdle = true := by
    intro call call_mem
    rw [List.mem_singleton] at call_mem
    subst call_mem
    rfl
  exact ⟨follows, failed_growth_unobservable reached answer rfl idle "no room" follows⟩

end WasmHost
