import Mathlib
import WasmHost.Proofs.Host.Coupling
import WasmHost.Proofs.Host.Transcript

/-!
# The peak as a ceiling

The peak in the report of a run is the ceiling that the run needs. Under this ceiling, or under a
higher one, the run completes as it does without any, with the same numbers printed and the same
report. Under a lower one no run completes with this peak.

The limiters of the two runs do not always answer the same. Without a ceiling the limiter approves
growth that the engine cannot provide, with one it may deny the growth. But the approval is taken
back at once, which also restores the peak, so the limiters then differ in the ceiling only. Growth
over the ceiling that the engine does provide is never taken back. It shows in the peak for the rest
of the run, so it cannot have happened in a run whose peak is at most the ceiling.
-/

namespace WasmHost

open Instantiation

variable {σ : Type}

/-- The limits with another ceiling, or with none. -/
def ResourceLimits.withCeiling (limits : ResourceLimits) (ceiling : Option UInt64) :
    ResourceLimits :=
  { limits with maxMemoryBytes := ceiling }

/-- The settings with another ceiling, or with none. -/
def Config.withCeiling (config : Config) (ceiling : Option UInt64) : Config :=
  { config with limits := config.limits.withCeiling ceiling }

namespace Limiter

/-- The limiter with a ceiling in place of its own. -/
def under (limiter : Limiter) (ceiling : UInt64) : Limiter :=
  { limiter with limits := limiter.limits.withCeiling (some ceiling) }

variable {limiter : Limiter} {current desired : UInt64} {maximum : Option UInt64}
  {verdict : Verdict}

theorem memoryGrowFailed_under (limiter : Limiter) (ceiling : UInt64) :
    (limiter.under ceiling).memoryGrowFailed = limiter.memoryGrowFailed.under ceiling := by
  rcases limiter with ⟨limits, current, peak, _ | growth⟩ <;> rfl

/-- The peak is not lowered by an approval, and it is at least the new sum. -/
theorem le_peak_approving (limiter : Limiter) (current desired : UInt64) :
    limiter.peak ≤ (limiter.approving current desired).peak ∧
      (limiter.approving current desired).current ≤ (limiter.approving current desired).peak := by
  have raised : ∀ peak total : UInt64, peak ≤ max peak total ∧ total ≤ max peak total := by
    intro peak total
    change peak ≤ (if peak ≤ total then total else peak) ∧
      total ≤ if peak ≤ total then total else peak
    split
    · rename_i le
      exact ⟨le, UInt64.le_refl total⟩
    · rename_i notLe
      exact ⟨UInt64.le_refl peak, UInt64.le_of_lt (UInt64.not_le.mp notLe)⟩
  exact raised limiter.peak _

theorem current_le_peak_of_approved
    (answer : limiter.memoryGrowing current desired maximum = some verdict)
    (approved : verdict.approved = true) : verdict.limiter.current ≤ verdict.limiter.peak := by
  have decision := limiter.memoryGrowing_decision current desired maximum
  rw [answer] at decision
  cases decision with
  | overMaximum bound declared exceeds => simp at approved
  | overCeiling allowed fits ceiling configured exceeds => simp at approved
  | approved allowed fits below => exact (limiter.le_peak_approving current desired).2

/-- A ceiling denies what is approved without it if the sum is then over the ceiling, and changes no
other answer. -/
theorem memoryGrowing_under (uncapped : limiter.limits.maxMemoryBytes = none) (ceiling : UInt64)
    (current desired : UInt64) (maximum : Option UInt64) :
    (limiter.under ceiling).memoryGrowing current desired maximum =
      (limiter.memoryGrowing current desired maximum).map fun verdict =>
        if verdict.approved = true ∧ ceiling < verdict.limiter.current then
          ⟨false, limiter.settled.under ceiling, .growthOverCeiling current desired ceiling⟩
        else { verdict with limiter := verdict.limiter.under ceiling } := by
  simp only [memoryGrowing, under, ResourceLimits.withCeiling]
  cases maximum.filter (· < desired) with
  | some bound => simp
  | none =>
      simp only [uncapped, Option.filter_none]
      cases checkedAdd limiter.current (if current ≤ desired then desired - current else 0) with
      | none => rfl
      | some total =>
          by_cases exceeds : ceiling < total
          · simp [exceeds, settled, Option.filter_some]
          · simp [exceeds, Option.filter_some]

end Limiter

/-- The second host has a ceiling where the first one has none. They agree in all else but those
events of the log that are about growth. -/
structure Host.Capped (ceiling : UInt64) (free capped : Host σ) : Prop where
  uncapped : free.limiter.limits.maxMemoryBytes = none
  limiter : capped.limiter = free.limiter.under ceiling
  calls : capped.calls = free.calls
  sink : capped.sink = free.sink
  logged : capped.logged = free.logged

namespace Host.Capped

variable {ceiling : UInt64} {free capped : Host σ}

theorem fresh (limits : ResourceLimits) (ceiling : UInt64) (host : Host σ) :
    Capped ceiling (host.fresh (limits.withCeiling none))
      (host.fresh (limits.withCeiling (some ceiling))) :=
  ⟨rfl, rfl, rfl, rfl, rfl⟩

theorem record (hosts : Capped ceiling free capped) (event : Event) :
    Capped ceiling (free.record event) (capped.record event) := by
  refine ⟨hosts.uncapped, hosts.limiter, hosts.calls, hosts.sink, ?_⟩
  have loggedFree : (free.record event).logged = free.logged ++ _ := Host.logged_push rfl
  have loggedCapped : (capped.record event).logged = capped.logged ++ _ := Host.logged_push rfl
  rw [loggedFree, loggedCapped, hosts.logged]

theorem emit [Sink σ] (hosts : Capped ceiling free capped) (value : Int32) :
    (free.emit value).1 = (capped.emit value).1 ∧
      Capped ceiling (free.emit value).2 (capped.emit value).2 := by
  have loggedFree : (free.emit value).2.logged = free.logged ++ _ := Host.logged_push rfl
  have loggedCapped : (capped.emit value).2.logged = capped.logged ++ _ := Host.logged_push rfl
  refine ⟨?_, hosts.uncapped, hosts.limiter, ?_, ?_, ?_⟩
  · simp only [Host.emit, hosts.sink]
  · simp only [Host.emit, hosts.calls]
  · simp only [Host.emit, hosts.sink]
  · rw [loggedFree, loggedCapped, hosts.logged]

theorem growthFailed [Engine] (hosts : Capped ceiling free capped) (desired : Nat) :
    Capped ceiling (free.growthFailed desired) (capped.growthFailed desired) := by
  refine ⟨?_, ?_, hosts.calls, hosts.sink, ?_⟩
  · simp only [Host.growthFailed, Limiter.limits_memoryGrowFailed]
    exact hosts.uncapped
  · simp only [Host.growthFailed, hosts.limiter, Limiter.memoryGrowFailed_under]
  · have loggedFree : (free.growthFailed desired).logged = free.logged :=
      Host.logged_of_quiet rfl rfl
    have loggedCapped : (capped.growthFailed desired).logged = capped.logged :=
      Host.logged_of_quiet rfl rfl
    rw [loggedFree, loggedCapped, hosts.logged]

/-- The limiter with the ceiling answers the same, or it denies growth that puts the peak of the
other one over the ceiling until it is taken back. -/
theorem askMemory [Engine] (hosts : Capped ceiling free capped) (current desired : Nat)
    (maximum : Option Nat) :
    Host.Answers (Capped ceiling) (fun limiter => ceiling < limiter.peak) desired
      (free.askMemory current desired maximum) (capped.askMemory current desired maximum) := by
  simp only [Host.askMemory, hosts.limiter, Limiter.memoryGrowing_under hosts.uncapped]
  cases answer : free.limiter.memoryGrowing (.ofNat current) (.ofNat desired)
      (maximum.map .ofNat) with
  | none => exact .overflow
  | some verdict =>
      have quiet := Run.argument?_of_memoryGrowing answer
      have loggedFree : ({ free with
          limiter := verdict.limiter
          events := free.events.push verdict.event } : Host σ).logged = free.logged :=
        Host.logged_of_quiet rfl quiet
      have uncapped : verdict.limiter.limits.maxMemoryBytes = none := by
        rw [Limiter.limits_of_memoryGrowing answer, hosts.uncapped]
      simp only [Option.map_some]
      split
      -- The only case in which the ceiling makes a difference.
      · rename_i denied
        rcases denied with ⟨approved, exceeds⟩
        have takenBack := Limiter.memoryGrowFailed_of_approved answer approved
        have underPeak := Limiter.current_le_peak_of_approved answer approved
        rw [approved]
        refine .undone (UInt64.lt_of_lt_of_le exceeds underPeak)
          ⟨?_, ?_, hosts.calls, hosts.sink, ?_⟩
        · simp only [Host.growthFailed, takenBack]
          exact hosts.uncapped
        · simp only [Host.growthFailed, takenBack]
        · refine (Host.logged_of_quiet rfl rfl).trans (hosts.logged.trans ?_)
          exact ((Host.logged_of_quiet rfl rfl).trans loggedFree).symm
      · refine .same verdict.approved ⟨uncapped, rfl, hosts.calls, hosts.sink, ?_⟩
        exact (Host.logged_of_quiet rfl quiet).trans (hosts.logged.trans loggedFree.symm)

/-- The run without a ceiling and the run under one, as long as the peak of the first one is at most
the ceiling. -/
def coupling [Engine] [Sink σ] (ceiling : UInt64) : Coupling σ σ where
  related := Capped ceiling
  beyond limiter := ceiling < limiter.peak
  calls hosts := hosts.calls.symm
  current hosts := by rw [hosts.limiter]; rfl
  peak hosts := by rw [hosts.limiter]; rfl
  record := record
  emit := emit
  askMemory := askMemory
  growthFailed := growthFailed
  askTable hosts desired := by simp only [Host.askTable, hosts.limiter]; rfl
  beyond_settled parted := parted
  beyond_approving parted current desired :=
    UInt64.lt_of_lt_of_le parted (Limiter.le_peak_approving _ current desired).1

end Host.Capped

section Runs

variable [Engine] [Sink σ] {steps : Nat} {config : Config} {bytes : ByteArray}
  {host after : Host σ} {completion : Completion}

/-- A run that completes without a ceiling completes under every ceiling that its peak is not over.
-/
theorem runBytes_capped {ceiling : UInt64}
    (completes : (runBytes steps (config.withCeiling none) bytes).Yields host completion after)
    (enough : completion.peakBytes ≤ ceiling) :
    ∃ capped, (runBytes steps (config.withCeiling (some ceiling)) bytes).Yields host completion
        capped ∧ after.Capped ceiling capped := by
  have report := runBytes_report completes
  have freeOutcome : (runFresh steps config bytes).outcome
      (host.fresh (config.limits.withCeiling none)) = (.ok completion, after) := by
    rw [← completes, outcome_runBytes]
    rfl
  have agree := (Host.Capped.coupling ceiling : Coupling σ σ).agree_runFresh steps config bytes
  rcases agree.same (Host.Capped.fresh config.limits ceiling host) with parted | ⟨same, hosts⟩
  · rw [freeOutcome] at parted
    have exceeds : ceiling < after.limiter.peak := parted
    rw [report] at enough
    exact absurd exceeds (UInt64.not_lt.mpr enough)
  · rw [freeOutcome] at same hosts
    refine ⟨_, ?_, hosts⟩
    rw [HostM.Yields, outcome_runBytes]
    exact Prod.ext same.symm rfl

/-- The peak of a completed run is not over its ceiling. -/
theorem peakBytes_le_ceiling
    (completes : (runBytes steps config bytes).Yields host completion after)
    {ceiling : UInt64} (configured : config.limits.maxMemoryBytes = some ceiling) :
    completion.peakBytes ≤ ceiling := by
  rcases HostM.bind_yields_iff.mp completes with ⟨inst, instantiated, instantiates, completes⟩
  rcases HostM.bind_yields_iff.mp completes with ⟨entry, resolved, resolves, invoked⟩
  rcases invoke_yields invoked with ⟨run, results, ended, rfl⟩
  have calls : Calls config bytes host _ inst entry.func := .entry instantiates resolves
  have accounted := callAfter_accounted inst calls.accounted steps entry.func
  rw [ended] at accounted
  have balanced : run.host.limiter.Balanced config.limits run.machine.store.memoryBytes :=
    accounted.balanced
  have below := balanced.below ceiling configured
  rw [← balanced.current_eq, ← balanced.peak_eq] at below
  exact UInt64.le_iff_toNat_le.mpr below

end Runs

/-- A run that completes without a ceiling completes under every ceiling from its peak on, with the
same report, the same numbers printed and the same sink. Under a lower ceiling no run completes with
this peak. -/
theorem peak_suffices_as_ceiling [Engine] [Sink σ] {steps : Nat} {files : Files} {path : String}
    {config : Config} {host after : Host σ} {completion : Completion}
    (completes : (run steps files path (config.withCeiling none)).Yields host completion after) :
    (∀ ceiling, completion.peakBytes ≤ ceiling →
        ∃ capped, (run steps files path (config.withCeiling (some ceiling))).Yields host completion
            capped ∧
          capped.sink = after.sink ∧ capped.logged = after.logged) ∧
      ∀ ceiling < completion.peakBytes, ∀ (more : Nat) (other last : Host σ) (report : Completion),
        (run more files path (config.withCeiling (some ceiling))).Yields other report last →
          report.peakBytes ≠ completion.peakBytes := by
  refine ⟨?_, ?_⟩
  · intro ceiling enough
    rw [run_eq] at completes
    rcases HostM.bind_yields_iff.mp completes with ⟨artifact, loaded, loads, completes⟩
    rcases runBytes_capped completes enough with ⟨capped, completesToo, hosts⟩
    refine ⟨capped, ?_, hosts.sink, hosts.logged⟩
    rw [run_eq]
    exact HostM.bind_yields_iff.mpr ⟨artifact, loaded, loads, completesToo⟩
  · intro ceiling lower more other last report completesLow same
    rw [run_eq] at completesLow
    rcases HostM.bind_yields_iff.mp completesLow with ⟨artifact, loaded, _, completesLow⟩
    have below := peakBytes_le_ceiling completesLow rfl
    rw [same] at below
    exact absurd lower (UInt64.not_lt.mpr below)

/-- A module with a memory of one page and 64-bit addresses. Its entry point first asks for more
than the engine can provide, then for one page, and prints both answers. -/
def greedyModule : ByteArray :=
  ⟨#[0, 97, 115, 109, 1, 0, 0, 0, 1, 8, 2, 96, 1, 127, 0, 96, 0, 0, 2, 15, 1, 3, 101, 110, 118, 7,
    106, 115, 95, 112, 117, 116, 110, 0, 0, 3, 2, 1, 1, 5, 3, 1, 4, 1, 7, 17, 1, 13, 101, 120, 112,
    111, 114, 116, 101, 100, 95, 109, 97, 105, 110, 0, 1, 10, 22, 1, 20, 0, 66, 128, 128, 128, 128,
    8, 64, 0, 167, 16, 0, 66, 1, 64, 0, 167, 16, 0, 11]⟩

section

open PlainEngine

/-- Without a ceiling the first growth is approved and taken back, and under a ceiling of two pages
it is denied. The module prints minus one and one in both cases. -/
theorem greedyModule_peak_suffices :
    ∃ completion : Completion, completion.peakBytes = 131072 ∧
      (∃ capped : Host Recorder,
        (run 20 (fun _ => .ok (.ok greedyModule)) "/" (Config.withCeiling {} (some 131072))).Yields
            { sink := ({} : Recorder) } completion capped ∧
          capped.logged = [-1, 1]) ∧
      ∀ (last : Host Recorder) (report : Completion),
        (run 20 (fun _ => .ok (.ok greedyModule)) "/" (Config.withCeiling {} (some 131071))).Yields
            { sink := ({} : Recorder) } report last →
          report.peakBytes ≠ 131072 := by
  have completes : (run 20 (fun _ => .ok (.ok greedyModule)) "/"
      (Config.withCeiling {} none)).succeedsWith { sink := ({} : Recorder) }
        (fun completion after => completion.peakBytes = 131072 ∧ after.logged = [-1, 1])
        = true := by
    decide +kernel
  rcases HostM.exists_of_succeedsWith completes with ⟨completion, after, yields, seen⟩
  simp only [decide_eq_true_eq] at seen
  rcases seen with ⟨peak, logged⟩
  rcases peak_suffices_as_ceiling yields with ⟨enough, tooLow⟩
  rcases enough 131072 (UInt64.le_of_eq peak) with ⟨capped, completesToo, _, loggedToo⟩
  refine ⟨completion, peak, ⟨capped, completesToo, loggedToo.trans logged⟩, ?_⟩
  intro last report completesLow
  rw [← peak]
  exact tooLow 131071 (by rw [peak]; decide) 20 _ last report completesLow

end

end WasmHost
