import Mathlib
import WasmHost.Proofs.Host.Computation

/-!
# Progress of a run

A call is run for a bounded number of steps. This file relates bounds: what every step keeps holds
after any number of steps, a call that has ended within some steps ends in the same way within more,
and a call that goes on after some steps can be picked up where it stands.
-/

namespace WasmHost

variable {σ : Type}

/-- The run as far as it has come, whether or not it has ended. -/
def Progress.state : Progress σ → Run σ
  | running run => run
  | ended run _ => run

namespace Run

variable [Engine] [Sink σ] {run later : Run σ} {ending : Ending} {steps : Nat}

/-- What every step keeps holds after any number of steps. -/
theorem advance_invariant {holds : Run σ → Prop} (keeps : ∀ run, holds run → holds run.step.state)
    (steps : Nat) (start : holds run) : holds (run.advance steps).state := by
  induction steps generalizing run with
  | zero => exact start
  | succ steps ih =>
      have afterStep := keeps run start
      simp only [advance]
      split
      · rename_i stepped
        rw [stepped] at afterStep
        exact ih afterStep
      · exact afterStep

/-- Steps can be taken in two parts. -/
theorem advance_add (steps more : Nat) (run : Run σ) :
    run.advance (steps + more) =
      match run.advance steps with
      | .running later => later.advance more
      | ended => ended := by
  induction steps generalizing run with
  | zero => simp [advance]
  | succ steps ih =>
      rw [Nat.add_right_comm]
      simp only [advance]
      cases run.step with
      | running next => exact ih next
      | ended next ending => rfl

/-- A call that has ended stays ended. -/
theorem advance_ended_mono (ended : run.advance steps = .ended later ending) {more : Nat}
    (le : steps ≤ more) : run.advance more = .ended later ending := by
  obtain ⟨rest, rfl⟩ := Nat.exists_eq_add_of_le le
  rw [advance_add, ended]

/-- The step at which a call ends. -/
theorem exists_step_of_ended (ended : run.advance steps = .ended later ending) :
    ∃ before last, run.advance before = .running last ∧ last.step = .ended later ending := by
  induction steps generalizing run with
  | zero => simp [advance] at ended
  | succ steps ih =>
      simp only [advance] at ended
      split at ended
      · rename_i next stepped
        rcases ih ended with ⟨before, last, reached, step⟩
        refine ⟨before + 1, last, ?_, step⟩
        simp only [advance, stepped, reached]
      · exact ⟨0, run, rfl, ended⟩

/-- A call that ends in the next step has ended one step later. -/
theorem advance_succ_ended {last : Run σ} (reached : run.advance steps = .running last)
    (step : last.step = .ended later ending) : run.advance (steps + 1) = .ended later ending := by
  rw [advance_add, reached]
  simp only [advance, step]

end Run

namespace Instantiation

variable [Engine] [Sink σ] {host after : Host σ} {inst : Instance} {func : Func} {steps : Nat}

/-- The call of a function as it stands after some steps. -/
def callAfter (steps : Nat) (host : Host σ) (inst : Instance) (func : Func) : Progress σ :=
  Run.advance steps ⟨host, .ofCall inst func⟩

theorem outcome_call :
    (call steps inst func).outcome host =
      match callAfter steps host inst func with
      | .running run => (.error .unfinished, run.host)
      | .ended run (.returned results) =>
          (.ok ({ inst with store := run.machine.store }, .ok results), run.host)
      | .ended run (.aborted abort) =>
          (.ok ({ inst with store := run.machine.store },
            .error (.aborted (Engine.backtrace run.machine) abort)), run.host)
      | .ended run .overflow => (.error .overflow, run.host) := by
  simp only [call, HostM.outcome_bind, HostM.outcome_get, callAfter]
  cases Run.advance steps ⟨host, .ofCall inst func⟩ with
  | running run => rfl
  | ended run ending => cases ending <;> rfl

/-- The start function is called if it is one of the module; an abort of it refuses the module. -/
theorem outcome_start :
    (start steps inst).outcome host =
      match inst.module.start.bind inst.module.callee? with
      | some (.defined func) =>
          match callAfter steps host inst func with
          | .running run => (.error .unfinished, run.host)
          | .ended run (.returned _) => (.ok { inst with store := run.machine.store }, run.host)
          | .ended run (.aborted abort) =>
              (.error (.failed
                (.rejected (.failed (.aborted (Engine.backtrace run.machine) abort)))),
                run.host)
          | .ended run .overflow => (.error .overflow, run.host)
      | _ => (.ok inst, host) := by
  simp only [start]
  rcases inst.module.start.bind inst.module.callee? with _ | _ | func
  · rfl
  · rfl
  · simp only [HostM.outcome_bind, outcome_call]
    rcases callAfter steps host inst func with run | ⟨run, results | abort | _⟩ <;> rfl

/-- The start function has been run to its end, or there is none. -/
theorem start_yields {changed : Instance} (started : (start steps inst).Yields host changed after) :
    (∃ func run results, inst.module.start.bind inst.module.callee? = some (.defined func) ∧
        callAfter steps host inst func = .ended run (.returned results) ∧
        changed = { inst with store := run.machine.store } ∧ after = run.host) ∨
      changed = inst ∧ after = host := by
  rw [HostM.Yields, outcome_start] at started
  split at started
  · rename_i func named
    split at started
    · simp at started
    · rename_i run results ended
      simp only [Prod.mk.injEq, Except.ok.injEq] at started
      exact .inl ⟨func, run, results, named, ended, started.1.symm, started.2.symm⟩
    · simp at started
    · simp at started
  · simp only [Prod.mk.injEq, Except.ok.injEq] at started
    exact .inr ⟨started.1.symm, started.2.symm⟩

/-- A start function that has returned returns within more steps, too. -/
theorem start_mono {changed : Instance} {more : Nat}
    (started : (start steps inst).Yields host changed after) (le : steps ≤ more) :
    (start more inst).Yields host changed after := by
  rw [HostM.Yields, outcome_start] at started ⊢
  split at started
  · split at started
    · simp at started
    · rename_i run results ended
      have endedLater : callAfter more host inst _ = .ended run (.returned results) :=
        Run.advance_ended_mono ended le
      simpa only [endedLater] using started
    · simp at started
    · simp at started
  · exact started

end Instantiation

end WasmHost
