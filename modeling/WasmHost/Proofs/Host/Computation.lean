import Mathlib
import WasmHost.Host.Instance

/-!
# Computations with a host

A computation with a host either yields a value or stops, and leaves a host behind in both cases.
This file gives names to the two cases and takes computations apart along `>>=`, so that the proofs
about the stages of a run never look into the monad again.

Most computations stop only by failing with an error. The others, which may overflow or run out of
steps, are those that ask for memory and those that run code.

Much of instantiation does not concern the host at all: constants are evaluated and segments are
copied whatever the limiter and the sink are. `HostFree` says so for computations that exist for
every kind of sink. Such a computation has one result, and hosts pass through it unchanged.

`Sequential` is what this has in common with other properties of such computations: it holds of a
value and of a refusal, and it is kept by sequences.
-/

namespace WasmHost

namespace HostM

variable {σ α β : Type}

/-- The result of a computation that starts with the given host, and the host after it. -/
def outcome (x : HostM σ α) (host : Host σ) : Except Stop α × Host σ :=
  x.run.run host

/-- The computation succeeds with a value. -/
def Yields (x : HostM σ α) (host : Host σ) (value : α) (after : Host σ) : Prop :=
  x.outcome host = (.ok value, after)

/-- The computation stops short of a value. -/
def Stops (x : HostM σ α) (host : Host σ) (stop : Stop) (after : Host σ) : Prop :=
  x.outcome host = (.error stop, after)

/-- Whether the computation succeeds with a value and a host that pass a test. -/
def succeedsWith (x : HostM σ α) (host : Host σ) (test : α → Host σ → Bool) : Bool :=
  match x.outcome host with
  | (.ok value, after) => test value after
  | (.error _, _) => false

theorem exists_of_succeedsWith {x : HostM σ α} {host : Host σ} {test : α → Host σ → Bool}
    (succeeds : x.succeedsWith host test = true) :
    ∃ value after, x.Yields host value after ∧ test value after = true := by
  simp only [succeedsWith] at succeeds
  split at succeeds
  · rename_i value after equation
    exact ⟨value, after, equation, succeeds⟩
  · simp at succeeds

section Primitives

variable (host : Host σ)

@[simp]
theorem outcome_pure (value : α) : (pure value : HostM σ α).outcome host = (.ok value, host) :=
  rfl

@[simp]
theorem outcome_throw (stop : Stop) : (throw stop : HostM σ α).outcome host = (.error stop, host) :=
  rfl

@[simp]
theorem outcome_get : (get : HostM σ (Host σ)).outcome host = (.ok host, host) :=
  rfl

@[simp]
theorem outcome_set (other : Host σ) : (set other : HostM σ Unit).outcome host = (.ok (), other) :=
  rfl

@[simp]
theorem outcome_modify (change : Host σ → Host σ) :
    (modify change : HostM σ Unit).outcome host = (.ok (), change host) :=
  rfl

@[simp]
theorem outcome_record (event : Event) :
    (record event : HostM σ Unit).outcome host = (.ok (), host.record event) :=
  rfl

@[simp]
theorem outcome_fail (error : Error) :
    (fail error : HostM σ α).outcome host = (.error (.failed error), host) :=
  rfl

@[simp]
theorem outcome_reject [Engine] (fault : InstantiationFault) :
    (reject fault : HostM σ α).outcome host = (.error (.failed (.rejected fault)), host) :=
  rfl

theorem outcome_bind (x : HostM σ α) (next : α → HostM σ β) :
    (x >>= next).outcome host =
      match x.outcome host with
      | (.ok value, after) => (next value).outcome after
      | (.error stop, after) => (.error stop, after) := by
  change (match x.outcome host with | (result, after) => ExceptT.bindCont next result after) = _
  rcases x.outcome host with ⟨_ | _, after⟩ <;> rfl

end Primitives

section Sequences

variable {x : HostM σ α} {next : α → HostM σ β} {host after : Host σ} {value : β} {stop : Stop}

/-- A sequence succeeds exactly when its parts do, one after the other. -/
theorem bind_yields_iff :
    (x >>= next).Yields host value after ↔
      ∃ first middle, x.Yields host first middle ∧ (next first).Yields middle value after := by
  simp only [Yields, outcome_bind]
  rcases x.outcome host with ⟨_ | first, middle⟩ <;> simp

/-- A sequence stops in its first part, or in the rest after the first part succeeded. -/
theorem bind_stops_iff :
    (x >>= next).Stops host stop after ↔
      x.Stops host stop after ∨
        ∃ first middle, x.Yields host first middle ∧ (next first).Stops middle stop after := by
  simp only [Yields, Stops, outcome_bind]
  rcases x.outcome host with ⟨_ | first, middle⟩ <;> simp

/-- What follows a computation that has succeeded goes on with its value and its host. -/
theorem Yields.outcome_bind {value : α} (yields : x.Yields host value after) :
    (x >>= next).outcome host = (next value).outcome after := by
  rw [HostM.outcome_bind, yields]

theorem Stops.bind (stops : x.Stops host stop after) : (x >>= next).Stops host stop after :=
  bind_stops_iff.mpr (.inl stops)

/-- A row of computations stops at the first one that does. -/
theorem mapM_stops_iff {γ : Type} {each : γ → HostM σ β} {items : List γ} :
    (items.mapM each).Stops host stop after ↔
      ∃ done item rest values middle, items = done ++ item :: rest ∧
        (done.mapM each).Yields host values middle ∧ (each item).Stops middle stop after := by
  constructor
  · intro stops
    induction items generalizing host with
    | nil => simp [Stops] at stops
    | cons item rest ih =>
        rw [List.mapM_cons] at stops
        rcases bind_stops_iff.mp stops with stopsFirst | ⟨value, middle, yields, stops⟩
        · exact ⟨[], item, rest, [], host, rfl, rfl, stopsFirst⟩
        · rcases bind_stops_iff.mp stops with stopsRest | ⟨values, last, _, stops⟩
          · rcases ih stopsRest with ⟨done, other, others, values, later, rfl, doneYields, stops⟩
            refine ⟨item :: done, other, others, value :: values, later, rfl, ?_, stops⟩
            rw [List.mapM_cons]
            refine bind_yields_iff.mpr ⟨value, middle, yields, ?_⟩
            exact bind_yields_iff.mpr ⟨values, later, doneYields, rfl⟩
          · simp [Stops] at stops
  · rintro ⟨done, item, rest, values, middle, rfl, yields, stops⟩
    rw [List.mapM_append]
    refine bind_stops_iff.mpr (.inr ⟨values, middle, yields, ?_⟩)
    rw [List.mapM_cons, bind_assoc]
    exact bind_stops_iff.mpr (.inl stops)

/-- Each value that a row of computations yields is yielded by the computation at its place. -/
theorem forall₂_of_mapM_yields {γ : Type} {each : γ → HostM σ β} {items : List γ} {values : List β}
    (yields : (items.mapM each).Yields host values after) :
    List.Forall₂ (fun item value => ∃ before later, (each item).Yields before value later) items
      values := by
  induction items generalizing host values with
  | nil =>
      simp only [List.mapM_nil, Yields, outcome_pure, Prod.mk.injEq, Except.ok.injEq] at yields
      rw [← yields.1]
      exact .nil
  | cons item rest ih =>
      rw [List.mapM_cons] at yields
      rcases bind_yields_iff.mp yields with ⟨value, middle, yieldsFirst, yields⟩
      rcases bind_yields_iff.mp yields with ⟨others, last, yieldsRest, yields⟩
      simp only [Yields, outcome_pure, Prod.mk.injEq, Except.ok.injEq] at yields
      rcases yields with ⟨rfl, rfl⟩
      exact .cons ⟨host, middle, yieldsFirst⟩ (ih yieldsRest)

/-- What holds of each value that a row of computations can yield holds of all that it does
yield. -/
theorem forall_of_mapM_yields {γ : Type} {each : γ → HostM σ β} {items : List γ} {values : List β}
    {holds : β → Prop} (every : ∀ item ∈ items, ∀ host value after,
      (each item).Yields host value after → holds value)
    (yields : (items.mapM each).Yields host values after) : ∀ value ∈ values, holds value := by
  have pairs := forall₂_of_mapM_yields yields
  clear yields
  induction pairs with
  | nil => simp
  | cons first _ ih =>
      rcases first with ⟨before, later, yieldsFirst⟩
      rw [List.forall_mem_cons] at every ⊢
      exact ⟨every.1 _ _ _ yieldsFirst, ih every.2⟩

end Sequences

/-- The computation stops only by failing with an error. -/
def OnlyFails (x : HostM σ α) : Prop :=
  ∀ host stop after, x.Stops host stop after → ∃ error, stop = .failed error

namespace OnlyFails

theorem pure (value : α) : OnlyFails (Pure.pure value : HostM σ α) := by
  intro host stop after stops
  simp [Stops] at stops

theorem ofGet : OnlyFails (get : HostM σ (Host σ)) := by
  intro host stop after stops
  simp [Stops] at stops

theorem ofModify (change : Host σ → Host σ) : OnlyFails (modify change : HostM σ Unit) := by
  intro host stop after stops
  simp [Stops] at stops

theorem fail (error : Error) : OnlyFails (HostM.fail error : HostM σ α) := by
  intro host stop after stops
  simp only [Stops, outcome_fail, Prod.mk.injEq, Except.error.injEq] at stops
  exact ⟨error, stops.1.symm⟩

theorem bind {x : HostM σ α} {next : α → HostM σ β} (first : OnlyFails x)
    (rest : ∀ value, OnlyFails (next value)) : OnlyFails (x >>= next) := by
  intro host stop after stops
  rcases bind_stops_iff.mp stops with stopsFirst | ⟨value, middle, _, stopsRest⟩
  · exact first host stop after stopsFirst
  · exact rest value middle stop after stopsRest

end OnlyFails

end HostM

/-- A computation that exists for every kind of sink and does not concern the host: it has one
result, a value or an error, and leaves every host as it was. -/
def HostFree {α : Type} (x : (σ : Type) → HostM σ α) : Prop :=
  ∃ result : Except Error α, ∀ (σ : Type) (host : Host σ),
    (x σ).outcome host = (result.mapError .failed, host)

namespace HostFree

variable {α β : Type}

theorem pure (value : α) : HostFree fun σ => (Pure.pure value : HostM σ α) :=
  ⟨.ok value, fun _ _ => rfl⟩

theorem fail (error : Error) : HostFree fun σ => (HostM.fail error : HostM σ α) :=
  ⟨.error error, fun _ _ => rfl⟩

theorem bind {x : (σ : Type) → HostM σ α} {next : (σ : Type) → α → HostM σ β} (first : HostFree x)
    (rest : ∀ value, HostFree fun σ => next σ value) : HostFree fun σ => x σ >>= next σ := by
  rcases first with ⟨result, outcome⟩
  cases result with
  | error error =>
      refine ⟨.error error, ?_⟩
      intro σ host
      simp [HostM.outcome_bind, outcome, Except.mapError]
  | ok value =>
      rcases rest value with ⟨final, restOutcome⟩
      refine ⟨final, ?_⟩
      intro σ host
      simp [HostM.outcome_bind, outcome, restOutcome, Except.mapError]

/-- A host comes out of a computation that does not concern it as it went in. -/
theorem host_eq {x : (σ : Type) → HostM σ α} (free : HostFree x) {σ : Type} {host after : Host σ}
    {value : α} (yields : (x σ).Yields host value after) : after = host := by
  rcases free with ⟨result, outcome⟩
  have same := (outcome σ host).symm.trans yields
  simp only [Prod.mk.injEq] at same
  exact same.2.symm

theorem onlyFails {x : (σ : Type) → HostM σ α} (free : HostFree x) (σ : Type) :
    (x σ).OnlyFails := by
  rcases free with ⟨result, outcome⟩
  intro host stop after stops
  have same := (outcome σ host).symm.trans stops
  cases result with
  | error error =>
      simp only [Except.mapError, Prod.mk.injEq, Except.error.injEq] at same
      exact ⟨error, same.1.symm⟩
  | ok value => simp [Except.mapError] at same

end HostFree

section Sequential

variable [Engine]

/-- A property of computations that exist for every kind of sink. It holds of yielding a value and
of refusing a module, and it is kept by sequences. -/
structure Sequential (holds : (α : Type) → ((σ : Type) → HostM σ α) → Prop) : Prop where
  pure : ∀ {α : Type} (value : α), holds α fun _ => Pure.pure value
  reject : ∀ {α : Type} (fault : InstantiationFault), holds α fun _ => HostM.reject fault
  bind : ∀ {α β : Type} {x : (σ : Type) → HostM σ α} {next : (σ : Type) → α → HostM σ β},
    holds α x → (∀ value, holds β fun σ => next σ value) → holds β fun σ => x σ >>= next σ

theorem HostFree.sequential : Sequential fun _ x => HostFree x :=
  ⟨pure, fun _ => fail _, bind⟩

theorem Sequential.mapM {holds : (α : Type) → ((σ : Type) → HostM σ α) → Prop}
    (parts : Sequential holds) {α β : Type} {each : (σ : Type) → α → HostM σ β}
    (every : ∀ item, holds β fun σ => each σ item) (items : List α) :
    holds (List β) fun σ => items.mapM (each σ) := by
  induction items with
  | nil => exact parts.pure []
  | cons item rest ih =>
      simp only [List.mapM_cons]
      exact parts.bind (every item) fun _ => parts.bind ih fun _ => parts.pure _

end Sequential

end WasmHost
