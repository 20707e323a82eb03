import Mathlib

/-!
# Procedures that read, write, fail and panic

A procedure reads an environment, updates a state and ends in one of three
ways: it returns a value, it returns an error, or it panics.  A failing
procedure keeps the state it had reached, so code that writes before it
fails is visible as such; a panicking one has no final state at all.

Five rules carry the proofs.  `bind_eq_ok` peels a successful sequence into
its steps, and `returns_bind` one that does not panic.  `Keeps` lifts a
reflexive and transitive relation between the state before and the state
after from the primitives to whole procedures, whichever way they end.
`Respects` does the same for two runs: from related states a procedure ends
the same way, in related states.  A `Stateless` procedure has both for free.
`Atomic` says that an error undoes nothing: checks come first, and what
writes after them is `Infallible`.
-/

/-- `none` is a panic. -/
def Procedure (ρ σ ε α : Type) : Type :=
  ρ → σ → Option (Except ε α × σ)

namespace Procedure

variable {ρ σ ε α β : Type}

instance : Monad (Procedure ρ σ ε) where
  pure value := fun _ state => some (.ok value, state)
  bind first next := fun environment state =>
    match first environment state with
    | none => none
    | some (.error err, state') => some (.error err, state')
    | some (.ok value, state') => next value environment state'

/-- The environment. -/
def environment : Procedure ρ σ ε ρ :=
  fun environment state => some (.ok environment, state)

/-- A value computed from the current state. -/
def gets (read : σ → α) : Procedure ρ σ ε α :=
  fun _ state => some (.ok (read state), state)

/-- Update the state. -/
def modify (update : σ → σ) : Procedure ρ σ ε Unit :=
  fun _ state => some (.ok (), update state)

/-- `return Err(err)`. -/
def fail (err : ε) : Procedure ρ σ ε α :=
  fun _ state => some (.error err, state)

/-- A panic: no value, no error and no state come back. -/
def panicked : Procedure ρ σ ε α :=
  fun _ _ => none

/-- `if condition { return Err(err) }`. -/
def rejectIf (condition : Prop) [Decidable condition] (err : ε) :
    Procedure ρ σ ε Unit :=
  if condition then fail err else pure ()

/-- `result?`. -/
def ofExcept : Except ε α → Procedure ρ σ ε α
  | .ok value => pure value
  | .error err => fail err

/-- Unwrap an operation that panics when it has no result. -/
def expect : Option α → Procedure ρ σ ε α
  | some value => pure value
  | none => panicked

theorem bind_eq_ok {first : Procedure ρ σ ε α}
    {next : α → Procedure ρ σ ε β}
    {environment : ρ} {state final : σ} {value : β} :
    (first >>= next) environment state = some (.ok value, final) ↔
      ∃ middle state', first environment state = some (.ok middle, state') ∧
        next middle environment state' = some (.ok value, final) := by
  change
    (match first environment state with
      | none => none
      | some (.error err, state') => some (.error err, state')
      | some (.ok value, state') => next value environment state') =
        some (.ok value, final) ↔ _
  cases first environment state with
  | none =>
      simp
  | some outcome =>
      rcases outcome with ⟨result, state'⟩
      cases result with
      | error err =>
          simp
      | ok middle =>
          constructor
          · intro rest
            exact ⟨middle, state', rfl, rest⟩
          · rintro ⟨_, _, same, rest⟩
            cases same
            exact rest

@[simp]
theorem pure_eq_ok {environment : ρ} {state final : σ}
    {value result : α} :
    (pure value : Procedure ρ σ ε α) environment state =
        some (.ok result, final) ↔
      value = result ∧ state = final := by
  change
    some ((Except.ok value : Except ε α), state) =
      some (.ok result, final) ↔ _
  simp

@[simp]
theorem environment_eq_ok {environment result : ρ} {state final : σ} :
    (Procedure.environment : Procedure ρ σ ε ρ) environment state =
        some (.ok result, final) ↔
      environment = result ∧ state = final := by
  simp [Procedure.environment]

@[simp]
theorem gets_eq_ok {read : σ → α} {environment : ρ} {state final : σ}
    {result : α} :
    (gets read : Procedure ρ σ ε α) environment state =
        some (.ok result, final) ↔
      read state = result ∧ state = final := by
  simp [gets]

@[simp]
theorem modify_eq_ok {update : σ → σ} {environment : ρ}
    {state final : σ} {result : Unit} :
    (modify update : Procedure ρ σ ε Unit) environment state =
        some (.ok result, final) ↔
      update state = final := by
  simp [modify]

@[simp]
theorem fail_eq_ok {err : ε} {environment : ρ} {state final : σ}
    {result : α} :
    (fail err : Procedure ρ σ ε α) environment state =
        some (.ok result, final) ↔
      False := by
  simp [fail]

@[simp]
theorem panicked_eq_some {environment : ρ} {state : σ}
    {outcome : Except ε α × σ} :
    (panicked : Procedure ρ σ ε α) environment state = some outcome ↔
      False := by
  simp [panicked]

@[simp]
theorem rejectIf_eq_ok {condition : Prop} [Decidable condition] {err : ε}
    {environment : ρ} {state final : σ} {result : Unit} :
    (rejectIf condition err : Procedure ρ σ ε Unit) environment state =
        some (.ok result, final) ↔
      ¬ condition ∧ state = final := by
  by_cases holds : condition
  · simp [rejectIf, holds]
  · simp [rejectIf, holds]

@[simp]
theorem ofExcept_eq_ok {value : Except ε α} {environment : ρ}
    {state final : σ} {result : α} :
    (ofExcept value : Procedure ρ σ ε α) environment state =
        some (.ok result, final) ↔
      value = .ok result ∧ state = final := by
  cases value with
  | error err =>
      simp [ofExcept]
  | ok value =>
      simp [ofExcept]

@[simp]
theorem expect_eq_ok {value : Option α} {environment : ρ}
    {state final : σ} {result : α} :
    (expect value : Procedure ρ σ ε α) environment state =
        some (.ok result, final) ↔
      value = some result ∧ state = final := by
  cases value with
  | none =>
      simp [expect]
  | some value =>
      simp [expect]

/-- The run ends with a value or an error. -/
def Returns (procedure : Procedure ρ σ ε α) (environment : ρ)
    (state : σ) : Prop :=
  procedure environment state ≠ none

section Returns

variable {environment : ρ} {state : σ}

/-- A sequence returns when its first part does and its rest does from
wherever the first part succeeds. -/
@[simp]
theorem returns_bind {first : Procedure ρ σ ε α}
    {next : α → Procedure ρ σ ε β} :
    (first >>= next).Returns environment state ↔
      first.Returns environment state ∧
        ∀ value state',
          first environment state = some (.ok value, state') →
            (next value).Returns environment state' := by
  change
    (match first environment state with
      | none => none
      | some (.error err, state') => some (.error err, state')
      | some (.ok value, state') => next value environment state') ≠
        none ↔ first environment state ≠ none ∧ _
  cases first environment state with
  | none =>
      simp
  | some outcome =>
      rcases outcome with ⟨verdict, state'⟩
      cases verdict with
      | error err =>
          simp
      | ok value =>
          simp only [ne_eq, reduceCtorEq, not_false_eq_true, true_and,
            Option.some.injEq, Prod.mk.injEq, Except.ok.injEq]
          constructor
          · rintro returns _ _ ⟨rfl, rfl⟩
            exact returns
          · intro returns
            exact returns value state' ⟨rfl, rfl⟩

@[simp]
theorem returns_pure {value : α} :
    (pure value : Procedure ρ σ ε α).Returns environment state :=
  Option.some_ne_none _

@[simp]
theorem returns_environment :
    (Procedure.environment : Procedure ρ σ ε ρ).Returns environment
      state :=
  Option.some_ne_none _

@[simp]
theorem returns_gets {read : σ → α} :
    (gets read : Procedure ρ σ ε α).Returns environment state :=
  Option.some_ne_none _

@[simp]
theorem returns_modify {update : σ → σ} :
    (modify update : Procedure ρ σ ε Unit).Returns environment state :=
  Option.some_ne_none _

@[simp]
theorem returns_fail {err : ε} :
    (fail err : Procedure ρ σ ε α).Returns environment state :=
  Option.some_ne_none _

@[simp]
theorem returns_rejectIf {condition : Prop} [Decidable condition]
    {err : ε} :
    (rejectIf condition err : Procedure ρ σ ε Unit).Returns environment
      state := by
  unfold rejectIf
  split
  · exact returns_fail
  · exact returns_pure

@[simp]
theorem returns_expect {value : Option α} :
    (expect value : Procedure ρ σ ε α).Returns environment state ↔
      value ≠ none := by
  cases value with
  | none =>
      simp [expect, Returns, panicked]
  | some value =>
      simp [expect]

end Returns

/-! ## Relations kept however the procedure ends -/

/-- Every ending of the procedure leaves a state related to the first. -/
def Keeps (related : σ → σ → Prop) (procedure : Procedure ρ σ ε α) :
    Prop :=
  ∀ environment state outcome final,
    procedure environment state = some (outcome, final) →
      related state final

section Keeps

variable {related : σ → σ → Prop}

theorem Keeps.mono {weaker : σ → σ → Prop}
    {procedure : Procedure ρ σ ε α}
    (keeps : Keeps related procedure)
    (implies : ∀ {before after}, related before after →
      weaker before after) :
    Keeps weaker procedure :=
  fun environment state outcome final ran =>
    implies (keeps environment state outcome final ran)

theorem Keeps.of_unchanged [Std.Refl related]
    {procedure : Procedure ρ σ ε α}
    (unchanged : ∀ environment state outcome final,
      procedure environment state = some (outcome, final) →
        state = final) :
    Keeps related procedure := by
  intro environment state outcome final ran
  rw [← unchanged environment state outcome final ran]
  exact Std.Refl.refl state

theorem Keeps.gets [Std.Refl related] (read : σ → α) :
    Keeps related (Procedure.gets read : Procedure ρ σ ε α) :=
  Keeps.of_unchanged fun _ _ _ _ ran =>
    (Prod.mk.inj (Option.some.inj ran)).2

theorem Keeps.modify {update : σ → σ}
    (step : ∀ state, related state (update state)) :
    Keeps related (Procedure.modify update : Procedure ρ σ ε Unit) := by
  intro environment state outcome final ran
  obtain ⟨_, rfl⟩ := Prod.mk.inj (Option.some.inj ran)
  exact step state

theorem Keeps.bind [IsTrans σ related]
    {first : Procedure ρ σ ε α} {next : α → Procedure ρ σ ε β}
    (firstKeeps : Keeps related first)
    (nextKeeps : ∀ value, Keeps related (next value)) :
    Keeps related (first >>= next) := by
  intro environment state outcome final ran
  change
    (match first environment state with
      | none => none
      | some (.error err, state') => some (.error err, state')
      | some (.ok value, state') => next value environment state') =
        some (outcome, final) at ran
  cases result : first environment state with
  | none =>
      rw [result] at ran
      cases ran
  | some reached =>
      rcases reached with ⟨verdict, state'⟩
      have toMiddle : related state state' :=
        firstKeeps environment state verdict state' result
      rw [result] at ran
      cases verdict with
      | error err =>
          obtain ⟨_, rfl⟩ := Prod.mk.inj (Option.some.inj ran)
          exact toMiddle
      | ok value =>
          exact
            IsTrans.trans _ _ _ toMiddle
              (nextKeeps value environment state' outcome final ran)

end Keeps

/-- From related states the procedure ends the same way, in related
states. -/
def Respects (related : σ → σ → Prop) (procedure : Procedure ρ σ ε α) :
    Prop :=
  ∀ environment left right, related left right →
    Option.Rel
      (fun reached reached' =>
        reached.1 = reached'.1 ∧ related reached.2 reached'.2)
      (procedure environment left) (procedure environment right)

section Respects

variable {related : σ → σ → Prop}

theorem Respects.gets {read : σ → α}
    (agrees : ∀ {left right}, related left right →
      read left = read right) :
    Respects related (Procedure.gets read : Procedure ρ σ ε α) :=
  fun _ _ _ same =>
    .some ⟨congrArg Except.ok (agrees same), same⟩

theorem Respects.modify {update : σ → σ}
    (step : ∀ {left right}, related left right →
      related (update left) (update right)) :
    Respects related (Procedure.modify update : Procedure ρ σ ε Unit) :=
  fun _ _ _ same => .some ⟨rfl, step same⟩

theorem Respects.bind {first : Procedure ρ σ ε α}
    {next : α → Procedure ρ σ ε β}
    (firstRespects : Respects related first)
    (nextRespects : ∀ value, Respects related (next value)) :
    Respects related (first >>= next) := by
  intro environment left right same
  have step := firstRespects environment left right same
  change
    Option.Rel _
      (match first environment left with
        | none => none
        | some (.error err, state') => some (.error err, state')
        | some (.ok value, state') => next value environment state')
      (match first environment right with
        | none => none
        | some (.error err, state') => some (.error err, state')
        | some (.ok value, state') => next value environment state')
  revert step
  generalize first environment left = reached
  generalize first environment right = reached'
  intro step
  cases step with
  | none =>
      exact .none
  | some both =>
      rename_i ended ended'
      rcases ended with ⟨verdict, state⟩
      rcases ended' with ⟨verdict', state'⟩
      rcases both with ⟨rfl, sameState⟩
      cases verdict with
      | error err =>
          exact .some ⟨rfl, sameState⟩
      | ok value =>
          exact nextRespects value environment state state' sameState

end Respects

/-- The procedure neither reads nor writes the state. -/
def Stateless (procedure : Procedure ρ σ ε α) : Prop :=
  ∀ environment, ∃ answer : Option (Except ε α),
    ∀ state, procedure environment state =
      answer.map fun outcome => (outcome, state)

namespace Stateless

theorem keeps {procedure : Procedure ρ σ ε α}
    (stateless : Stateless procedure) {related : σ → σ → Prop}
    [Std.Refl related] : Keeps related procedure := by
  apply Keeps.of_unchanged
  intro environment state outcome final ran
  obtain ⟨answer, same⟩ := stateless environment
  rw [same] at ran
  rcases Option.map_eq_some_iff.mp ran with ⟨_, _, ended⟩
  exact (Prod.mk.inj ended).2

theorem respects {procedure : Procedure ρ σ ε α}
    (stateless : Stateless procedure) {related : σ → σ → Prop} :
    Respects related procedure := by
  intro environment left right together
  obtain ⟨answer, same⟩ := stateless environment
  rw [same, same]
  cases answer with
  | none =>
      exact .none
  | some outcome =>
      exact .some ⟨rfl, together⟩

theorem pure (value : α) :
    Stateless (Pure.pure value : Procedure ρ σ ε α) :=
  fun _ => ⟨some (.ok value), fun _ => rfl⟩

theorem environment :
    Stateless (Procedure.environment : Procedure ρ σ ε ρ) :=
  fun environment => ⟨some (.ok environment), fun _ => rfl⟩

theorem fail (err : ε) :
    Stateless (Procedure.fail err : Procedure ρ σ ε α) :=
  fun _ => ⟨some (.error err), fun _ => rfl⟩

theorem rejectIf (condition : Prop) [Decidable condition] (err : ε) :
    Stateless
      (Procedure.rejectIf condition err : Procedure ρ σ ε Unit) := by
  unfold Procedure.rejectIf
  split
  · exact Stateless.fail err
  · exact Stateless.pure ()

theorem ofExcept (value : Except ε α) :
    Stateless (Procedure.ofExcept value : Procedure ρ σ ε α) := by
  cases value with
  | error err =>
      exact Stateless.fail err
  | ok value =>
      exact Stateless.pure value

theorem expect (value : Option α) :
    Stateless (Procedure.expect value : Procedure ρ σ ε α) := by
  cases value with
  | none =>
      exact fun _ => ⟨none, fun _ => rfl⟩
  | some value =>
      exact Stateless.pure value

theorem bind {first : Procedure ρ σ ε α}
    {next : α → Procedure ρ σ ε β}
    (firstStateless : Stateless first)
    (nextStateless : ∀ value, Stateless (next value)) :
    Stateless (first >>= next) := by
  intro environment
  obtain ⟨answer, same⟩ := firstStateless environment
  have unfolded (state : σ) :
      (first >>= next) environment state =
        match first environment state with
        | none => none
        | some (.error err, state') => some (.error err, state')
        | some (.ok value, state') => next value environment state' :=
    rfl
  cases answer with
  | none =>
      refine ⟨none, ?_⟩
      intro state
      rw [unfolded, same]
      rfl
  | some outcome =>
      cases outcome with
      | error err =>
          refine ⟨some (.error err), ?_⟩
          intro state
          rw [unfolded, same]
          rfl
      | ok value =>
          obtain ⟨rest, sameRest⟩ := nextStateless value environment
          refine ⟨rest, ?_⟩
          intro state
          rw [unfolded, same, ← sameRest]
          rfl

end Stateless

/-- An error leaves the state as it was. -/
def Atomic (procedure : Procedure ρ σ ε α) : Prop :=
  ∀ environment state err final,
    procedure environment state = some (.error err, final) →
      final = state

/-- The procedure never ends in an error. -/
def Infallible (procedure : Procedure ρ σ ε α) : Prop :=
  ∀ environment state err final,
    procedure environment state ≠ some (.error err, final)

section Atomic

variable {first : Procedure ρ σ ε α} {next : α → Procedure ρ σ ε β}

/-- A sequence fails in its first part or, after it, in its rest. -/
theorem bind_eq_error {environment : ρ} {state final : σ} {err : ε} :
    (first >>= next) environment state = some (.error err, final) ↔
      first environment state = some (.error err, final) ∨
        ∃ middle state',
          first environment state = some (.ok middle, state') ∧
            next middle environment state' =
              some (.error err, final) := by
  change
    (match first environment state with
      | none => none
      | some (.error err, state') => some (.error err, state')
      | some (.ok value, state') => next value environment state') =
        some (.error err, final) ↔ _
  cases first environment state with
  | none =>
      simp
  | some outcome =>
      rcases outcome with ⟨result, state'⟩
      cases result with
      | error err' =>
          simp
      | ok middle =>
          constructor
          · intro rest
            exact Or.inr ⟨middle, state', rfl, rest⟩
          · intro either
            rcases either with absurdity | ⟨_, _, same, rest⟩
            · cases absurdity
            · cases same
              exact rest

theorem Atomic.of_keeps {procedure : Procedure ρ σ ε α}
    (reads : Keeps Eq procedure) : Atomic procedure := by
  intro environment state err final ran
  exact (reads environment state (.error err) final ran).symm

theorem Atomic.of_infallible {procedure : Procedure ρ σ ε α}
    (infallible : Infallible procedure) : Atomic procedure := by
  intro environment state err final ran
  exact absurd ran (infallible environment state err final)

/-- Checks in front of an atomic procedure. -/
theorem Atomic.bind_of_keeps (reads : Keeps Eq first)
    (rest : ∀ value, Atomic (next value)) : Atomic (first >>= next) := by
  intro environment state err final ran
  rcases bind_eq_error.mp ran with failed | ⟨middle, state', ran, failed⟩
  · exact Atomic.of_keeps reads environment state err final failed
  · have same := reads environment state (.ok middle) state' ran
    have back := rest middle environment state' err final failed
    exact back.trans same.symm

theorem Infallible.bind (firstInfallible : Infallible first)
    (rest : ∀ value, Infallible (next value)) :
    Infallible (first >>= next) := by
  intro environment state err final ran
  rcases bind_eq_error.mp ran with failed | ⟨middle, state', _, failed⟩
  · exact firstInfallible environment state err final failed
  · exact rest middle environment state' err final failed

theorem Infallible.modify (update : σ → σ) :
    Infallible (Procedure.modify update : Procedure ρ σ ε Unit) := by
  intro environment state err final ran
  cases ran

theorem Infallible.gets (read : σ → α) :
    Infallible (Procedure.gets read : Procedure ρ σ ε α) := by
  intro environment state err final ran
  cases ran

theorem Infallible.expect (value : Option α) :
    Infallible (Procedure.expect value : Procedure ρ σ ε α) := by
  intro environment state err final ran
  cases value with
  | none =>
      cases ran
  | some value =>
      cases ran

end Atomic

end Procedure
