import HopperSvm.Library.Procedure

/-!
# Code that is metered

Code that charges units to a meter, is told whether they were granted, and
does with the answer what it likes.  Between its charges it reads and writes
the state, which holds the meter too.  The meter counts up to a cap and
grants a charge as long as the count stays within the limit.

What the code charges on its way is recorded apart from the meter, so the
units can be put to a meter that nobody else writes.  Such a meter refuses
none of them exactly when their sum, cut off at the cap, is within the
limit; and code that only charges its meter gets the same answers.
-/

namespace Metering

/-- A meter in the state: what it has counted, its limit, and a charge. -/
structure Meter (ν σ ε : Type) where
  size : ν → ℕ
  cap : ℕ
  consumed : σ → ℕ
  limit : σ → ℕ
  consume : ν → σ → Except ε Unit × σ
  consumed_consume : ∀ units state,
    consumed (consume units state).2 = min (consumed state + size units) cap
  limit_consume : ∀ units state,
    limit (consume units state).2 = limit state
  granted_iff : ∀ units state,
    (consume units state).1 = .ok () ↔
      consumed (consume units state).2 ≤ limit state

/-- Terminating code.  `related` is what an access to the state must
keep. -/
inductive Code (ν ρ σ ε α : Type) (related : σ → σ → Prop) : Type where
  | finish (result : Except ε α)
  | panic
  | charge (units : ν) (next : Except ε Unit → Code ν ρ σ ε α related)
  | access (update : ρ → σ → σ)
      (keeps : ∀ environment state, related state (update environment state))
      (next : ρ → σ → Code ν ρ σ ε α related)

variable {ν ρ σ ε α : Type} {related : σ → σ → Prop}

namespace Code

/-- What the code does with a state. -/
def run (meter : Meter ν σ ε) :
    Code ν ρ σ ε α related → Procedure ρ σ ε α
  | finish result => fun _ state => some (result, state)
  | panic => fun _ _ => none
  | charge units next => fun environment state =>
      let (answer, state) := meter.consume units state
      (next answer).run meter environment state
  | access update _ next => fun environment state =>
      (next environment state).run meter environment
        (update environment state)

/-- What the code charges on its way, with the answers it is given. -/
def charges (meter : Meter ν σ ε) :
    Code ν ρ σ ε α related → ρ → σ → List (ν × Except ε Unit)
  | finish _ => fun _ _ => []
  | panic => fun _ _ => []
  | charge units next => fun environment state =>
      let (answer, state) := meter.consume units state
      (units, answer) :: (next answer).charges meter environment state
  | access update _ next => fun environment state =>
      (next environment state).charges meter environment
        (update environment state)

/-- On its way the code writes the meter by charging it only. -/
def OnlyCharges (meter : Meter ν σ ε) :
    Code ν ρ σ ε α related → ρ → σ → Prop
  | finish _ => fun _ _ => True
  | panic => fun _ _ => True
  | charge units next => fun environment state =>
      let (answer, state) := meter.consume units state
      (next answer).OnlyCharges meter environment state
  | access update _ next => fun environment state =>
      meter.consumed (update environment state) = meter.consumed state ∧
        meter.limit (update environment state) = meter.limit state ∧
        (next environment state).OnlyCharges meter environment
          (update environment state)

/-- Once a charge is refused, the code does not finish with a result. -/
def Heeds (meter : Meter ν σ ε) : Code ν ρ σ ε α related → Prop
  | finish _ => True
  | panic => True
  | charge _ next =>
      (∀ err environment state value final,
        (next (.error err)).run meter environment state ≠
          some (.ok value, final)) ∧
        ∀ answer, (next answer).Heeds meter
  | access _ _ next =>
      ∀ environment state, (next environment state).Heeds meter

/-- Code that heeds refusals finishes with a result only if there was
none. -/
theorem answers_ok_of_heeds {meter : Meter ν σ ε}
    {code : Code ν ρ σ ε α related} (heeds : code.Heeds meter)
    {environment : ρ} {state final : σ} {value : α}
    (ran : code.run meter environment state = some (.ok value, final)) :
    ∀ charge ∈ code.charges meter environment state,
      charge.2 = .ok () := by
  induction code generalizing state with
  | finish result =>
      exact fun _ none => absurd none List.not_mem_nil
  | panic =>
      exact fun _ none => absurd none List.not_mem_nil
  | charge units next inductionHypothesis =>
      obtain ⟨fails, later⟩ := heeds
      have ranNext :
          (next (meter.consume units state).1).run meter environment
              (meter.consume units state).2 =
            some (.ok value, final) :=
        ran
      rw [charges, List.forall_mem_cons]
      refine ⟨?_, inductionHypothesis _ (later _) ranNext⟩
      cases answered : (meter.consume units state).1 with
      | ok granted =>
          rfl
      | error err =>
          rw [answered] at ranNext
          exact absurd ranNext (fails err _ _ _ _)
  | access update keeps next inductionHypothesis =>
      exact inductionHypothesis environment state (heeds _ _) ran

/-- The code keeps what its accesses and the meter keep. -/
theorem run_keeps [Std.Refl related] [IsTrans σ related]
    {meter : Meter ν σ ε}
    (consumeKeeps : ∀ units state,
      related state (meter.consume units state).2)
    (code : Code ν ρ σ ε α related) :
    Procedure.Keeps related (code.run meter) := by
  induction code with
  | finish result =>
      exact .of_unchanged fun _ _ _ _ ran =>
        (Prod.mk.inj (Option.some.inj ran)).2
  | panic =>
      intro environment state outcome final ran
      cases ran
  | charge units next inductionHypothesis =>
      intro environment state outcome final ran
      exact
        IsTrans.trans _ _ _ (consumeKeeps units state)
          (inductionHypothesis _ environment _ outcome final ran)
  | access update keeps next inductionHypothesis =>
      intro environment state outcome final ran
      exact
        IsTrans.trans _ _ _ (keeps environment state)
          (inductionHypothesis environment state environment _ outcome
            final ran)

end Code

namespace Meter

variable (meter : Meter ν σ ε)

/-- The meter takes the units one after the other and refuses none. -/
def Grants : σ → List ν → Prop
  | _, [] => True
  | state, units :: rest =>
      (meter.consume units state).1 = .ok () ∧
        Grants (meter.consume units state).2 rest

/-- The units together. -/
def total (charged : List ν) : ℕ := (charged.map meter.size).sum

theorem total_cons (units : ν) (rest : List ν) :
    meter.total (units :: rest) = meter.size units + meter.total rest := by
  rw [total, List.map_cons, List.sum_cons, total]

/-- A meter within its limit refuses nothing exactly when it ends within its
limit. -/
theorem grants_iff {state : σ} {charged : List ν}
    (within : meter.consumed state ≤ meter.limit state) :
    meter.Grants state charged ↔
      min (meter.consumed state + meter.total charged) meter.cap ≤
        meter.limit state := by
  induction charged generalizing state with
  | nil =>
      have nothing : meter.total [] = 0 := rfl
      rw [nothing]
      exact iff_of_true trivial (by omega)
  | cons units rest inductionHypothesis =>
      have counted := meter.consumed_consume units state
      have sameLimit := meter.limit_consume units state
      have granted := meter.granted_iff units state
      rw [Grants, total_cons, granted]
      constructor
      · rintro ⟨withinNext, grants⟩
        have withinNext' := withinNext
        rw [← sameLimit] at withinNext'
        have bound := (inductionHypothesis withinNext').mp grants
        rw [counted, sameLimit] at bound
        omega
      · intro bound
        have withinNext :
            meter.consumed (meter.consume units state).2 ≤
              meter.limit state := by
          omega
        refine ⟨withinNext, ?_⟩
        rw [← sameLimit] at withinNext
        rw [inductionHypothesis withinNext, counted, sameLimit]
        omega

/-- Below the cap nothing is cut off. -/
theorem total_le_iff {state : σ}
    (within : meter.consumed state ≤ meter.limit state)
    (capped : meter.limit state ≤ meter.cap) (charged : List ν) :
    meter.consumed state + meter.total charged ≤ meter.limit state ↔
      meter.Grants state charged ∧
        (meter.limit state = meter.cap →
          meter.consumed state + meter.total charged ≤ meter.cap) := by
  rw [meter.grants_iff within]
  omega

/-- Code that only charges its meter leaves it with what was charged. -/
theorem reading_run {code : Code ν ρ σ ε α related} {environment : ρ}
    {state final : σ} {outcome : Except ε α}
    (onlyCharges : code.OnlyCharges meter environment state)
    (capped : meter.consumed state ≤ meter.cap)
    (ran : code.run meter environment state = some (outcome, final)) :
    meter.consumed final =
        min (meter.consumed state +
          meter.total ((code.charges meter environment state).map Prod.fst))
          meter.cap ∧
      meter.limit final = meter.limit state := by
  induction code generalizing state with
  | finish result =>
      obtain ⟨_, unchanged⟩ := Prod.mk.inj (Option.some.inj ran)
      have nothing : meter.total [] = 0 := rfl
      rw [Code.charges, List.map_nil, nothing, ← unchanged]
      exact ⟨by omega, rfl⟩
  | panic =>
      cases ran
  | charge units next inductionHypothesis =>
      have counted := meter.consumed_consume units state
      have cappedNext :
          meter.consumed (meter.consume units state).2 ≤ meter.cap := by
        omega
      obtain ⟨consumed, limit⟩ :=
        inductionHypothesis _ onlyCharges cappedNext ran
      rw [Code.charges, List.map_cons, total_cons]
      refine ⟨?_, limit.trans (meter.limit_consume units state)⟩
      rw [consumed, counted]
      dsimp only
      omega
  | access update keeps next inductionHypothesis =>
      obtain ⟨sameConsumed, sameLimit, onlyCharges⟩ := onlyCharges
      rw [← sameConsumed] at capped
      obtain ⟨consumed, limit⟩ :=
        inductionHypothesis environment state onlyCharges capped ran
      rw [sameConsumed] at consumed
      exact ⟨consumed, limit.trans sameLimit⟩

/-- Two states with the same reading. -/
def SameReading (left right : σ) : Prop :=
  meter.consumed left = meter.consumed right ∧
    meter.limit left = meter.limit right

theorem SameReading.consume {left right : σ}
    (same : meter.SameReading left right) (units : ν) :
    meter.SameReading (meter.consume units left).2
      (meter.consume units right).2 := by
  refine ⟨?_, ?_⟩
  · rw [meter.consumed_consume, meter.consumed_consume, same.1]
  · rw [meter.limit_consume, meter.limit_consume, same.2]

/-- Code that only charges its meter is refused exactly what a meter that
nobody else writes refuses. -/
theorem answers_ok_iff_grants {code : Code ν ρ σ ε α related}
    {environment : ρ} {state untouched : σ}
    (onlyCharges : code.OnlyCharges meter environment state)
    (same : meter.SameReading state untouched) :
    (∀ charge ∈ code.charges meter environment state, charge.2 = .ok ()) ↔
      meter.Grants untouched
        ((code.charges meter environment state).map Prod.fst) := by
  induction code generalizing state untouched with
  | finish result =>
      exact iff_of_true (fun _ none => absurd none List.not_mem_nil) trivial
  | panic =>
      exact iff_of_true (fun _ none => absurd none List.not_mem_nil) trivial
  | charge units next inductionHypothesis =>
      have sameNext := SameReading.consume meter same units
      have answered :
          (meter.consume units state).1 = .ok () ↔
            (meter.consume units untouched).1 = .ok () := by
        rw [meter.granted_iff, meter.granted_iff, sameNext.1, same.2]
      have rest := inductionHypothesis _ onlyCharges sameNext
      rw [Code.charges, List.map_cons, Grants, List.forall_mem_cons]
      exact and_congr answered rest
  | access update keeps next inductionHypothesis =>
      obtain ⟨sameConsumed, sameLimit, onlyCharges⟩ := onlyCharges
      exact
        inductionHypothesis environment state onlyCharges
          ⟨sameConsumed.trans same.1, sameLimit.trans same.2⟩

end Meter

end Metering
