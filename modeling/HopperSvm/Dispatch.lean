import HopperSvm.Harness
import HopperSvm.Ledger

/-!
A failing dispatch hands back the accounts it was given, whichever engine
ran.  A successful dispatch of a registered program merges the slice the
program left, and the validator has accepted the merged list; `Succeeds`
names the slice, and everything later results need is read off it.
-/

namespace Hopper

namespace BuiltinEngine.Reaches

variable {program : BuiltinProgram} {ix : Instruction}
  {accounts received : List KeyedAccount} {budget : ComputeBudget}
  {sysvars : Sysvars} {logs : LogCapture} {cells : HarnessCells}
  {state : InvokeState}

/-- The slots a program that keeps addresses leaves are at the metas'
addresses. -/
theorem addresses_slots (keeps : program.KeepsAddresses)
    (reached : Reaches program ix accounts budget sysvars logs cells
      received state) :
    addresses state.accounts = ix.accounts.map AccountMeta.pubkey := by
  rw [reached.addresses_eq keeps,
    addresses_of_resolved reached.resolved]

/-- A program that keeps addresses rewrites only what its metas name. -/
theorem rewrites (keeps : program.KeepsAddresses)
    (distinct : (addresses accounts).Nodup)
    (reached : Reaches program ix accounts budget sysvars logs cells
      received state) :
    Rewrites ix.accounts accounts
      (mergeAccounts accounts state.accounts) where
  distinct := distinct
  sameAddresses :=
    addresses_mergeAccounts reached.resolved (reached.addresses_eq keeps)
  frame := by
    intro address absent
    rw [← reached.addresses_slots keeps] at absent
    exact findAccount_mergeAccounts_of_not_mem absent accounts

end BuiltinEngine.Reaches

open BuiltinEngine

namespace HopperSvm

variable {svm : HopperSvm} {program : BuiltinProgram} {ix : Instruction}
  {accounts : List KeyedAccount} {logs : LogCapture}

/-- The program is registered, and no Agave engine shadows it. -/
structure Registered (svm : HopperSvm) (programId : Pubkey)
    (program : BuiltinProgram) : Prop where
  unclaimed : svm.agaveClaims programId = false
  found : svm.registry programId = some program

/-- The program accepts the instruction, leaving `state` of the slice
`received`, and the validator accepts the merged list. -/
structure Succeeds (svm : HopperSvm) (program : BuiltinProgram)
    (ix : Instruction) (accounts : List KeyedAccount) (logs : LogCapture)
    (received : List KeyedAccount) (state : InvokeState) : Prop where
  reached :
    Reaches program ix accounts svm.dispatchBudget svm.sysvars logs
      svm.cells received state
  validated :
    validatePostState ix.programId ix.accounts accounts
        (mergeAccounts accounts state.accounts) svm.validationPolicy =
      .ok ()

/-- The dispatch of a program that left `state`. -/
def Dispatch.ofState (ix : Instruction) (accounts : List KeyedAccount)
    (state : InvokeState) : Dispatch :=
  { outcome := (succeeded ix accounts state).outcome
    logs := (succeeded ix accounts state).logs
    cells := state.cells }

theorem dispatchOne_registered
    (registered : svm.Registered ix.programId program) :
    svm.dispatchOne ix accounts logs =
      (execute program ix accounts svm.dispatchBudget svm.sysvars logs
          svm.cells).map fun run =>
        { outcome :=
            (applyValidation ix accounts run.outcome svm.validationPolicy
              run.logs).1
          logs :=
            (applyValidation ix accounts run.outcome svm.validationPolicy
              run.logs).2
          cells := run.cells } := by
  have unclaimed :
      (svm.agaveEngine.filter fun engine =>
        engine.isRegistered ix.programId) = none := by
    have shadow := registered.unclaimed
    simp only [agaveClaims] at shadow
    cases found : svm.agaveEngine with
    | none =>
        rfl
    | some engine =>
        rw [found, Option.any_some] at shadow
        simp [shadow]
  simp only [dispatchOne]
  rw [unclaimed]
  simp only [registered.found]

theorem applyValidation_failed_accounts {outcome : ExecutionOutcome}
    {policy : ValidationPolicy}
    (rolledBack : outcome.error ≠ none →
      outcome.resultingAccounts = accounts)
    (failure :
      (applyValidation ix accounts outcome policy logs).1.error ≠ none) :
    (applyValidation ix accounts outcome policy logs).1.resultingAccounts =
      accounts := by
  unfold applyValidation at failure ⊢
  by_cases failed : outcome.error.isSome
  · rw [if_pos failed]
    exact rolledBack (Option.isSome_iff_ne_none.mp failed)
  · rw [if_neg failed] at failure ⊢
    cases verdict : validatePostState ix.programId ix.accounts accounts
        outcome.resultingAccounts policy with
    | error err =>
        rfl
    | ok value =>
        rw [verdict] at failure
        exact absurd (Option.not_isSome_iff_eq_none.mp failed) failure

theorem applyValidation_succeeded {outcome : ExecutionOutcome}
    {policy : ValidationPolicy}
    (success :
      (applyValidation ix accounts outcome policy logs).1.error = none) :
    outcome.error = none ∧
      validatePostState ix.programId ix.accounts accounts
          outcome.resultingAccounts policy = .ok () ∧
      applyValidation ix accounts outcome policy logs =
        (outcome, logs) := by
  unfold applyValidation at success ⊢
  by_cases failed : outcome.error.isSome
  · rw [if_pos failed] at success
    rw [success] at failed
    cases failed
  · rw [if_neg failed] at success ⊢
    cases verdict : validatePostState ix.programId ix.accounts accounts
        outcome.resultingAccounts policy with
    | error err =>
        rw [verdict] at success
        cases success
    | ok value =>
        exact ⟨Option.not_isSome_iff_eq_none.mp failed, rfl, rfl⟩

/-- A successful dispatch of a registered program, inverted. -/
theorem dispatchOne_succeeded {dispatch : Dispatch}
    (registered : svm.Registered ix.programId program)
    (ran : svm.dispatchOne ix accounts logs = some dispatch)
    (success : dispatch.outcome.error = none) :
    ∃ received state,
      svm.Succeeds program ix accounts logs received state ∧
        dispatch = Dispatch.ofState ix accounts state := by
  rw [dispatchOne_registered registered] at ran
  cases executed : execute program ix accounts svm.dispatchBudget
      svm.sysvars logs svm.cells with
  | none =>
      rw [executed] at ran
      cases ran
  | some run =>
      rw [executed] at ran
      cases ran
      obtain ⟨noError, validated, passed⟩ :=
        applyValidation_succeeded success
      obtain ⟨received, state, reached, rfl⟩ :=
        execute_succeeded executed noError
      refine ⟨received, state, ⟨reached, validated⟩, ?_⟩
      dsimp only
      rw [passed]
      rfl

theorem Succeeds.dispatchOne_eq {received : List KeyedAccount}
    {state : InvokeState}
    (registered : svm.Registered ix.programId program)
    (succeeds : svm.Succeeds program ix accounts logs received state) :
    svm.dispatchOne ix accounts logs =
      some (Dispatch.ofState ix accounts state) := by
  have passed :
      applyValidation ix accounts (succeeded ix accounts state).outcome
          svm.validationPolicy (succeeded ix accounts state).logs =
        ((succeeded ix accounts state).outcome,
          (succeeded ix accounts state).logs) := by
    simp only [applyValidation]
    rw [if_neg (by simp [succeeded])]
    have validated := succeeds.validated
    simp only [succeeded, validated]
  rw [dispatchOne_registered registered, succeeds.reached.execute_eq,
    Option.map_some, passed]
  rfl

/-- The outcomes that a linked engine reports. -/
inductive Reported (ix : Instruction) (accounts : List KeyedAccount) :
    ExecutionOutcome → Prop
  | failure (message : String) :
      Reported ix accounts (linkedFailure ix accounts message)
  | success (known : List Pubkey) (consumed : UInt64)
      (post : List (Pubkey × SolanaAccount)) :
      Reported ix accounts (linkedSuccess known consumed post)

theorem Reported.failed_accounts {outcome : ExecutionOutcome}
    (reported : Reported ix accounts outcome)
    (failure : outcome.error ≠ none) :
    outcome.resultingAccounts = accounts := by
  cases reported with
  | failure message =>
      rfl
  | success known consumed post =>
      exact absurd rfl failure

/-- The Agave engine reports, and logs one line. -/
theorem reported_of_agave {engine : AgaveEngine}
    {run : ExecutionOutcome × LogCapture}
    (ran : svm.dispatchThroughAgave engine ix accounts logs = some run) :
    Reported ix accounts run.1 ∧ ∃ text, run.2 = logs.line text := by
  simp only [dispatchThroughAgave] at ran
  obtain ⟨answer, _, rfl⟩ := Option.map_eq_some_iff.mp ran
  cases answer with
  | error err =>
      exact ⟨.failure _, _, rfl⟩
  | ok post =>
      exact ⟨.success _ _ _, _, rfl⟩

/-- The compatibility engine reports on a program it has loaded, and logs
one line behind the one that opens its frame. -/
theorem reported_of_tryExecute {engine : BpfEngine}
    {budget : ComputeBudget} {sysvars : Sysvars}
    {run : ExecutionOutcome × LogCapture}
    (ran : engine.tryExecute ix accounts budget sysvars logs =
      some (some run)) :
    (∃ loaded, engine.programs ix.programId = some loaded) ∧
      Reported ix accounts run.1 ∧
      ∃ text, run.2 = (logs.invoke ix.programId).line text := by
  rw [BpfEngine.tryExecute] at ran
  obtain ⟨loaded, known, ended⟩ := Option.map_eq_some_iff.mp ran
  refine ⟨⟨loaded, known⟩, ?_⟩
  dsimp only at ended
  split at ended
  · cases ended
    exact ⟨.failure _, _, rfl⟩
  · obtain ⟨answer, _, rfl⟩ := Option.map_eq_some_iff.mp ended
    cases answer with
    | error err =>
        exact ⟨.failure _, _, rfl⟩
    | ok post =>
        exact ⟨.success _ _ _, _, rfl⟩

theorem agaveClaims_of_filter {programId : Pubkey}
    (unclaimed : (svm.agaveEngine.filter fun engine =>
      engine.isRegistered programId) = none) :
    svm.agaveClaims programId = false := by
  simp only [agaveClaims]
  cases found : svm.agaveEngine with
  | none =>
      rfl
  | some engine =>
      rw [found, Option.filter_eq_none_iff] at unclaimed
      rw [Option.any_some]
      exact Bool.eq_false_iff.mpr (unclaimed engine rfl)

theorem agaveClaims_of_filter_some {programId : Pubkey}
    {engine : AgaveEngine}
    (claims : (svm.agaveEngine.filter fun engine =>
      engine.isRegistered programId) = some engine) :
    svm.agaveClaims programId = true := by
  rcases Option.filter_eq_some_iff.mp claims with ⟨found, registered⟩
  rw [agaveClaims, found, Option.any_some]
  exact registered

/-- The dispatch of an outcome that the validator has seen. -/
def Dispatch.ofValidated (svm : HopperSvm) (ix : Instruction)
    (accounts : List KeyedAccount) (outcome : ExecutionOutcome)
    (logs : LogCapture) (cells : HarnessCells) : Dispatch :=
  { outcome :=
      (applyValidation ix accounts outcome svm.validationPolicy logs).1
    logs :=
      (applyValidation ix accounts outcome svm.validationPolicy logs).2
    cells }

/-- The engine that a dispatch goes to, and what it hands back. -/
inductive Goes (svm : HopperSvm) (ix : Instruction)
    (accounts : List KeyedAccount) (logs : LogCapture) : Dispatch → Prop
  | agave {run : ExecutionOutcome × LogCapture} (engine : AgaveEngine)
      (claimed : svm.agaveClaims ix.programId = true)
      (linked :
        svm.dispatchThroughAgave engine ix accounts logs = some run) :
      Goes svm ix accounts logs
        { outcome := run.1, logs := run.2, cells := svm.cells }
  | builtin {program : BuiltinProgram} {run : EngineRun}
      (unclaimed : svm.agaveClaims ix.programId = false)
      (found : svm.registry ix.programId = some program)
      (executed :
        execute program ix accounts svm.dispatchBudget svm.sysvars logs
          svm.cells = some run) :
      Goes svm ix accounts logs
        (Dispatch.ofValidated svm ix accounts run.outcome run.logs run.cells)
  | bpf {engine : BpfEngine} {run : ExecutionOutcome × LogCapture}
      (unclaimed : svm.agaveClaims ix.programId = false)
      (unregistered : svm.registry ix.programId = none)
      (installed : svm.bpfEngine = some engine)
      (tried :
        engine.tryExecute ix accounts svm.dispatchBudget svm.sysvars logs =
          some (some run)) :
      Goes svm ix accounts logs
        (Dispatch.ofValidated svm ix accounts run.1 run.2 svm.cells)
  | nowhere (unclaimed : svm.agaveClaims ix.programId = false)
      (unregistered : svm.registry ix.programId = none)
      (unloaded : ∀ engine, svm.bpfEngine = some engine →
        engine.programs ix.programId = none) :
      Goes svm ix accounts logs
        { outcome := .rejected accounts (.unknownProgram ix.programId)
          logs
          cells := svm.cells }

theorem goes_of_dispatchOne {dispatch : Dispatch}
    (ran : svm.dispatchOne ix accounts logs = some dispatch) :
    svm.Goes ix accounts logs dispatch := by
  simp only [dispatchOne] at ran
  split at ran
  · rename_i engine claims
    obtain ⟨run, linked, rfl⟩ := Option.map_eq_some_iff.mp ran
    exact .agave engine (agaveClaims_of_filter_some claims) linked
  · rename_i unfiltered
    have unclaimed := agaveClaims_of_filter unfiltered
    split at ran
    · rename_i program found
      obtain ⟨run, executed, rfl⟩ := Option.map_eq_some_iff.mp ran
      exact .builtin unclaimed found executed
    · rename_i unregistered
      split at ran
      · rename_i claimed tried
        obtain ⟨run, rfl, rfl⟩ := Option.map_eq_some_iff.mp ran
        obtain ⟨engine, installed, tried⟩ :=
          Option.bind_eq_some_iff.mp tried
        exact .bpf unclaimed unregistered installed tried
      · rename_i untried
        cases ran
        refine .nowhere unclaimed unregistered ?_
        intro engine installed
        rw [installed] at untried
        exact Option.map_eq_none_iff.mp untried

/-- Whichever engine ran, a failing dispatch hands back the accounts it was
given. -/
theorem dispatchOne_failed_accounts {dispatch : Dispatch}
    (ran : svm.dispatchOne ix accounts logs = some dispatch)
    (failure : dispatch.outcome.error ≠ none) :
    dispatch.outcome.resultingAccounts = accounts := by
  cases goes_of_dispatchOne ran with
  | agave engine claimed linked =>
      exact (reported_of_agave linked).1.failed_accounts failure
  | builtin unclaimed found executed =>
      exact
        applyValidation_failed_accounts (execute_failed_accounts executed)
          failure
  | bpf unclaimed unregistered installed tried =>
      have reported := (reported_of_tryExecute tried).2.1
      exact
        applyValidation_failed_accounts reported.failed_accounts failure
  | nowhere unclaimed unregistered unloaded =>
      rfl

theorem processInstruction_failed_accounts
    {result : HopperExecutionResult} {svm' : HopperSvm}
    (ran : svm.processInstruction ix accounts = some (result, svm'))
    (failure : result.outcome.error ≠ none) :
    result.outcome.resultingAccounts = accounts := by
  rcases Option.map_eq_some_iff.mp ran with ⟨dispatch, dispatched, same⟩
  cases same
  exact dispatchOne_failed_accounts dispatched failure

/-! ## The transcript does not decide a dispatch -/

/-- Programs that never read the log back. -/
def LogBlindRegistry (svm : HopperSvm) : Prop :=
  svm.AllPrograms BuiltinProgram.LogBlind

/-- The two dispatches differ at most in their logs. -/
def SameButTranscript (left right : Dispatch) : Prop :=
  left.outcome = right.outcome ∧ left.cells = right.cells

theorem execute_logBlind (blind : program.LogBlind)
    {budget : ComputeBudget} {sysvars : Sysvars} {cells : HarnessCells}
    (logs logs' : LogCapture) :
    Option.Rel
      (fun left right =>
        left.outcome = right.outcome ∧ left.cells = right.cells)
      (execute program ix accounts budget sysvars logs cells)
      (execute program ix accounts budget sysvars logs' cells) := by
  simp only [execute]
  split
  · exact .some ⟨rfl, rfl⟩
  · rename_i charged charge
    split
    · exact .some ⟨rfl, rfl⟩
    · rename_i received resolved
      have same :=
        blind ix.data
          { programId := ix.programId
            accountMetas := ix.accounts
            sysvars }
          { accounts := received
            logs := logs.invoke ix.programId
            budget := charged
            cells }
          { accounts := received
            logs := logs'.invoke ix.programId
            budget := charged
            cells }
          ⟨rfl, rfl, rfl⟩
      simp only [invoke]
      revert same
      generalize program.invoke ix.data _ _ = reached
      generalize program.invoke ix.data _ _ = reached'
      intro same
      cases same with
      | none =>
          exact .none
      | some both =>
          rename_i ended ended'
          rcases ended with ⟨verdict, state⟩
          rcases ended' with ⟨verdict', state'⟩
          rcases both with ⟨rfl, sameAccounts, sameBudget, sameCells⟩
          dsimp only at sameAccounts sameBudget
          cases verdict with
          | error err =>
              refine .some ⟨?_, sameCells⟩
              simp only [failed, sameBudget]
          | ok value =>
              refine .some ⟨?_, sameCells⟩
              simp only [succeeded, sameAccounts, sameBudget]

theorem applyValidation_sameOutcome {outcome : ExecutionOutcome}
    {policy : ValidationPolicy} (logs logs' : LogCapture) :
    (applyValidation ix accounts outcome policy logs).1 =
      (applyValidation ix accounts outcome policy logs').1 := by
  simp only [applyValidation]
  split
  · rfl
  · split <;> rfl

/-- Related results stay related when both are mapped on. -/
private theorem rel_map_map {α β γ δ : Type} {related : α → β → Prop}
    {related' : γ → δ → Prop} {left : Option α} {right : Option β}
    {f : α → γ} {g : β → δ} (same : Option.Rel related left right)
    (maps : ∀ a b, related a b → related' (f a) (g b)) :
    Option.Rel related' (left.map f) (right.map g) := by
  cases same with
  | none =>
      exact .none
  | some both =>
      exact .some (maps _ _ both)

/-- One result, mapped on in two ways. -/
private theorem rel_map {α γ δ : Type} {related : γ → δ → Prop}
    (result : Option α) {f : α → γ} {g : α → δ}
    (maps : ∀ a, related (f a) (g a)) :
    Option.Rel related (result.map f) (result.map g) := by
  cases result with
  | none =>
      exact .none
  | some a =>
      exact .some (maps a)

/-- A linked run does not read the log. -/
private theorem tryExecute_sameOutcome (engine : BpfEngine)
    (budget : ComputeBudget) (sysvars : Sysvars)
    (logs logs' : LogCapture) :
    Option.Rel (Option.Rel fun left right => left.1 = right.1)
      (engine.tryExecute ix accounts budget sysvars logs)
      (engine.tryExecute ix accounts budget sysvars logs') := by
  rw [BpfEngine.tryExecute]
  apply rel_map
  intro loaded
  dsimp only
  split
  · exact .some rfl
  · apply rel_map
    intro answer
    cases answer with
    | error err =>
        rfl
    | ok post =>
        rfl

private theorem bpfEngine_sameOutcome (svm : HopperSvm)
    (ix : Instruction) (accounts : List KeyedAccount)
    (logs logs' : LogCapture) :
    Option.Rel (Option.Rel fun left right => left.1 = right.1)
      (svm.bpfEngine.bind fun engine =>
        engine.tryExecute ix accounts svm.dispatchBudget svm.sysvars logs)
      (svm.bpfEngine.bind fun engine =>
        engine.tryExecute ix accounts svm.dispatchBudget svm.sysvars
          logs') := by
  cases svm.bpfEngine with
  | none =>
      exact .none
  | some engine =>
      exact tryExecute_sameOutcome engine _ _ logs logs'

/-- Whichever engine runs, a dispatch does not depend on the lines logged
before it. -/
theorem dispatchOne_logBlind (blind : svm.LogBlindRegistry)
    (logs logs' : LogCapture) :
    Option.Rel SameButTranscript (svm.dispatchOne ix accounts logs)
      (svm.dispatchOne ix accounts logs') := by
  simp only [dispatchOne]
  split
  · simp only [dispatchThroughAgave]
    rw [Option.map_map, Option.map_map]
    apply rel_map
    intro answer
    cases answer with
    | error err =>
        exact ⟨rfl, rfl⟩
    | ok post =>
        exact ⟨rfl, rfl⟩
  · split
    · rename_i builtin found
      apply rel_map_map
        (execute_logBlind (blind ix.programId builtin found) logs logs')
      rintro left right ⟨sameOutcome, sameCells⟩
      refine ⟨?_, sameCells⟩
      dsimp only
      rw [sameOutcome]
      exact applyValidation_sameOutcome _ _
    · have same := bpfEngine_sameOutcome svm ix accounts logs logs'
      revert same
      generalize (svm.bpfEngine.bind fun engine => _) = tried
      generalize (svm.bpfEngine.bind fun engine => _) = tried'
      intro same
      cases same with
      | none =>
          exact .some ⟨rfl, rfl⟩
      | some both =>
          apply rel_map_map both
          intro left right sameOutcome
          refine ⟨?_, rfl⟩
          dsimp only
          rw [sameOutcome]
          exact applyValidation_sameOutcome _ _

namespace Succeeds

variable {received : List KeyedAccount} {state : InvokeState}

/-- Under Strict the validator's verdict, read off the ledgers. -/
theorem accepts (keeps : program.KeepsAddresses)
    (distinct : (addresses accounts).Nodup)
    (strict : svm.validationPolicy = .strict)
    (succeeds : svm.Succeeds program ix accounts logs received state) :
    Accepts ix.programId ix.accounts (ledgerOf accounts)
      (ledgerOf (mergeAccounts accounts state.accounts)) := by
  have validated := succeeds.validated
  rw [strict] at validated
  exact
    ((succeeds.reached.rewrites keeps distinct).validate_iff
      ix.accounts_length
      ix.programId).mp validated

end Succeeds

theorem Succeeds.processInstruction_eq {received : List KeyedAccount}
    {state : InvokeState}
    (registered : svm.Registered ix.programId program)
    (succeeds :
      svm.Succeeds program ix accounts .empty received state) :
    svm.processInstruction ix accounts =
      some
        (.fromOutcome (succeeded ix accounts state).outcome
          (succeeded ix accounts state).logs,
          svm.withCells state.cells) := by
  rw [processInstruction, succeeds.dispatchOne_eq registered]
  rfl

/-- A successful single instruction of a registered program, inverted. -/
theorem processInstruction_succeeded {result : HopperExecutionResult}
    {svm' : HopperSvm}
    (registered : svm.Registered ix.programId program)
    (ran : svm.processInstruction ix accounts = some (result, svm'))
    (success : result.outcome.error = none) :
    ∃ received state,
      svm.Succeeds program ix accounts .empty received state ∧
        result.outcome = (succeeded ix accounts state).outcome ∧
        svm' = svm.withCells state.cells := by
  rcases Option.map_eq_some_iff.mp ran with ⟨dispatch, dispatched, same⟩
  cases same
  obtain ⟨received, state, succeeds, rfl⟩ :=
    dispatchOne_succeeded registered dispatched success
  exact ⟨received, state, succeeds, rfl, rfl⟩

end HopperSvm

end Hopper
