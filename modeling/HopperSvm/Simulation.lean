import HopperSvm.CreateAccount
import HopperSvm.Failure
import HopperSvm.StatefulVerbs

/-!
A simulation is a processing verb, and over the overlay it puts the overlay
back.  Nothing puts the harness cells back, so a simulation is invisible
exactly when the compute-budget requests it accepted ask for the limit and
the price that the cells already hold.
-/

namespace Hopper

open Words

namespace HopperSvm

/-- `HopperSvm::simulate_instruction`. -/
def simulateInstruction (svm : HopperSvm) (ix : Instruction)
    (accounts : List KeyedAccount) :
    Option (HopperExecutionResult × HopperSvm) :=
  svm.processInstruction ix accounts

/-- `HopperSvm::simulate_instruction_chain`. -/
def simulateInstructionChain (svm : HopperSvm) (ixs : List Instruction)
    (accounts : List KeyedAccount) :
    Option (HopperExecutionResult × HopperSvm) :=
  svm.processInstructionChain ixs accounts

/-- `HopperSvm::restore_accounts`. -/
def restoreAccounts (svm : HopperSvm) (snapshot : AccountStore) :
    HopperSvm :=
  { svm with accountStore := snapshot }

/-- `HopperSvm::simulate_instruction_with_store`. -/
def simulateInstructionWithStore (svm : HopperSvm) (ix : Instruction) :
    Option (HopperExecutionResult × HopperSvm) :=
  (svm.processInstructionWithStore ix).map fun run =>
    (run.1, run.2.restoreAccounts svm.accountStore)

/-- `HopperSvm::simulate_instruction_chain_with_store`. -/
def simulateInstructionChainWithStore (svm : HopperSvm)
    (ixs : List Instruction) :
    Option (HopperExecutionResult × HopperSvm) :=
  (svm.processInstructionChainWithStore ixs).map fun run =>
    (run.1, run.2.restoreAccounts svm.accountStore)

/-- The request an instruction makes of the harness cells, when the
compute-budget program is the one it goes to. -/
def requestOf (svm : HopperSvm) (ix : Instruction) :
    Option ComputeBudgetInstruction :=
  if ix.programId = computeBudgetProgramId ∧
      svm.agaveClaims ix.programId = false ∧
      (svm.registry ix.programId).isSome then
    (ComputeBudgetInstruction.parse ix.data).toOption
  else
    none

/-- The cells after the requests of the instructions. -/
def requestedCells (svm : HopperSvm) (ixs : List Instruction) :
    HarnessCells :=
  (ixs.filterMap svm.requestOf).foldl
    (fun cells request => request.apply cells) svm.cells

/-- The requests ask for what the cells hold. -/
def Restates (svm : HopperSvm) (ixs : List Instruction) : Prop :=
  svm.requestedCells ixs = svm.cells

instance (svm : HopperSvm) (ixs : List Instruction) :
    Decidable (svm.Restates ixs) :=
  inferInstanceAs (Decidable (_ = _))

variable {svm svm' : HopperSvm} {ix : Instruction}
  {ixs : List Instruction} {accounts : List KeyedAccount}
  {logs : LogCapture} {result : HopperExecutionResult}

theorem requestedCells_cons (svm : HopperSvm) (ix : Instruction)
    (rest : List Instruction) :
    svm.requestedCells (ix :: rest) =
      (svm.withCells (svm.requestedCells [ix])).requestedCells rest := by
  have sameRequests (cells : HarnessCells) :
      (svm.withCells cells).requestOf = svm.requestOf := rfl
  simp only [requestedCells, sameRequests]
  rw [show ix :: rest = [ix] ++ rest from rfl, List.filterMap_append,
    List.foldl_append]
  rfl

theorem requestOf_of_other (other : ix.programId ≠ computeBudgetProgramId) :
    svm.requestOf ix = none :=
  if_neg fun goes => other goes.1

theorem requestedCells_of_none (noRequest : svm.requestOf ix = none) :
    svm.requestedCells [ix] = svm.cells := by
  simp [requestedCells, noRequest]

theorem requestedCells_of_some {request : ComputeBudgetInstruction}
    (requested : svm.requestOf ix = some request) :
    svm.requestedCells [ix] = request.apply svm.cells := by
  simp [requestedCells, requested]

/-- The compute-budget program accepts an instruction only if it parses to a
request, and writes what that asks for. -/
theorem execute_computeBudget_cells {budget : ComputeBudget}
    {sysvars : Sysvars} {cells : HarnessCells} {run : EngineRun}
    (ran : BuiltinEngine.execute computeBudgetProgramSimulator ix accounts
      budget sysvars logs cells = some run)
    (success : run.outcome.error = none) :
    ∃ request,
      ComputeBudgetInstruction.parse ix.data = .ok request ∧
        run.cells = request.apply cells := by
  obtain ⟨received, state, reached, rfl⟩ :=
    BuiltinEngine.execute_succeeded ran success
  have invoked :
      ComputeBudgetProgram.invoke ix.data _ _ = some (.ok (), state) :=
    reached.invoked
  rw [ComputeBudgetProgram.invoke_eq] at invoked
  split at invoked
  · rename_i request parsed
    cases invoked
    exact ⟨request, parsed, rfl⟩
  · cases invoked

/-- A successful dispatch writes the cells its request asks for. -/
theorem dispatchOne_succeeded_cells {dispatch : Dispatch}
    (only : svm.OnlyBundled)
    (ran : svm.dispatchOne ix accounts logs = some dispatch)
    (success : dispatch.outcome.error = none) :
    dispatch.cells = svm.requestedCells [ix] := by
  have noRequest (unregistered : svm.registry ix.programId = none) :
      svm.requestOf ix = none :=
    if_neg (by simp [unregistered])
  cases goes_of_dispatchOne ran with
  | agave engine claimed linked =>
      have noRequest : svm.requestOf ix = none :=
        if_neg (by simp [claimed])
      exact (requestedCells_of_none noRequest).symm
  | @builtin builtin run unclaimed found executed =>
      have noError := (applyValidation_succeeded success).1
      rcases (only _ _ found).keepsCells_or_computeBudget with
        ⟨other, keeps⟩ | ⟨same, rfl⟩
      · rw [requestedCells_of_none (requestOf_of_other other)]
        obtain ⟨received, state, reached, rfl⟩ :=
          BuiltinEngine.execute_succeeded executed noError
        exact keeps ix.data _ _ _ _ reached.invoked
      · obtain ⟨request, parsed, cells⟩ :=
          execute_computeBudget_cells executed noError
        have goes : ix.programId = computeBudgetProgramId ∧
            svm.agaveClaims ix.programId = false ∧
            (svm.registry ix.programId).isSome :=
          ⟨same, unclaimed, by rw [found]; rfl⟩
        have requested : svm.requestOf ix = some request := by
          rw [requestOf, if_pos goes, parsed]
          rfl
        rw [requestedCells_of_some requested]
        exact cells
  | bpf unclaimed unregistered installed tried =>
      exact (requestedCells_of_none (noRequest unregistered)).symm
  | nowhere unclaimed unregistered unloaded =>
      exact (requestedCells_of_none (noRequest unregistered)).symm

theorem dispatchOne_failed_withCells {dispatch : Dispatch}
    (only : svm.OnlyBundled)
    (ran : svm.dispatchOne ix accounts logs = some dispatch)
    (failure : dispatch.outcome.error ≠ none) :
    svm.withCells dispatch.cells = svm := by
  have bundled (program : BuiltinProgram)
      (found : svm.registry ix.programId = some program) :
      program.Bundled :=
    ⟨ix.programId, only _ _ found⟩
  rw [dispatchOne_failed_cells bundled ran failure]
  rfl

theorem withCells_requested_iff :
    svm.withCells (svm.requestedCells ixs) = svm ↔ svm.Restates ixs := by
  constructor
  · intro same
    exact congrArg HopperSvm.cells same
  · intro restates
    rw [restates]
    rfl

/-- The instruction can pay for the compute-budget program and all its metas
are supplied. -/
def Admits (svm : HopperSvm) (ix : Instruction)
    (accounts : List KeyedAccount) : Prop :=
  computeBudgetCu ≤ svm.dispatchBudget.limit ∧
    ∀ accountMeta ∈ ix.accounts,
      accountMeta.pubkey ∈ addresses accounts

theorem resolveAccounts_of_mem {metas : List AccountMeta}
    (supplied : ∀ accountMeta ∈ metas,
      accountMeta.pubkey ∈ addresses accounts) :
    ∃ received, resolveAccounts accounts metas = .ok received := by
  induction metas with
  | nil =>
      exact ⟨[], rfl⟩
  | cons accountMeta rest inductionHypothesis =>
      obtain ⟨account, found⟩ :=
        KeyedList.exists_lookup_of_mem KeyedAccount.address
          (supplied accountMeta List.mem_cons_self)
      obtain ⟨received, resolved⟩ :=
        inductionHypothesis fun later member =>
          supplied later (List.mem_cons_of_mem _ member)
      refine ⟨account :: received, ?_⟩
      have found' : findAccount accountMeta.pubkey accounts = some account :=
        found
      rw [resolveAccounts, found', resolved]
      rfl

theorem consume_reset_iff {budget : ComputeBudget} {units : UInt64} :
    (budget.reset.consume units).1 = .ok () ↔ units ≤ budget.limit := by
  have charged : saturatingAdd budget.reset.consumed units = units := by
    rw [← UInt64.toNat_inj, toNat_saturatingAdd]
    have bound := toNat_le_u64Max units
    have empty : budget.reset.consumed.toNat = 0 := rfl
    omega
  rw [ComputeBudget.consume, charged]
  rw [show budget.reset.limit = budget.limit from rfl]
  split
  · rename_i overrun
    simpa using overrun
  · rename_i within
    simpa using within

/-- A compute-budget request succeeds exactly when it is admitted. -/
theorem dispatchOne_request_success_iff {dispatch : Dispatch}
    {request : ComputeBudgetInstruction} (only : svm.OnlyBundled)
    (requested : svm.requestOf ix = some request)
    (ran : svm.dispatchOne ix accounts logs = some dispatch) :
    dispatch.outcome.error = none ↔ svm.Admits ix accounts := by
  have goes : ix.programId = computeBudgetProgramId ∧
      svm.agaveClaims ix.programId = false ∧
      (svm.registry ix.programId).isSome := by
    by_contra elsewhere
    rw [requestOf, if_neg elsewhere] at requested
    cases requested
  have parsed : ComputeBudgetInstruction.parse ix.data = .ok request := by
    rw [requestOf, if_pos goes] at requested
    revert requested
    cases ComputeBudgetInstruction.parse ix.data with
    | error message =>
        intro requested
        cases requested
    | ok other =>
        intro requested
        exact congrArg Except.ok (Option.some.inj requested)
  obtain ⟨program, found⟩ := Option.isSome_iff_exists.mp goes.2.2
  have isComputeBudget : program = computeBudgetProgramSimulator := by
    rcases (only _ _ found).keepsCells_or_computeBudget with
      ⟨other, _⟩ | ⟨_, same⟩
    · exact absurd goes.1 other
    · exact same
  rw [isComputeBudget] at found
  have registered :
      svm.Registered ix.programId computeBudgetProgramSimulator :=
    ⟨goes.2.1, found⟩
  constructor
  · intro success
    obtain ⟨received, state, succeeds, _⟩ :=
      dispatchOne_succeeded registered ran success
    refine ⟨consume_reset_iff.mp succeeds.reached.affordable, ?_⟩
    intro accountMeta member
    exact mem_addresses_of_resolved succeeds.reached.resolved member
  · rintro ⟨affordable, supplied⟩
    obtain ⟨received, resolved⟩ := resolveAccounts_of_mem supplied
    have reached :
        BuiltinEngine.Reaches computeBudgetProgramSimulator ix accounts
          svm.dispatchBudget svm.sysvars logs svm.cells received _ :=
      { affordable := consume_reset_iff.mpr affordable
        resolved := resolved
        invoked :=
          (ComputeBudgetProgram.invoke_eq ix.data _ _).trans
            (by rw [parsed]) }
    have validated :
        validatePostState ix.programId ix.accounts accounts
            (mergeAccounts accounts received) svm.validationPolicy =
          .ok () := by
      rw [mergeAccounts_of_resolved resolved]
      exact validatePostState_unchanged ix.accounts_length _ _
    have succeeds :
        svm.Succeeds computeBudgetProgramSimulator ix accounts logs
          received _ :=
      ⟨reached, validated⟩
    rw [succeeds.dispatchOne_eq registered] at ran
    cases ran
    rfl

/-- A simulated instruction leaves the harness as it was exactly when it is
not admitted or restates the cells. -/
theorem processInstruction_invisible_iff (only : svm.OnlyBundled)
    (ran : svm.processInstruction ix accounts = some (result, svm')) :
    svm' = svm ↔ (svm.Admits ix accounts → svm.Restates [ix]) := by
  rcases Option.map_eq_some_iff.mp ran with ⟨dispatch, dispatched, same⟩
  cases same
  have cellsOfSuccess (success : dispatch.outcome.error = none) :
      svm.withCells dispatch.cells = svm ↔ svm.Restates [ix] := by
    rw [dispatchOne_succeeded_cells only dispatched success]
    exact withCells_requested_iff
  cases requested : svm.requestOf ix with
  | none =>
      have restates : svm.Restates [ix] := requestedCells_of_none requested
      refine iff_of_true ?_ fun _ => restates
      by_cases success : dispatch.outcome.error = none
      · exact (cellsOfSuccess success).mpr restates
      · exact dispatchOne_failed_withCells only dispatched success
  | some request =>
      have admitted :=
        dispatchOne_request_success_iff only requested dispatched
      by_cases success : dispatch.outcome.error = none
      · rw [cellsOfSuccess success]
        constructor
        · intro restates _
          exact restates
        · intro restates
          exact restates (admitted.mp success)
      · refine iff_of_true ?_ fun admits =>
          absurd (admitted.mpr admits) success
        exact dispatchOne_failed_withCells only dispatched success

/-! ## A chain -/

/-- The chain completes the instructions `done` and then ends or fails. -/
inductive StopsAfter : HopperSvm → Nat → List Instruction →
    List KeyedAccount → LogCapture → List Instruction → Prop
  | finished {svm : HopperSvm} {index : Nat}
      {accounts : List KeyedAccount} {logs : LogCapture} :
      StopsAfter svm index [] accounts logs []
  | failed {svm : HopperSvm} {index : Nat} {ix : Instruction}
      {rest : List Instruction} {accounts : List KeyedAccount}
      {logs : LogCapture} {dispatch : Dispatch}
      (ran : svm.dispatchOne ix accounts
        (logs.sectionBreak s!"ix[{index}] @ {ix.programId}") =
          some dispatch)
      (failure : dispatch.outcome.error ≠ none) :
      StopsAfter svm index (ix :: rest) accounts logs []
  | completed {svm : HopperSvm} {index : Nat} {ix : Instruction}
      {rest done : List Instruction} {accounts : List KeyedAccount}
      {logs : LogCapture} {dispatch : Dispatch}
      (ran : svm.dispatchOne ix accounts
        (logs.sectionBreak s!"ix[{index}] @ {ix.programId}") =
          some dispatch)
      (success : dispatch.outcome.error = none)
      (later : StopsAfter (svm.withCells dispatch.cells) (index + 1) rest
        (carryForward accounts dispatch.outcome.resultingAccounts)
        dispatch.logs done) :
      StopsAfter svm index (ix :: rest) accounts logs (ix :: done)

theorem StopsAfter.unique {index : Nat} {done done' : List Instruction}
    (stops : StopsAfter svm index ixs accounts logs done)
    (stops' : StopsAfter svm index ixs accounts logs done') :
    done = done' := by
  induction stops generalizing done' with
  | finished =>
      cases stops'
      rfl
  | failed ran failure =>
      cases stops' with
      | failed _ _ => rfl
      | completed ran' success _ =>
          cases ran.symm.trans ran'
          exact absurd success failure
  | completed ran success later inductionHypothesis =>
      cases stops' with
      | failed ran' failure =>
          cases ran.symm.trans ran'
          exact absurd success failure
      | completed ran' _ later' =>
          cases ran.symm.trans ran'
          rw [inductionHypothesis later']

/-- A chain leaves the cells its completed instructions ask for. -/
theorem runChain_cells (only : svm.OnlyBundled) {index : Nat}
    {final : Option ExecutionOutcome} {ended : ChainEnd}
    (ran : runChain svm index ixs accounts logs final = some ended) :
    ∃ done, StopsAfter svm index ixs accounts logs done ∧
      ended.svm = svm.withCells (svm.requestedCells done) := by
  have run := runs_of_runChain ran
  clear ran
  induction run with
  | finished =>
      exact ⟨[], .finished, rfl⟩
  | failed ran failure =>
      refine ⟨[], .failed ran failure, ?_⟩
      exact dispatchOne_failed_withCells only ran failure
  | @completed svm _ ix _ _ _ _ dispatch ended ran success later
      inductionHypothesis =>
      have onlyLater : (svm.withCells dispatch.cells).OnlyBundled := only
      obtain ⟨done, stops, left⟩ := inductionHypothesis onlyLater
      refine ⟨ix :: done, .completed ran success stops, ?_⟩
      rw [left, requestedCells_cons,
        dispatchOne_succeeded_cells only ran success]
      rfl

theorem processInstructionChain_invisible_iff (only : svm.OnlyBundled)
    (ran : svm.processInstructionChain ixs accounts =
      some (result, svm')) :
    svm' = svm ↔
      ∀ done, StopsAfter svm 0 ixs accounts .empty done →
        svm.Restates done := by
  rcases Option.map_eq_some_iff.mp ran with ⟨ended, looped, same⟩
  cases same
  obtain ⟨done, stops, left⟩ := runChain_cells only looped
  rw [left, withCells_requested_iff]
  constructor
  · intro restates other stops'
    rw [← stops.unique stops']
    exact restates
  · intro restates
    exact restates done stops

/-- Committing writes nothing but the overlay. -/
theorem restoreAccounts_commit {run : HopperExecutionResult × HopperSvm}
    {store : AccountStore} :
    (commitIfSuccess run).2.restoreAccounts store =
      run.2.restoreAccounts store := by
  unfold commitIfSuccess
  split <;> rfl

theorem processInstruction_restored
    (ran : svm.processInstruction ix accounts = some (result, svm')) :
    svm'.restoreAccounts svm.accountStore = svm' := by
  rcases Option.map_eq_some_iff.mp ran with ⟨dispatch, _, same⟩
  cases same
  rfl

theorem processInstructionChain_restored (only : svm.OnlyBundled)
    (ran : svm.processInstructionChain ixs accounts =
      some (result, svm')) :
    svm'.restoreAccounts svm.accountStore = svm' := by
  rcases Option.map_eq_some_iff.mp ran with ⟨ended, looped, same⟩
  cases same
  obtain ⟨done, _, left⟩ := runChain_cells only looped
  rw [left]
  rfl

theorem simulateInstructionWithStore_eq
    (ran : svm.simulateInstructionWithStore ix = some (result, svm')) :
    ∃ result', svm.processInstruction ix (svm.collectInputs ix) =
      some (result', svm') := by
  rcases Option.map_eq_some_iff.mp ran with ⟨committed, stored, same⟩
  rcases Option.map_eq_some_iff.mp stored with ⟨run, processed, rfl⟩
  obtain ⟨-, restored⟩ := Prod.mk.inj same
  rw [restoreAccounts_commit, processInstruction_restored processed]
    at restored
  exact ⟨run.1, by rw [processed, ← restored]⟩

theorem simulateInstructionChainWithStore_eq (only : svm.OnlyBundled)
    (ran : svm.simulateInstructionChainWithStore ixs =
      some (result, svm')) :
    ∃ result',
      svm.processInstructionChain ixs (svm.collectChainInputs ixs) =
        some (result', svm') := by
  rcases Option.map_eq_some_iff.mp ran with ⟨committed, stored, same⟩
  rcases Option.map_eq_some_iff.mp stored with ⟨run, processed, rfl⟩
  obtain ⟨-, restored⟩ := Prod.mk.inj same
  rw [restoreAccounts_commit,
    processInstructionChain_restored only processed] at restored
  exact ⟨run.1, by rw [processed, ← restored]⟩

/-- Each verb leaves the harness as it was exactly when the requests of what
it completed restate the cells. -/
theorem simulations_invisible_iff (only : svm.OnlyBundled) :
    (∀ ix accounts result svm',
      svm.simulateInstruction ix accounts = some (result, svm') →
        (svm' = svm ↔ (svm.Admits ix accounts → svm.Restates [ix]))) ∧
    (∀ ixs accounts result svm',
      svm.simulateInstructionChain ixs accounts = some (result, svm') →
        (svm' = svm ↔
          ∀ done, StopsAfter svm 0 ixs accounts .empty done →
            svm.Restates done)) ∧
    (∀ ix result svm',
      svm.simulateInstructionWithStore ix = some (result, svm') →
        (svm' = svm ↔
          (svm.Admits ix (svm.collectInputs ix) → svm.Restates [ix]))) ∧
    (∀ ixs result svm',
      svm.simulateInstructionChainWithStore ixs = some (result, svm') →
        (svm' = svm ↔
          ∀ done,
            StopsAfter svm 0 ixs (svm.collectChainInputs ixs) .empty
                done →
              svm.Restates done)) := by
  refine ⟨?_, ?_, ?_, ?_⟩
  · intro ix accounts result svm' ran
    exact processInstruction_invisible_iff only ran
  · intro ixs accounts result svm' ran
    exact processInstructionChain_invisible_iff only ran
  · intro ix result svm' ran
    obtain ⟨result', processed⟩ := simulateInstructionWithStore_eq ran
    exact processInstruction_invisible_iff only processed
  · intro ixs result svm' ran
    obtain ⟨result', processed⟩ :=
      simulateInstructionChainWithStore_eq only ran
    exact processInstructionChain_invisible_iff only processed

/-- `SetComputeUnitLimit` to 7. -/
def limitIx : Instruction :=
  { programId := computeBudgetProgramId
    accounts := []
    data := [2, 7, 0, 0, 0]
    accounts_length := Instruction.noAccounts_length }

/-- A default harness with the compute-budget program. -/
def meteredSvm : HopperSvm :=
  (HopperSvm.new Creation.idleCrates).withComputeBudgetProgram

theorem meteredSvm_onlyBundled : meteredSvm.OnlyBundled := by
  refine OnlyBundled.withBuiltin ?_ .computeBudget
  refine OnlyBundled.withBuiltin ?_ (.system _)
  intro id program found
  cases found

theorem simulations_invisible_iff_limitIx :
    ∃ result svm',
      meteredSvm.simulateInstruction limitIx [] = some (result, svm') ∧
        (svm' = meteredSvm ↔
          (meteredSvm.Admits limitIx [] →
            meteredSvm.Restates [limitIx])) :=
  ⟨_, _, rfl,
    (simulations_invisible_iff meteredSvm_onlyBundled).1 limitIx [] _ _
      rfl⟩

/-- The simulated request stays pending, and the next instruction runs out
of compute units where it did not before. -/
theorem simulated_limit_persists :
    ∃ result svm',
      meteredSvm.simulateInstruction limitIx [] = some (result, svm') ∧
        svm' ≠ meteredSvm ∧
        svm'.cells.pendingCuLimit = some 7 ∧
        (∃ before svm'', meteredSvm.processInstruction limitIx [] =
          some (before, svm'') ∧ before.outcome.error = none) ∧
        (∃ after svm'', svm'.processInstruction limitIx [] =
          some (after, svm'') ∧
            after.outcome.error = some (.outOfComputeUnits 150 7)) := by
  refine ⟨_, _, rfl, ?_, rfl, ⟨_, _, rfl, rfl⟩, ⟨_, _, rfl, rfl⟩⟩
  intro same
  have cells := congrArg (fun svm => svm.cells.pendingCuLimit) same
  cases cells

end HopperSvm

end Hopper
