import HopperSvm.Chain
import HopperSvm.Library.Footprint

/-!
What a successful instruction does to a ledger, without lists and logs: look
up each meta, run the program, write the slots back with the last slot at an
address winning, under the validator's verdict.  Such a step is local to the
metas' addresses, a dispatch over any list with distinct addresses refines
it, and each step is taken by some dispatch.
-/

namespace Hopper

open BuiltinEngine

namespace HopperSvm

/-- The addresses an instruction names. -/
def footprint (ix : Instruction) : Set Pubkey :=
  { address | address ∈ ix.accounts.map AccountMeta.pubkey }

/-- One successful instruction on a ledger, from the harness cells it
starts with to those it leaves. -/
inductive LedgerStep (svm : HopperSvm) (ix : Instruction) :
    HarnessCells → Ledger → HarnessCells → Ledger → Prop
  | run {program : BuiltinProgram} {cells : HarnessCells}
      {before : Ledger} {received : List KeyedAccount}
      {state : InvokeState}
      (found : svm.registry ix.programId = some program)
      (affordable :
        ((svm.withCells cells).dispatchBudget.reset.consume
          (program.cost
            (svm.withCells cells).dispatchBudget.reset)).1 = .ok ())
      (resolved : ix.accounts.map (fun accountMeta =>
        before accountMeta.pubkey) = received.map some)
      (named : addresses received = ix.accounts.map AccountMeta.pubkey)
      (invoked :
        invoke program ix svm.sysvars
            ((svm.withCells cells).dispatchBudget.reset.consume
              (program.cost
                (svm.withCells cells).dispatchBudget.reset)).2
            (LogCapture.empty.invoke ix.programId) cells received =
          some (.ok (), state))
      (accepted : svm.validationPolicy = .strict →
        Accepts ix.programId ix.accounts before
          (writeBack before state.accounts)) :
      LedgerStep svm ix cells before state.cells
        (writeBack before state.accounts)

variable {svm : HopperSvm} {program : BuiltinProgram} {ix : Instruction}
  {accounts : List KeyedAccount} {logs : LogCapture}

/-- The instruction goes to a registered program that leaves addresses
alone and never reads the log back. -/
structure Serves (svm : HopperSvm) (ix : Instruction)
    (program : BuiltinProgram) : Prop where
  registered : svm.Registered ix.programId program
  keeps : program.KeepsAddresses
  blind : program.LogBlind

theorem Serves.eq_of_found {other : BuiltinProgram}
    (serves : svm.Serves ix program)
    (found : svm.registry ix.programId = some other) :
    other = program :=
  Option.some.inj (found.symm.trans serves.registered.found)

/-- Neither the cells of a harness nor its account overlay are part of its
ledger steps. -/
theorem ledgerStep_withStore (svm : HopperSvm) (cells : HarnessCells)
    (store : AccountStore) :
    LedgerStep { svm with cells, accountStore := store } =
      LedgerStep svm := by
  funext ix start before final after
  apply propext
  constructor
  · intro step
    cases step with
    | run found affordable resolved named invoked accepted =>
        exact .run found affordable resolved named invoked accepted
  · intro step
    cases step with
    | run found affordable resolved named invoked accepted =>
        exact .run found affordable resolved named invoked accepted

theorem ledgerStep_withCells (svm : HopperSvm) (cells : HarnessCells) :
    LedgerStep (svm.withCells cells) = LedgerStep svm :=
  ledgerStep_withStore svm cells svm.accountStore

theorem LedgerStep.isLocal (serves : svm.Serves ix program) :
    Footprint.Local (footprint ix) (LedgerStep svm ix) where
  frame := by
    rintro cells before cells' after ⟨found, _, _, named, invoked, _⟩
    cases serves.eq_of_found found
    intro address outside
    apply writeBack_of_not_mem
    rw [serves.keeps ix.data _ _ _ _ invoked, named]
    exact outside
  reads := by
    rintro cells left right cells' left' agree
      ⟨found, affordable, resolved, named, invoked, accepted⟩
    rename_i builtin received state
    have sameWrites :
        Set.EqOn (writeBack left state.accounts)
          (writeBack right state.accounts) (footprint ix) := by
      intro address member
      rw [writeBack, writeBack, agree member]
    refine ⟨writeBack right state.accounts, ?_, sameWrites⟩
    refine .run found affordable ?_ named invoked ?_
    · rw [← resolved]
      apply List.map_congr_left
      intro accountMeta member
      exact (agree (List.mem_map_of_mem member)).symm
    · intro strict
      exact
        Accepts.congr (fun address member => agree member)
          (fun address member => sameWrites member) (accepted strict)

theorem LedgerStep.quiet (serves : svm.Serves ix program)
    (cellsKept : program.KeepsCells) :
    Footprint.Quiet (LedgerStep svm ix) := by
  intro cells before cells' after steps
  rcases steps with ⟨found, _, _, _, invoked, _⟩
  cases serves.eq_of_found found
  exact cellsKept ix.data _ _ _ _ invoked

/-- The same run of the program from another log. -/
private theorem invoke_of_logBlind (blind : program.LogBlind)
    {sysvars : Sysvars} {budget : ComputeBudget} {cells : HarnessCells}
    {received : List KeyedAccount} {state : InvokeState}
    (invoked : invoke program ix sysvars budget logs cells received =
      some (.ok (), state))
    (logs' : LogCapture) :
    ∃ state',
      invoke program ix sysvars budget logs' cells received =
          some (.ok (), state') ∧
        SameButLogs state state' := by
  have same :=
    blind ix.data
      { programId := ix.programId
        accountMetas := ix.accounts
        sysvars }
      { accounts := received, logs, budget, cells }
      { accounts := received, logs := logs', budget, cells }
      ⟨rfl, rfl, rfl⟩
  unfold invoke at invoked ⊢
  rw [invoked] at same
  revert same
  generalize program.invoke ix.data _ _ = reached'
  intro same
  cases same with
  | some both =>
      rename_i ended'
      rcases ended' with ⟨verdict', state'⟩
      rcases both with ⟨rfl, sameState⟩
      exact ⟨state', rfl, sameState⟩

/-- A successful dispatch is a ledger step on the same addresses. -/
theorem Succeeds.ledgerStep {received : List KeyedAccount}
    {state : InvokeState}
    (serves : svm.Serves ix program)
    (distinct : (addresses accounts).Nodup)
    (succeeds : svm.Succeeds program ix accounts logs received state) :
    LedgerStep svm ix svm.cells (ledgerOf accounts) state.cells
      (ledgerOf (mergeAccounts accounts state.accounts)) := by
  obtain ⟨state', invoked, sameAccounts, _, sameCells⟩ :=
    invoke_of_logBlind serves.blind succeeds.reached.invoked
      (LogCapture.empty.invoke ix.programId)
  rw [ledgerOf_mergeAccounts, sameAccounts, sameCells]
  refine
    .run serves.registered.found succeeds.reached.affordable
      (resolveAccounts_eq_ok.mp succeeds.reached.resolved)
      (addresses_of_resolved succeeds.reached.resolved) invoked ?_
  intro strict
  have accepts := succeeds.accepts serves.keeps distinct strict
  rwa [ledgerOf_mergeAccounts, sameAccounts] at accepts

/-- A ledger step is taken by a dispatch over any list with distinct
addresses that stands for the ledger. -/
theorem LedgerStep.dispatches {cells' : HarnessCells} {after : Ledger}
    (serves : svm.Serves ix program)
    (distinct : (addresses accounts).Nodup)
    (step : LedgerStep svm ix svm.cells (ledgerOf accounts) cells'
      after)
    (logs : LogCapture) :
    ∃ dispatch,
      svm.dispatchOne ix accounts logs = some dispatch ∧
        dispatch.outcome.error = none ∧ dispatch.cells = cells' ∧
        ledgerOf dispatch.outcome.resultingAccounts = after ∧
        addresses dispatch.outcome.resultingAccounts =
          addresses accounts := by
  cases step with
  | run found affordable resolved named invoked accepted =>
      rename_i builtin received state
      cases serves.eq_of_found found
      obtain ⟨state', invoked', sameAccounts, _, sameCells⟩ :=
        invoke_of_logBlind serves.blind invoked
          (logs.invoke ix.programId)
      have reached :
          Reaches program ix accounts svm.dispatchBudget svm.sysvars logs
            svm.cells received state' :=
        { affordable := affordable
          resolved := resolveAccounts_eq_ok.mpr resolved
          invoked := invoked' }
      have rewrites := reached.rewrites serves.keeps distinct
      have succeeds :
          svm.Succeeds program ix accounts logs received state' := by
        refine ⟨reached, ?_⟩
        cases policy : svm.validationPolicy with
        | lax =>
            rfl
        | strict =>
            rw [rewrites.validate_iff ix.accounts_length,
              ledgerOf_mergeAccounts, ← sameAccounts]
            exact accepted policy
      refine
        ⟨_, succeeds.dispatchOne_eq serves.registered, rfl,
          sameCells.symm, ?_, rewrites.sameAddresses⟩
      change ledgerOf (mergeAccounts accounts state'.accounts) = _
      rw [ledgerOf_mergeAccounts, sameAccounts]

/-- Carrying forward a list with the state's distinct addresses leaves that
list. -/
theorem carryForward_eq {state resulting : List KeyedAccount}
    (distinct : (addresses state).Nodup)
    (sameAddresses : addresses resulting = addresses state) :
    carryForward state resulting = resulting := by
  apply KeyedList.upsertAll_of_sameKeys KeyedAccount.address
  · change (addresses resulting).Nodup
    rwa [sameAddresses]
  · exact sameAddresses

theorem Serves.withCells (serves : svm.Serves ix program)
    (cells : HarnessCells) : (svm.withCells cells).Serves ix program :=
  ⟨⟨serves.registered.unclaimed, serves.registered.found⟩, serves.keeps,
    serves.blind⟩

/-- A completed chain is a run of ledger steps on the same addresses. -/
theorem Completes.ledgerRun {index : Nat} {ixs : List Instruction}
    {after : List KeyedAccount}
    (served : ∀ ix ∈ ixs, ∃ program, svm.Serves ix program)
    (distinct : (addresses accounts).Nodup)
    (completes : Completes svm index ixs accounts logs after) :
    addresses after = addresses accounts ∧
      ∃ cells', Footprint.Run (LedgerStep svm) ixs svm.cells
        (ledgerOf accounts) cells' (ledgerOf after) := by
  induction completes with
  | nil =>
      exact ⟨rfl, _, .nil⟩
  | @cons svm index ix rest accounts after logs dispatch ran success later
      inductionHypothesis =>
      obtain ⟨builtin, serves⟩ := served ix List.mem_cons_self
      obtain ⟨received, state, succeeds, rfl⟩ :=
        dispatchOne_succeeded serves.registered ran success
      have step := succeeds.ledgerStep serves distinct
      have sameAddresses :=
        (succeeds.reached.rewrites serves.keeps distinct).sameAddresses
      have carried :
          carryForward accounts
              (Dispatch.ofState ix accounts
                state).outcome.resultingAccounts =
            mergeAccounts accounts state.accounts :=
        carryForward_eq distinct sameAddresses
      have servedRest (later : Instruction) (member : later ∈ rest) :
          ∃ program, (svm.withCells state.cells).Serves later program := by
        obtain ⟨other, serves⟩ :=
          served later (List.mem_cons_of_mem _ member)
        exact ⟨other, serves.withCells state.cells⟩
      rw [carried] at inductionHypothesis
      obtain ⟨restAddresses, cells', run⟩ :=
        inductionHypothesis servedRest (by rwa [sameAddresses])
      rw [ledgerStep_withCells] at run
      exact
        ⟨restAddresses.trans sameAddresses, cells', .cons step run⟩

/-- A run of ledger steps is taken by a chain. -/
theorem chain_of_ledgerRun {ixs : List Instruction}
    {cells' : HarnessCells} {after : Ledger}
    (served : ∀ ix ∈ ixs, ∃ program, svm.Serves ix program)
    (distinct : (addresses accounts).Nodup)
    (run : Footprint.Run (LedgerStep svm) ixs svm.cells
      (ledgerOf accounts) cells' after) :
    ∀ (index : Nat) (logs : LogCapture)
      (final : Option ExecutionOutcome),
      ∃ ended,
        runChain svm index ixs accounts logs final = some ended ∧
          ledgerOf ended.state = after ∧
          addresses ended.state = addresses accounts ∧
          (ixs = [] ∧ ended.finalOutcome = final ∨
            ∃ outcome, ended.finalOutcome = some outcome ∧
              outcome.error = none ∧
              outcome.resultingAccounts = ended.state) := by
  induction ixs generalizing svm accounts with
  | nil =>
      intro index logs final
      cases run
      exact ⟨_, rfl, rfl, rfl, Or.inl ⟨rfl, rfl⟩⟩
  | cons ix rest inductionHypothesis =>
      intro index logs final
      cases run with
      | cons first later =>
          obtain ⟨builtin, serves⟩ := served ix List.mem_cons_self
          obtain ⟨dispatch, dispatched, success, rfl, rfl,
              sameAddresses⟩ :=
            first.dispatches serves distinct
              (logs.sectionBreak s!"ix[{index}] @ {ix.programId}")
          have carried := carryForward_eq distinct sameAddresses
          have servedRest (later : Instruction) (member : later ∈ rest) :
              ∃ program,
                (svm.withCells dispatch.cells).Serves later program := by
            obtain ⟨other, serves⟩ :=
              served later (List.mem_cons_of_mem _ member)
            exact ⟨other, serves.withCells dispatch.cells⟩
          rw [← ledgerStep_withCells svm dispatch.cells] at later
          obtain ⟨ended, looped, endLedger, endAddresses, outcomeEnd⟩ :=
            @inductionHypothesis (svm.withCells dispatch.cells)
              dispatch.outcome.resultingAccounts servedRest
              (by rwa [sameAddresses]) later (index + 1) dispatch.logs
              (some dispatch.outcome)
          rw [runChain_cons dispatched, if_neg (by simp [success]),
            carried]
          refine
            ⟨ended, looped, endLedger, endAddresses.trans sameAddresses,
              Or.inr ?_⟩
          rcases outcomeEnd with ⟨rfl, finalOutcome⟩ | finished
          · rw [runChain] at looped
            cases looped
            exact ⟨dispatch.outcome, rfl, success, rfl⟩
          · exact finished

/-- A run of ledger steps, taken by the chain verb. -/
theorem processInstructionChain_of_ledgerRun {ixs : List Instruction}
    {cells' : HarnessCells} {after : Ledger} (nonempty : ixs ≠ [])
    (served : ∀ ix ∈ ixs, ∃ program, svm.Serves ix program)
    (distinct : (addresses accounts).Nodup)
    (run : Footprint.Run (LedgerStep svm) ixs svm.cells
      (ledgerOf accounts) cells' after) :
    ∃ result svm',
      svm.processInstructionChain ixs accounts = some (result, svm') ∧
        result.outcome.error = none ∧
        ledgerOf result.outcome.resultingAccounts = after ∧
        addresses result.outcome.resultingAccounts =
          addresses accounts := by
  obtain ⟨ended, looped, endLedger, endAddresses, outcomeEnd⟩ :=
    chain_of_ledgerRun served distinct run 0 .empty none
  rcases outcomeEnd with ⟨empty, _⟩ | ⟨outcome, finalOutcome, success,
    handedOut⟩
  · exact absurd empty nonempty
  · have outcomeEq : ended.outcome = outcome := by
      rw [ChainEnd.outcome, finalOutcome, Option.getD_some]
    refine
      ⟨.fromOutcome ended.outcome ended.logs, ended.svm, ?_, ?_, ?_, ?_⟩
    · rw [processInstructionChain, looped, Option.map_some]
    · rw [HopperExecutionResult.fromOutcome, outcomeEq, success]
    · rw [HopperExecutionResult.fromOutcome, outcomeEq, handedOut,
        endLedger]
    · rw [HopperExecutionResult.fromOutcome, outcomeEq, handedOut,
        endAddresses]

/-- A successful chain completed. -/
theorem completes_of_success {ixs : List Instruction}
    {result : HopperExecutionResult} {svm' : HopperSvm}
    (ran : svm.processInstructionChain ixs accounts =
      some (result, svm'))
    (success : result.outcome.error = none) :
    ixs ≠ [] ∧
      ∃ after, Completes svm 0 ixs accounts .empty after := by
  rcases Option.map_eq_some_iff.mp ran with ⟨ended, looped, same⟩
  cases same
  have ends := endsWith_of_success looped success
  refine ⟨?_, ends.completes⟩
  intro equal
  subst equal
  cases ends

/-- A successful chain is a run of ledger steps on the same addresses. -/
theorem ledgerRun_of_processInstructionChain {ixs : List Instruction}
    {result : HopperExecutionResult} {svm' : HopperSvm}
    (served : ∀ ix ∈ ixs, ∃ program, svm.Serves ix program)
    (distinct : (addresses accounts).Nodup)
    (ran : svm.processInstructionChain ixs accounts =
      some (result, svm'))
    (success : result.outcome.error = none) :
    addresses result.outcome.resultingAccounts = addresses accounts ∧
      ∃ cells', Footprint.Run (LedgerStep svm) ixs svm.cells
        (ledgerOf accounts) cells'
        (ledgerOf result.outcome.resultingAccounts) := by
  obtain ⟨nonempty, after, completes⟩ :=
    completes_of_success ran success
  obtain ⟨_, cells', run⟩ := completes.ledgerRun served distinct
  obtain ⟨result', svm'', ran', _, sameLedger, sameAddresses⟩ :=
    processInstructionChain_of_ledgerRun nonempty served distinct run
  rw [ran] at ran'
  cases ran'
  exact ⟨sameAddresses, cells', sameLedger ▸ run⟩

end HopperSvm

end Hopper
