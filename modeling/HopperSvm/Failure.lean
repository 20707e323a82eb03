import HopperSvm.Barrier
import HopperSvm.SolanaRuntime

/-!
A failing instruction hands back the accounts it was given and no return
data, whichever engine ran and whatever the program did to its slots.  A
bundled program also leaves the harness cells: the one that writes them
leaves its slots alone, and the validator accepts a list that did not
change.
-/

namespace Hopper

open BuiltinEngine

section Unchanged

variable {accounts : List KeyedAccount} {metas : List AccountMeta}

/-- Merging back the clones of a list leaves the list. -/
theorem mergeAccounts_of_resolved {received : List KeyedAccount}
    (resolved : resolveAccounts accounts metas = .ok received) :
    mergeAccounts accounts received = accounts := by
  apply KeyedList.upsertAll_of_copies
  intro slot member
  exact findAccount_of_resolved resolved member

theorem creationCredit_self (accounts : List KeyedAccount) :
    creationCredit accounts accounts = 0 := by
  have notCreated (account : KeyedAccount) :
      ¬ Created account account := by
    intro created
    rcases created with ⟨_, different | ⟨empty, filled⟩⟩
    · exact different rfl
    · exact filled empty
  induction accounts with
  | nil =>
      rfl
  | cons account rest inductionHypothesis =>
      have head : creditOf account account = 0 :=
        if_neg (notCreated account)
      have unfolded :
          creationCredit (account :: rest) (account :: rest) =
            creditOf account account + creationCredit rest rest := by
        simp only [creationCredit, List.zip_cons_cons, List.map_cons,
          List.sum_cons]
      rw [unfolded, head, inductionHypothesis]

theorem validatePostState_unchanged {programId : Pubkey}
    (fits : metas.length < 2 ^ 64) (accounts : List KeyedAccount)
    (policy : ValidationPolicy) :
    validatePostState programId metas accounts accounts policy =
      .ok () := by
  cases policy with
  | lax =>
      rfl
  | strict =>
      have samePair : ∀ accountMeta pair,
          pairAt accounts accounts accountMeta = some pair →
            pair.1 = pair.2 := by
        intro accountMeta pair found
        simp only [pairAt] at found
        split at found
        · rename_i p n before after
          cases found
          exact Option.some.inj (before.symm.trans after)
        · cases found
      rw [validatePostState_strict_iff fits]
      constructor
      · intro accountMeta _ pair found
        rw [← samePair accountMeta pair found]
        exact Permitted.of_unchanged pair.1
      · rw [creationCredit_self, Nat.add_zero]
        congr 1
        apply List.map_congr_left
        intro pair member
        rcases List.mem_filterMap.mp member with ⟨accountMeta, _, found⟩
        rw [samePair accountMeta pair found]

end Unchanged

namespace HopperSvm

variable {svm svm' : HopperSvm} {program : BuiltinProgram}
  {ix : Instruction} {accounts : List KeyedAccount} {logs : LogCapture}

theorem execute_returnData {budget : ComputeBudget} {sysvars : Sysvars}
    {cells : HarnessCells} {run : EngineRun}
    (ran : execute program ix accounts budget sysvars logs cells =
      some run) :
    run.outcome.returnData = [] := by
  cases ends_of_execute ran with
  | early err charged =>
      rfl
  | refused charged resolved invoked =>
      rfl
  | accepted reached =>
      rfl

theorem Reported.returnData {outcome : ExecutionOutcome}
    (reported : Reported ix accounts outcome) :
    outcome.returnData = [] := by
  cases reported with
  | failure message =>
      rfl
  | success known consumed post =>
      rfl

theorem applyValidation_returnData {outcome : ExecutionOutcome}
    {policy : ValidationPolicy} (empty : outcome.returnData = []) :
    (applyValidation ix accounts outcome policy logs).1.returnData =
      [] := by
  simp only [applyValidation]
  split
  · exact empty
  · split
    · exact empty
    · rfl

/-- No engine of the harness produces return data. -/
theorem dispatchOne_returnData {dispatch : Dispatch}
    (ran : svm.dispatchOne ix accounts logs = some dispatch) :
    dispatch.outcome.returnData = [] := by
  cases goes_of_dispatchOne ran with
  | agave engine claimed linked =>
      exact (reported_of_agave linked).1.returnData
  | builtin unclaimed found executed =>
      exact applyValidation_returnData (execute_returnData executed)
  | bpf unclaimed unregistered installed tried =>
      have reported := (reported_of_tryExecute tried).2.1
      exact applyValidation_returnData reported.returnData
  | nowhere unclaimed unregistered unloaded =>
      rfl

/-- An execution leaves the cells alone, unless the program itself writes
them. -/
theorem execute_cells {budget : ComputeBudget} {sysvars : Sysvars}
    {cells : HarnessCells} {run : EngineRun}
    (ran : execute program ix accounts budget sysvars logs cells =
      some run) :
    run.cells = cells ∨
      ∃ budget' logs' received verdict state,
        resolveAccounts accounts ix.accounts = .ok received ∧
        invoke program ix sysvars budget' logs' cells received =
            some (verdict, state) ∧
          run.cells = state.cells ∧
          (run.outcome.error = none ↔ verdict = .ok ()) ∧
          (verdict = .ok () →
            run.outcome.resultingAccounts =
              mergeAccounts accounts state.accounts) := by
  cases ends_of_execute ran with
  | early err charged =>
      exact Or.inl rfl
  | refused charged resolved invoked =>
      refine Or.inr ⟨_, _, _, _, _, resolved, invoked, rfl, ?_⟩
      simp [failed]
  | accepted reached =>
      refine
        Or.inr ⟨_, _, _, _, _, reached.resolved, reached.invoked, rfl, ?_⟩
      simp [succeeded]

/-- The validator does not reject accounts that did not change. -/
theorem applyValidation_error {outcome : ExecutionOutcome}
    {policy : ValidationPolicy}
    (unchanged : outcome.resultingAccounts = accounts) :
    (applyValidation ix accounts outcome policy logs).1.error =
      outcome.error := by
  simp only [applyValidation]
  split
  · rfl
  · rw [unchanged, validatePostState_unchanged ix.accounts_length]

/-- The compute-budget program accepts without touching its slots, or leaves
the cells. -/
theorem computeBudget_invoked {budget : ComputeBudget}
    {sysvars : Sysvars} {cells : HarnessCells}
    {received : List KeyedAccount} {verdict : Except HopperSvmError Unit}
    {state : InvokeState}
    (invoked : invoke computeBudgetProgramSimulator ix sysvars budget logs
      cells received = some (verdict, state)) :
    (verdict = .ok () ∧ state.accounts = received) ∨
      state.cells = cells := by
  have unfolded :
      ComputeBudgetProgram.invoke ix.data _ _ = some (verdict, state) :=
    invoked
  rw [ComputeBudgetProgram.invoke_eq] at unfolded
  split at unfolded
  · cases unfolded
    exact Or.inl ⟨rfl, rfl⟩
  · cases unfolded
    exact Or.inr rfl

/-- A failing dispatch of a bundled program leaves the cells. -/
theorem dispatchOne_failed_cells {dispatch : Dispatch}
    (bundled : ∀ program, svm.registry ix.programId = some program →
      program.Bundled)
    (ran : svm.dispatchOne ix accounts logs = some dispatch)
    (failure : dispatch.outcome.error ≠ none) :
    dispatch.cells = svm.cells := by
  cases goes_of_dispatchOne ran with
  | agave engine claimed linked =>
      rfl
  | builtin unclaimed found executed =>
      rcases execute_cells executed with kept | wrote
      · exact kept
      · rcases wrote with
          ⟨budget', logs', received, verdict, state, resolved, invoked,
           cells, success, merged⟩
        obtain ⟨id, bundledAt⟩ := bundled _ found
        rcases bundledAt.keepsCells_or_computeBudget with
          ⟨_, keeps⟩ | ⟨_, rfl⟩
        · exact cells.trans (keeps ix.data _ _ _ _ invoked)
        · -- only an accepted request writes, and then nothing fails
          rcases computeBudget_invoked invoked with
            ⟨accepted, sameAccounts⟩ | untouched
          · have unchanged := merged accepted
            rw [sameAccounts, mergeAccounts_of_resolved resolved]
              at unchanged
            have noError := success.mpr accepted
            rw [← applyValidation_error unchanged] at noError
            exact absurd noError failure
          · exact cells.trans untouched
  | bpf unclaimed unregistered installed tried =>
      rfl
  | nowhere unclaimed unregistered unloaded =>
      rfl

/-- A failing instruction has no effect. -/
theorem processInstruction_failed_effectless
    {result : HopperExecutionResult}
    (ran : svm.processInstruction ix accounts = some (result, svm'))
    (failure : result.outcome.error ≠ none) :
    result.outcome.resultingAccounts = accounts ∧
      result.outcome.returnData = [] ∧
      ((∀ program, svm.registry ix.programId = some program →
          program.Bundled) →
        svm'.cells = svm.cells) := by
  rcases Option.map_eq_some_iff.mp ran with ⟨dispatch, dispatched, same⟩
  cases same
  exact
    ⟨dispatchOne_failed_accounts dispatched failure,
      dispatchOne_returnData dispatched,
      fun bundled => dispatchOne_failed_cells bundled dispatched failure⟩

/-- Appends a byte to slot 0 and refuses the instruction. -/
def appendThenRefuse : BuiltinProgram :=
  .ofHandler "AppendThenRefuse" (fun _ => 10)
    (fun _ => do
      Handler.writeSlot 0 fun account =>
        { account with data := account.data ++ [0xAB] }
      Procedure.fail (.custom 1))
    (fun _ =>
      Procedure.Keeps.bind
        (Handler.writeSlot_sameAddresses 0 fun _ => rfl) fun _ =>
          (Procedure.Stateless.fail _).keeps)

def refusingSvm : HopperSvm :=
  appendingSvm.withComputeBudgetProgram.withBuiltin (.filled 8)
    appendThenRefuse

def refusedIx : Instruction :=
  { clonedIx 1 with programId := .filled 8 }

/-- A request without a tag. -/
def emptyRequestIx : Instruction :=
  { programId := computeBudgetProgramId
    accounts := []
    data := []
    accounts_length := Instruction.noAccounts_length }

theorem processInstruction_failed_effectless_refused :
    (∃ result svm',
        refusingSvm.processInstruction refusedIx [clonedAccount] =
            some (result, svm') ∧
          result.outcome.error = some (.custom 1) ∧
          result.outcome.resultingAccounts = [clonedAccount] ∧
          result.outcome.returnData = []) ∧
      ∃ result svm',
        refusingSvm.processInstruction emptyRequestIx [clonedAccount] =
            some (result, svm') ∧
          result.outcome.error ≠ none ∧
          svm'.cells = refusingSvm.cells := by
  constructor
  · have effectless :=
      processInstruction_failed_effectless
        (rfl :
          refusingSvm.processInstruction refusedIx [clonedAccount] =
            some (_, _))
        (Option.some_ne_none _)
    exact ⟨_, _, rfl, rfl, effectless.1, effectless.2.1⟩
  · have effectless :=
      processInstruction_failed_effectless
        (rfl :
          refusingSvm.processInstruction emptyRequestIx [clonedAccount] =
            some (_, _))
        (Option.some_ne_none _)
    refine ⟨_, _, rfl, Option.some_ne_none _, ?_⟩
    apply effectless.2.2
    intro program found
    cases found
    exact ⟨_, .computeBudget⟩

end HopperSvm

end Hopper
