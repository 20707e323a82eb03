import HopperSvm.Bundled

/-!
One instruction against a list of accounts: charge the program's baseline
cost, resolve the metas to a slice of clones, run the program, and merge the
slice back by address.  Everything an execution can end in is stated once,
by `execute_failed_accounts` and `execute_succeeded`.
-/

namespace Hopper

/-- A cross-program invocation recorded during execution. -/
structure InnerInstruction where
  programId : Pubkey
  accounts : List AccountMeta
  data : List UInt8
  stackHeight : UInt32
  deriving DecidableEq

/-- Outcome of one instruction, without the wall-clock field. -/
structure ExecutionOutcome where
  resultingAccounts : List KeyedAccount
  computeUnitsConsumed : UInt64
  returnData : List UInt8
  innerInstructions : List InnerInstruction
  error : Option HopperSvmError
  deriving DecidableEq

/-- An outcome with what the execution left in its mutable arguments. -/
structure EngineRun where
  outcome : ExecutionOutcome
  budget : ComputeBudget
  logs : LogCapture
  cells : HarnessCells

/-- Clone the first account at each meta's address, in metas order. -/
def resolveAccounts (accounts : List KeyedAccount) :
    List AccountMeta → Except HopperSvmError (List KeyedAccount)
  | [] => .ok []
  | accountMeta :: rest =>
      match findAccount accountMeta.pubkey accounts with
      | none => .error (.unknownAccount accountMeta.pubkey)
      | some account =>
          (resolveAccounts accounts rest).map fun slots =>
            account :: slots

/-- Write each working slot over the first account at its address, or
append it. -/
def mergeAccounts (original working : List KeyedAccount) :
    List KeyedAccount :=
  KeyedList.upsertAll KeyedAccount.address working original

namespace BuiltinEngine

/-- A failing execution: frame the failure and hand the accounts back. -/
def failed (ix : Instruction) (accounts : List KeyedAccount)
    (err : HopperSvmError) (budget : ComputeBudget) (logs : LogCapture)
    (cells : HarnessCells) : EngineRun :=
  { outcome :=
      { resultingAccounts := accounts
        computeUnitsConsumed := budget.consumed
        returnData := []
        innerInstructions := []
        error := some err }
    budget
    logs := logs.failure ix.programId budget.consumed budget.limit err
    cells }

/-- A successful execution: frame the success and merge the slice. -/
def succeeded (ix : Instruction) (accounts : List KeyedAccount)
    (state : InvokeState) : EngineRun :=
  { outcome :=
      { resultingAccounts := mergeAccounts accounts state.accounts
        computeUnitsConsumed := state.budget.consumed
        returnData := []
        innerInstructions := []
        error := none }
    budget := state.budget
    logs :=
      state.logs.success ix.programId state.budget.consumed
        state.budget.limit
    cells := state.cells }

/-- Run the program's `invoke` on the resolved slice. -/
def invoke (program : BuiltinProgram) (ix : Instruction)
    (sysvars : Sysvars) (budget : ComputeBudget) (logs : LogCapture)
    (cells : HarnessCells) (working : List KeyedAccount) :
    Option (Except HopperSvmError Unit × InvokeState) :=
  program.invoke ix.data
    { programId := ix.programId
      accountMetas := ix.accounts
      sysvars }
    { accounts := working, logs, budget, cells }

/-- The engine runs the routine of the instruction data. -/
theorem invoke_ofRoutine {name : String} {cost : ComputeBudget → UInt64}
    {routine : List UInt8 → Routine Unit} {ix : Instruction}
    {sysvars : Sysvars} {budget : ComputeBudget} {logs : LogCapture}
    {cells : HarnessCells} {working : List KeyedAccount} :
    invoke (.ofRoutine name cost routine) ix sysvars budget logs cells
        working =
      (routine ix.data).run
        { programId := ix.programId
          accountMetas := ix.accounts
          sysvars }
        { accounts := working, logs, budget, cells } := rfl

/-- `BuiltinEngine::execute`; `none` when the program panics. -/
def execute (program : BuiltinProgram) (ix : Instruction)
    (accounts : List KeyedAccount) (budget : ComputeBudget)
    (sysvars : Sysvars) (logs : LogCapture) (cells : HarnessCells) :
    Option EngineRun :=
  let budget := budget.reset
  let logs := logs.invoke ix.programId
  match budget.consume (program.cost budget) with
  | (.error err, budget) =>
      some (failed ix accounts err budget logs cells)
  | (.ok (), budget) =>
      match resolveAccounts accounts ix.accounts with
      | .error err =>
          some (failed ix accounts err budget logs cells)
      | .ok working =>
          (invoke program ix sysvars budget logs cells working).map
            fun
            | (.error err, state) =>
                failed ix accounts err state.budget state.logs state.cells
            | (.ok (), state) =>
                succeeded ix accounts state

end BuiltinEngine

theorem resolveAccounts_eq_ok {accounts : List KeyedAccount}
    {metas : List AccountMeta} {slots : List KeyedAccount} :
    resolveAccounts accounts metas = .ok slots ↔
      metas.map (fun accountMeta =>
          findAccount accountMeta.pubkey accounts) =
        slots.map some := by
  induction metas generalizing slots with
  | nil =>
      cases slots with
      | nil =>
          simp [resolveAccounts]
      | cons slot slots =>
          simp [resolveAccounts]
  | cons accountMeta rest inductionHypothesis =>
      cases found : findAccount accountMeta.pubkey accounts with
      | none =>
          cases slots with
          | nil =>
              simp [resolveAccounts, found]
          | cons slot slots =>
              simp [resolveAccounts, found]
      | some account =>
          cases resolved : resolveAccounts accounts rest with
          | error err =>
              cases slots with
              | nil =>
                  simp [resolveAccounts, found, resolved, Except.map]
              | cons slot slots =>
                  have unresolved := @inductionHypothesis slots
                  rw [resolved] at unresolved
                  simp [resolveAccounts, found, resolved, Except.map,
                    ← unresolved]
          | ok working =>
              cases slots with
              | nil =>
                  simp [resolveAccounts, found, resolved, Except.map]
              | cons slot slots =>
                  have tail := @inductionHypothesis slots
                  rw [resolved, Except.ok.injEq] at tail
                  simp [resolveAccounts, found, resolved, Except.map,
                    ← tail]

/-- A slot is the account its meta's address looks up. -/
theorem findAccount_of_resolved {accounts : List KeyedAccount}
    {metas : List AccountMeta} {slots : List KeyedAccount}
    (resolved : resolveAccounts accounts metas = .ok slots)
    {slot : KeyedAccount} (member : slot ∈ slots) :
    findAccount slot.address accounts = some slot := by
  have listed : some slot ∈ slots.map some :=
    List.mem_map_of_mem member
  rw [← resolveAccounts_eq_ok.mp resolved] at listed
  rcases List.mem_map.mp listed with ⟨accountMeta, _, found⟩
  rwa [← KeyedList.key_of_lookup KeyedAccount.address found] at found

theorem addresses_of_resolved {accounts : List KeyedAccount}
    {metas : List AccountMeta} {slots : List KeyedAccount}
    (resolved : resolveAccounts accounts metas = .ok slots) :
    addresses slots = metas.map AccountMeta.pubkey := by
  induction metas generalizing slots with
  | nil =>
      have none_left := resolveAccounts_eq_ok.mp resolved
      simp only [List.map_nil] at none_left
      rw [List.map_eq_nil_iff.mp none_left.symm]
      rfl
  | cons accountMeta rest inductionHypothesis =>
      have listed := resolveAccounts_eq_ok.mp resolved
      cases slots with
      | nil =>
          simp at listed
      | cons slot slots =>
          simp only [List.map_cons, List.cons.injEq] at listed
          have tail :=
            inductionHypothesis (resolveAccounts_eq_ok.mpr listed.2)
          have head :=
            KeyedList.key_of_lookup KeyedAccount.address listed.1
          simp only [addresses, List.map_cons] at tail ⊢
          rw [head, tail]

/-- Every resolved address is in the list. -/
theorem mem_addresses_of_resolved {accounts : List KeyedAccount}
    {metas : List AccountMeta} {slots : List KeyedAccount}
    (resolved : resolveAccounts accounts metas = .ok slots)
    {accountMeta : AccountMeta} (member : accountMeta ∈ metas) :
    accountMeta.pubkey ∈ addresses accounts := by
  have listed :
      findAccount accountMeta.pubkey accounts ∈ slots.map some := by
    rw [← resolveAccounts_eq_ok.mp resolved]
    exact List.mem_map_of_mem member
  rcases List.mem_map.mp listed with ⟨slot, _, found⟩
  exact
    KeyedList.mem_keys_of_lookup KeyedAccount.address found.symm

/-- The last slot at an address wins; other addresses keep their
account. -/
theorem findAccount_mergeAccounts (address : Pubkey)
    (original working : List KeyedAccount) :
    findAccount address (mergeAccounts original working) =
      (findAccount address working.reverse).or
        (findAccount address original) :=
  KeyedList.lookup_upsertAll KeyedAccount.address address working original

theorem findAccount_mergeAccounts_of_not_mem {address : Pubkey}
    {working : List KeyedAccount} (absent : address ∉ addresses working)
    (original : List KeyedAccount) :
    findAccount address (mergeAccounts original working) =
      findAccount address original :=
  KeyedList.lookup_upsertAll_of_not_mem KeyedAccount.address absent
    original

/-- Slots that were resolved from the list and kept their addresses merge
back without adding an account. -/
theorem addresses_mergeAccounts {accounts : List KeyedAccount}
    {metas : List AccountMeta} {slots working : List KeyedAccount}
    (resolved : resolveAccounts accounts metas = .ok slots)
    (kept : addresses working = addresses slots) :
    addresses (mergeAccounts accounts working) = addresses accounts := by
  apply KeyedList.keys_upsertAll_of_subset
  intro update member
  have listed : update.address ∈ addresses working :=
    List.mem_map_of_mem member
  rw [kept, addresses_of_resolved resolved] at listed
  rcases List.mem_map.mp listed with ⟨accountMeta, inMetas, same⟩
  rw [← same]
  exact mem_addresses_of_resolved resolved inMetas

namespace BuiltinEngine

section Execute

variable {program : BuiltinProgram} {ix : Instruction}
  {accounts : List KeyedAccount} {budget : ComputeBudget}
  {sysvars : Sysvars} {logs : LogCapture} {cells : HarnessCells}
  {run : EngineRun}

/-- The engine charged the baseline cost, handed `received` to the program,
and the program returned `Ok` and left `state`. -/
structure Reaches (program : BuiltinProgram) (ix : Instruction)
    (accounts : List KeyedAccount) (budget : ComputeBudget)
    (sysvars : Sysvars) (logs : LogCapture) (cells : HarnessCells)
    (received : List KeyedAccount) (state : InvokeState) : Prop where
  affordable :
    (budget.reset.consume (program.cost budget.reset)).1 = .ok ()
  resolved : resolveAccounts accounts ix.accounts = .ok received
  invoked :
    invoke program ix sysvars
        (budget.reset.consume (program.cost budget.reset)).2
        (logs.invoke ix.programId) cells received =
      some (.ok (), state)

theorem Reaches.length_eq {received : List KeyedAccount}
    {state : InvokeState}
    (reached : Reaches program ix accounts budget sysvars logs cells
      received state) :
    state.accounts.length = received.length :=
  program.invoke_length ix.data _ _ _ _ reached.invoked

theorem Reaches.addresses_eq {received : List KeyedAccount}
    {state : InvokeState} (keeps : program.KeepsAddresses)
    (reached : Reaches program ix accounts budget sysvars logs cells
      received state) :
    addresses state.accounts = addresses received :=
  keeps ix.data _ _ _ _ reached.invoked

theorem Reaches.execute_eq {received : List KeyedAccount}
    {state : InvokeState}
    (reached : Reaches program ix accounts budget sysvars logs cells
      received state) :
    execute program ix accounts budget sysvars logs cells =
      some (succeeded ix accounts state) := by
  have charge :
      budget.reset.consume (program.cost budget.reset) =
        (.ok (),
          (budget.reset.consume (program.cost budget.reset)).2) :=
    Prod.ext reached.affordable rfl
  simp only [execute]
  rw [charge]
  simp only [reached.resolved, reached.invoked, Option.map_some]

/-- An execution panics only where the program does. -/
theorem execute_ne_none
    (returns : ∀ received,
      resolveAccounts accounts ix.accounts = .ok received →
        invoke program ix sysvars
            (budget.reset.consume (program.cost budget.reset)).2
            (logs.invoke ix.programId) cells received ≠ none) :
    execute program ix accounts budget sysvars logs cells ≠ none := by
  simp only [execute]
  split
  · exact Option.some_ne_none _
  · rename_i charged charge
    split
    · exact Option.some_ne_none _
    · rename_i received resolved
      have ran := returns received resolved
      rw [charge] at ran
      rw [ne_eq, Option.map_eq_none_iff]
      exact ran

/-- The ways an execution ends: the baseline cost is not granted, a meta
finds no account, or the program answers. -/
inductive Ends (program : BuiltinProgram) (ix : Instruction)
    (accounts : List KeyedAccount) (budget : ComputeBudget)
    (sysvars : Sysvars) (logs : LogCapture) (cells : HarnessCells) :
    EngineRun → Prop
  | early (err : HopperSvmError) (charged : ComputeBudget) :
      Ends program ix accounts budget sysvars logs cells
        (failed ix accounts err charged (logs.invoke ix.programId) cells)
  | refused {received : List KeyedAccount} {err : HopperSvmError}
      {state : InvokeState} (charged : ComputeBudget)
      (resolved : resolveAccounts accounts ix.accounts = .ok received)
      (invoked :
        invoke program ix sysvars charged (logs.invoke ix.programId) cells
          received = some (.error err, state)) :
      Ends program ix accounts budget sysvars logs cells
        (failed ix accounts err state.budget state.logs state.cells)
  | accepted {received : List KeyedAccount} {state : InvokeState}
      (reached : Reaches program ix accounts budget sysvars logs cells
        received state) :
      Ends program ix accounts budget sysvars logs cells
        (succeeded ix accounts state)

theorem ends_of_execute
    (ran : execute program ix accounts budget sysvars logs cells =
      some run) :
    Ends program ix accounts budget sysvars logs cells run := by
  simp only [execute] at ran
  split at ran
  · cases ran
    exact .early _ _
  · rename_i charged charge
    split at ran
    · cases ran
      exact .early _ _
    · rename_i received resolved
      obtain ⟨⟨verdict, state⟩, invoked, same⟩ :=
        Option.map_eq_some_iff.mp ran
      cases verdict with
      | error err =>
          cases same
          exact .refused charged resolved invoked
      | ok value =>
          cases same
          have reached : Reaches program ix accounts budget sysvars logs
              cells received state :=
            ⟨by rw [charge], resolved, by rw [charge]; exact invoked⟩
          exact .accepted reached

/-- A successful execution merges what the program left. -/
theorem execute_succeeded
    (ran : execute program ix accounts budget sysvars logs cells =
      some run)
    (success : run.outcome.error = none) :
    ∃ received state,
      Reaches program ix accounts budget sysvars logs cells received
          state ∧
        run = succeeded ix accounts state := by
  cases ends_of_execute ran with
  | early err charged =>
      cases success
  | refused charged resolved invoked =>
      cases success
  | accepted reached =>
      exact ⟨_, _, reached, rfl⟩

/-- A failing execution hands back the accounts it was given. -/
theorem execute_failed_accounts
    (ran : execute program ix accounts budget sysvars logs cells =
      some run)
    (failure : run.outcome.error ≠ none) :
    run.outcome.resultingAccounts = accounts := by
  cases ends_of_execute ran with
  | early err charged =>
      rfl
  | refused charged resolved invoked =>
      rfl
  | accepted reached =>
      exact absurd rfl failure

end Execute

end BuiltinEngine

end Hopper
