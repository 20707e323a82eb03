import HopperSvm.AccountStore
import HopperSvm.Agave
import HopperSvm.Fees
import HopperSvm.SplToken
import HopperSvm.SystemProgram
import HopperSvm.Validation

/-!
One dispatch (Agave engine, built-in registry, BPF compatibility engine, or
an unknown program), validation of its outcome, and the three verbs over it:
a single instruction, a chain, and a fee-paying transaction.  A dispatch can
change no part of the harness but the cells a bundled program shares.
-/

namespace Hopper

/-- The harness.  `bpfEngine` is `none` when the crate is built without
that feature, `agaveEngine` also when no engine was installed. -/
structure HopperSvm where
  registry : Pubkey → Option BuiltinProgram
  sysvars : Sysvars
  budget : ComputeBudget
  bpfEngine : Option BpfEngine
  cells : HarnessCells
  validationPolicy : ValidationPolicy
  feeCalculator : FeeCalculator
  accountStore : AccountStore
  agaveEngine : Option AgaveEngine

structure HopperExecutionResult where
  outcome : ExecutionOutcome
  logs : List String
  transactionFeePaid : UInt64

/-- `HopperExecutionResult::from_outcome`. -/
def HopperExecutionResult.fromOutcome (outcome : ExecutionOutcome)
    (logs : LogCapture) : HopperExecutionResult :=
  { outcome, logs := logs.lines, transactionFeePaid := 0 }

/-- A failing outcome that charged nothing. -/
def ExecutionOutcome.rejected (accounts : List KeyedAccount)
    (err : HopperSvmError) : ExecutionOutcome :=
  { resultingAccounts := accounts
    computeUnitsConsumed := 0
    returnData := []
    innerInstructions := []
    error := some err }

/-- What one dispatch leaves: its outcome, the log and the cells. -/
structure Dispatch where
  outcome : ExecutionOutcome
  logs : LogCapture
  cells : HarnessCells

namespace HopperSvm

/-- A harness with the defaults of `HopperSvm::new()` around a registry. -/
def ofRegistry (registry : Pubkey → Option BuiltinProgram) : HopperSvm :=
  { registry
    sysvars := .default
    budget := .default
    bpfEngine := none
    cells :=
      { pendingCuLimit := none
        priorityFeeMicroLamportsPerCu := 0 }
    validationPolicy := .strict
    feeCalculator := .default
    accountStore := .empty
    agaveEngine := none }

/-- `HopperSvm::with_builtin`. -/
def withBuiltin (svm : HopperSvm) (id : Pubkey)
    (program : BuiltinProgram) : HopperSvm :=
  { svm with
    registry := fun other =>
      if other = id then some program else svm.registry other }

/-- `HopperSvm::new()`. -/
def new (crates : Crates) : HopperSvm :=
  (ofRegistry fun _ => none).withBuiltin systemProgramId
    (systemProgram crates)

/-- `HopperSvm::with_spl_token_simulator`. -/
def withSplTokenSimulator (svm : HopperSvm) (codec : TokenCodec) :
    HopperSvm :=
  svm.withBuiltin splTokenId (splTokenSimulator codec)

/-- The Agave engine, if there is one, has the program registered. -/
def agaveClaims (svm : HopperSvm) (programId : Pubkey) : Bool :=
  svm.agaveEngine.any fun engine => engine.isRegistered programId

def withCells (svm : HopperSvm) (cells : HarnessCells) : HopperSvm :=
  { svm with cells }

/-- `HopperSvm::apply_validation`. -/
def applyValidation (ix : Instruction) (pre : List KeyedAccount)
    (outcome : ExecutionOutcome) (policy : ValidationPolicy)
    (logs : LogCapture) : ExecutionOutcome × LogCapture :=
  if outcome.error.isSome then
    (outcome, logs)
  else
    match validatePostState ix.programId ix.accounts pre
        outcome.resultingAccounts policy with
    | .ok () => (outcome, logs)
    | .error err =>
        ({ outcome with
            resultingAccounts := pre
            returnData := []
            error := some err },
          logs.line s!"Validation failed: {err.describe}")

/-- `HopperSvm::dispatch_through_agave`. -/
def dispatchThroughAgave (svm : HopperSvm) (engine : AgaveEngine)
    (ix : Instruction) (accounts : List KeyedAccount)
    (logs : LogCapture) : Option (ExecutionOutcome × LogCapture) :=
  let (txAccounts, programIndex) :=
    withProgramAccount ix.programId
      (engine.invocationOwnerFor ix.programId) accounts
  (engine.processInstructionRaw ix txAccounts [programIndex] svm.sysvars
    svm.budget.limit).map
    fun
    | .ok (cu, post) =>
        (linkedSuccess (txAccounts.map Prod.fst) cu post,
          logs.line
            s!"Program {ix.programId} consumed {cu} compute units (agave-runtime)")
    | .error err =>
        (linkedFailure ix accounts (toString err),
          logs.line s!"agave-runtime: {err}")

/-- The budget an instruction starts with: the harness's, under a pending
limit override if there is one. -/
def dispatchBudget (svm : HopperSvm) : ComputeBudget :=
  match svm.cells.pendingCuLimit with
  | some limit => svm.budget.setLimit limit
  | none => svm.budget

/-- `HopperSvm::dispatch_one`, which times `dispatch_one_inner`; `none`
when the dispatched code panics. -/
def dispatchOne (svm : HopperSvm) (ix : Instruction)
    (accounts : List KeyedAccount) (logs : LogCapture) :
    Option Dispatch :=
  match svm.agaveEngine.filter fun engine =>
      engine.isRegistered ix.programId with
  | some engine =>
      (svm.dispatchThroughAgave engine ix accounts logs).map fun run =>
        { outcome := run.1, logs := run.2, cells := svm.cells }
  | none =>
      match svm.registry ix.programId with
      | some program =>
          (BuiltinEngine.execute program ix accounts svm.dispatchBudget
            svm.sysvars logs svm.cells).map fun run =>
              let validated :=
                applyValidation ix accounts run.outcome
                  svm.validationPolicy run.logs
              { outcome := validated.1
                logs := validated.2
                cells := run.cells }
      | none =>
          match svm.bpfEngine.bind fun engine =>
              engine.tryExecute ix accounts svm.dispatchBudget svm.sysvars
                logs with
          | some claimed =>
              claimed.map fun run =>
                let validated :=
                  applyValidation ix accounts run.1 svm.validationPolicy
                    run.2
                { outcome := validated.1
                  logs := validated.2
                  cells := svm.cells }
          | none =>
              some
                { outcome :=
                    .rejected accounts (.unknownProgram ix.programId)
                  logs
                  cells := svm.cells }

/-- `HopperSvm::process_instruction`. -/
def processInstruction (svm : HopperSvm) (ix : Instruction)
    (accounts : List KeyedAccount) :
    Option (HopperExecutionResult × HopperSvm) :=
  (svm.dispatchOne ix accounts .empty).map fun dispatch =>
    (.fromOutcome dispatch.outcome dispatch.logs,
      svm.withCells dispatch.cells)

/-- Write each resulting account over the first one at its address in the
chain's state, or append it. -/
def carryForward (state resulting : List KeyedAccount) :
    List KeyedAccount :=
  KeyedList.upsertAll KeyedAccount.address resulting state

/-- Where a loop over instructions ended: its state, the last outcome if
there was one, the log and the harness. -/
structure ChainEnd where
  state : List KeyedAccount
  finalOutcome : Option ExecutionOutcome
  logs : LogCapture
  svm : HopperSvm

/-- The loop of `process_instruction_chain`, which `process_transaction`
repeats word for word, from instruction number `index` on. -/
def runChain : HopperSvm → Nat → List Instruction → List KeyedAccount →
    LogCapture → Option ExecutionOutcome → Option ChainEnd
  | svm, _, [], state, logs, finalOutcome =>
      some { state, finalOutcome, logs, svm }
  | svm, index, ix :: rest, state, logs, _ => do
      let logs := logs.sectionBreak s!"ix[{index}] @ {ix.programId}"
      let dispatch ← svm.dispatchOne ix state logs
      let state := carryForward state dispatch.outcome.resultingAccounts
      let svm := svm.withCells dispatch.cells
      if dispatch.outcome.error.isSome then
        some
          { state
            finalOutcome := some dispatch.outcome
            logs := dispatch.logs
            svm }
      else
        runChain svm (index + 1) rest state dispatch.logs
          (some dispatch.outcome)

/-- The outcome of the last dispatch, or `EmptyChain` when there was
none. -/
def ChainEnd.outcome (ended : ChainEnd) : ExecutionOutcome :=
  ended.finalOutcome.getD (.rejected ended.state .emptyChain)

/-- `HopperSvm::process_instruction_chain`. -/
def processInstructionChain (svm : HopperSvm) (ixs : List Instruction)
    (accounts : List KeyedAccount) :
    Option (HopperExecutionResult × HopperSvm) :=
  (runChain svm 0 ixs accounts .empty none).map fun ended =>
    (.fromOutcome ended.outcome ended.logs, ended.svm)

/-- The compute-unit limit a transaction is charged for. -/
def transactionCuLimit (svm : HopperSvm) : UInt64 :=
  svm.cells.pendingCuLimit.getD svm.budget.limit

/-- The fee of a transaction on this harness. -/
def transactionFee (svm : HopperSvm) (ixs : List Instruction) : UInt64 :=
  totalFee svm.feeCalculator
    (countUniqueSigners (ixs.map Instruction.accounts))
    svm.transactionCuLimit svm.cells.priorityFeeMicroLamportsPerCu

/-- `state[payer_idx].lamports -= total_fee`, at the payer's first entry. -/
def debitPayer (payer : Pubkey) (fee : UInt64) :
    List KeyedAccount → List KeyedAccount
  | [] => []
  | account :: rest =>
      if account.address = payer then
        { account with lamports := account.lamports - fee } :: rest
      else
        account :: debitPayer payer fee rest

/-- The log of a transaction whose fee has been charged. -/
def chargedLogs (svm : HopperSvm) (ixs : List Instruction)
    (feePayer : Pubkey) : LogCapture :=
  let numSigners := countUniqueSigners (ixs.map Instruction.accounts)
  LogCapture.empty.line
    s!"Transaction: charged {svm.transactionFee ixs} lamports from fee payer {feePayer} ({numSigners} signers, {svm.transactionCuLimit} CU limit, {svm.cells.priorityFeeMicroLamportsPerCu} μlamports/CU)"

/-- `HopperSvm::process_transaction`. -/
def processTransaction (svm : HopperSvm) (ixs : List Instruction)
    (accounts : List KeyedAccount) (feePayer : Pubkey) :
    Option (HopperExecutionResult × HopperSvm) :=
  let fee := svm.transactionFee ixs
  match findAccount feePayer accounts with
  | none =>
      some
        (.fromOutcome (.rejected accounts (.unknownAccount feePayer))
          .empty,
          svm)
  | some payer =>
      if payer.lamports < fee then
        some
          (.fromOutcome
            (.rejected accounts
              (.insufficientFunds feePayer payer.lamports fee))
            .empty,
            svm)
      else
        (runChain svm 0 ixs (debitPayer feePayer fee accounts)
          (svm.chargedLogs ixs feePayer) none).map fun ended =>
            ({ HopperExecutionResult.fromOutcome ended.outcome
                  ended.logs with
                transactionFeePaid := fee },
              ended.svm)

/-- Every registered program has the property. -/
def AllPrograms (svm : HopperSvm) (holds : BuiltinProgram → Prop) :
    Prop :=
  ∀ id program, svm.registry id = some program → holds program

theorem AllPrograms.ofRegistry_none {holds : BuiltinProgram → Prop} :
    (ofRegistry fun _ => none).AllPrograms holds := by
  intro id program found
  cases found

theorem AllPrograms.withBuiltin {svm : HopperSvm}
    {holds : BuiltinProgram → Prop} {program : BuiltinProgram}
    (others : svm.AllPrograms holds) (id : Pubkey)
    (own : holds program) :
    (svm.withBuiltin id program).AllPrograms holds := by
  intro other registered found
  unfold HopperSvm.withBuiltin at found
  dsimp only at found
  split at found
  · cases found
    exact own
  · exact others other registered found

end HopperSvm

end Hopper
