import HopperSvm.ComputeLimit
import HopperSvm.SolanaRuntime
import HopperSvm.StatefulVerbs

namespace Hopper

namespace BundledAt

variable {id : Pubkey} {program : BuiltinProgram}

theorem keepsAddresses (bundled : BundledAt id program) :
    program.KeepsAddresses := by
  cases bundled with
  | computeBudget =>
      exact ComputeBudgetProgram.invoke_sameAddresses
  | system => exact BuiltinProgram.keepsAddresses_ofRoutine
  | alt => exact BuiltinProgram.keepsAddresses_ofRoutine
  | config => exact BuiltinProgram.keepsAddresses_ofRoutine
  | stake => exact BuiltinProgram.keepsAddresses_ofRoutine
  | vote => exact BuiltinProgram.keepsAddresses_ofRoutine
  | splToken => exact BuiltinProgram.keepsAddresses_ofRoutine
  | splToken2022 => exact BuiltinProgram.keepsAddresses_ofRoutine
  | splAta => exact BuiltinProgram.keepsAddresses_ofRoutine

end BundledAt

/-- The compute-budget program writes its line without reading the log. -/
theorem ComputeBudgetProgram.invoke_logBlind (data : List UInt8) :
    Procedure.Respects SameButLogs (invoke data) := by
  refine Procedure.Respects.bind (requested_stateless data).respects ?_
  intro request
  have writes :
      Procedure.Respects SameButLogs
        (Procedure.modify fun state : InvokeState =>
          { state with cells := request.apply state.cells } :
          Handler Unit) := by
    refine Procedure.Respects.modify ?_
    intro left right same
    obtain ⟨accounts, budget, cells⟩ := same
    exact ⟨accounts, budget, congrArg request.apply cells⟩
  exact writes.bind fun _ => Handler.log_logBlind _

namespace BundledAt

variable {id : Pubkey} {program : BuiltinProgram}

theorem logBlind (bundled : BundledAt id program) : program.LogBlind := by
  cases bundled with
  | computeBudget =>
      exact ComputeBudgetProgram.invoke_logBlind
  | system => exact BuiltinProgram.logBlind_ofRoutine
  | alt => exact BuiltinProgram.logBlind_ofRoutine
  | config => exact BuiltinProgram.logBlind_ofRoutine
  | stake => exact BuiltinProgram.logBlind_ofRoutine
  | vote => exact BuiltinProgram.logBlind_ofRoutine
  | splToken => exact BuiltinProgram.logBlind_ofRoutine
  | splToken2022 => exact BuiltinProgram.logBlind_ofRoutine
  | splAta => exact BuiltinProgram.logBlind_ofRoutine

end BundledAt

namespace HopperSvm

variable {svm : HopperSvm} {ix : Instruction}
  {accounts : List KeyedAccount} {logs : LogCapture}

/-- All that can run is a bundled program at its own ID. -/
structure RunsBundled (svm : HopperSvm) : Prop where
  noAgave : svm.agaveEngine = none
  noBpf : svm.bpfEngine = none
  bundled : svm.OnlyBundled

theorem RunsBundled.unlinked (runs : svm.RunsBundled)
    (ix : Instruction) : ¬ svm.Linked ix := by
  rintro (claimed | ⟨_, engine, installed, _⟩)
  · rw [agaveClaims, runs.noAgave] at claimed
    cases claimed
  · rw [runs.noBpf] at installed
    cases installed

theorem RunsBundled.keepsAddresses (runs : svm.RunsBundled) :
    svm.AllPrograms BuiltinProgram.KeepsAddresses :=
  fun id program found => (runs.bundled id program found).keepsAddresses

theorem RunsBundled.logBlind (runs : svm.RunsBundled) :
    svm.LogBlindRegistry :=
  fun id program found => (runs.bundled id program found).logBlind

/-- The settings do not matter. -/
theorem RunsBundled.congr {svm' : HopperSvm} (runs : svm.RunsBundled)
    (registry : svm'.registry = svm.registry)
    (agave : svm'.agaveEngine = svm.agaveEngine)
    (bpf : svm'.bpfEngine = svm.bpfEngine) : svm'.RunsBundled where
  noAgave := agave.trans runs.noAgave
  noBpf := bpf.trans runs.noBpf
  bundled := by
    intro id program found
    rw [registry] at found
    exact runs.bundled id program found

theorem RunsBundled.withCells (runs : svm.RunsBundled)
    (cells : HarnessCells) : (svm.withCells cells).RunsBundled :=
  ⟨runs.noAgave, runs.noBpf, runs.bundled⟩

theorem RunsBundled.withBuiltin {id : Pubkey} {program : BuiltinProgram}
    (runs : svm.RunsBundled) (own : BundledAt id program) :
    (svm.withBuiltin id program).RunsBundled :=
  ⟨runs.noAgave, runs.noBpf, runs.bundled.withBuiltin own⟩

theorem runsBundled_new (crates : Crates) : (new crates).RunsBundled := by
  refine RunsBundled.withBuiltin ?_ (.system _)
  refine ⟨rfl, rfl, ?_⟩
  intro id program found
  cases found

theorem RunsBundled.withSolanaRuntime (runs : svm.RunsBundled)
    (links : RuntimeLinks) : (svm.withSolanaRuntime links).RunsBundled := by
  refine RunsBundled.withBuiltin ?_ (.splAta _ _)
  refine RunsBundled.withBuiltin ?_ (.splToken2022 _)
  refine RunsBundled.withBuiltin ?_ (.splToken _)
  refine RunsBundled.withBuiltin ?_ (.vote _)
  refine RunsBundled.withBuiltin ?_ (.stake _)
  refine RunsBundled.withBuiltin ?_ .config
  refine RunsBundled.withBuiltin ?_ (.alt _)
  exact runs.withBuiltin .computeBudget

/-- A successful dispatch ran the bundled program of the instruction. -/
theorem RunsBundled.ran_bundled (runs : svm.RunsBundled)
    {dispatch : Dispatch}
    (ran : svm.dispatchOne ix accounts logs = some dispatch)
    (success : dispatch.outcome.error = none) :
    ∃ program, svm.registry ix.programId = some program ∧
      BundledAt ix.programId program ∧
      ∃ received state,
        svm.Succeeds program ix accounts logs received state ∧
          dispatch = Dispatch.ofState ix accounts state := by
  obtain ⟨program, serves⟩ :=
    serves_of_success (runs.unlinked ix) runs.keepsAddresses runs.logBlind
      ran success
  have found := serves.registered.found
  exact
    ⟨program, found, runs.bundled _ _ found,
      dispatchOne_succeeded serves.registered ran success⟩

/-- A dispatch keeps the addresses of its list. -/
theorem RunsBundled.addresses_eq (runs : svm.RunsBundled)
    {dispatch : Dispatch}
    (ran : svm.dispatchOne ix accounts logs = some dispatch) :
    addresses dispatch.outcome.resultingAccounts = addresses accounts := by
  by_cases success : dispatch.outcome.error = none
  · obtain ⟨program, _, bundled, received, state, succeeds, rfl⟩ :=
      runs.ran_bundled ran success
    exact
      addresses_mergeAccounts succeeds.reached.resolved
        (succeeds.reached.addresses_eq bundled.keepsAddresses)
  · rw [dispatchOne_failed_accounts ran success]

theorem addresses_carryForward {state resulting : List KeyedAccount}
    (same : addresses resulting = addresses state) :
    addresses (carryForward state resulting) = addresses state := by
  apply KeyedList.keys_upsertAll_of_subset
  intro update member
  have listed : update.address ∈ addresses resulting :=
    List.mem_map_of_mem member
  rwa [same] at listed

/-- The loop keeps the addresses, and hands them out. -/
theorem Runs.addresses_eq {index : ℕ} {ixs : List Instruction}
    {final : Option ExecutionOutcome} {ended : ChainEnd}
    (bundled : svm.RunsBundled)
    (upToDate : ∀ outcome, final = some outcome →
      addresses outcome.resultingAccounts = addresses accounts)
    (run : Runs svm index ixs accounts logs final ended) :
    addresses ended.outcome.resultingAccounts = addresses accounts := by
  induction run with
  | @finished svm index accounts logs final =>
      cases held : final with
      | none =>
          rfl
      | some outcome =>
          exact upToDate outcome held
  | failed ran failure =>
      exact bundled.addresses_eq ran
  | @completed svm index ix rest accounts logs final dispatch ended ran
      success later inductionHypothesis =>
      have same := bundled.addresses_eq ran
      have carried := addresses_carryForward same
      rw [← carried]
      refine inductionHypothesis (bundled.withCells _) ?_
      intro outcome isLast
      cases isLast
      exact same.trans carried.symm

end HopperSvm

/-- A runtime whose linked functions no program here calls. -/
def idleRuntime : RuntimeLinks :=
  { crates := Creation.idleCrates
    codec := splCodec
    minimumBalance := fun _ _ => 0
    createProgramAddress := fun _ _ => .error "InvalidSeeds"
    findProgramAddress := fun _ _ => (.default, 255) }

end Hopper
