import HopperSvm.Commutation

/-!
The verbs that read their inputs from the account overlay and commit their
results to it.  An overlay that files accounts under their addresses is a
ledger on which every account exists, and each verb takes the same steps on
it: the chain on one list with every address of the chain, the single verb
on a list with the addresses of its instruction.
-/

namespace Hopper

namespace HopperSvm

/-- `if !seen.contains(address) { seen.push(address) }`. -/
def pushUnseen (seen : List Pubkey) (address : Pubkey) : List Pubkey :=
  if address ∈ seen then seen else seen ++ [address]

/-- The program account first, then the metas in first-seen order. -/
def pushInstruction (seen : List Pubkey) (ix : Instruction) :
    List Pubkey :=
  (ix.accounts.map AccountMeta.pubkey).foldl pushUnseen
    (pushUnseen seen ix.programId)

/-- `HopperSvm::collect_inputs`. -/
def collectInputs (svm : HopperSvm) (ix : Instruction) :
    List KeyedAccount :=
  (pushInstruction [] ix).map svm.accountStore.view

/-- The input list of the chain verb. -/
def collectChainInputs (svm : HopperSvm) (ixs : List Instruction) :
    List KeyedAccount :=
  (ixs.foldl pushInstruction []).map svm.accountStore.view

/-- `HopperSvm::commit`. -/
def commit (svm : HopperSvm) (result : HopperExecutionResult) :
    HopperSvm :=
  { svm with
    accountStore :=
      svm.accountStore.insertAll result.outcome.resultingAccounts }

/-- Commit on success. -/
def commitIfSuccess (run : HopperExecutionResult × HopperSvm) :
    HopperExecutionResult × HopperSvm :=
  if run.1.outcome.error.isNone then
    (run.1, run.2.commit run.1)
  else
    run

/-- `HopperSvm::process_instruction_with_store`. -/
def processInstructionWithStore (svm : HopperSvm) (ix : Instruction) :
    Option (HopperExecutionResult × HopperSvm) :=
  (svm.processInstruction ix (svm.collectInputs ix)).map commitIfSuccess

/-- `HopperSvm::process_instruction_chain_with_store`. -/
def processInstructionChainWithStore (svm : HopperSvm)
    (ixs : List Instruction) :
    Option (HopperExecutionResult × HopperSvm) :=
  (svm.processInstructionChain ixs (svm.collectChainInputs ixs)).map
    commitIfSuccess

/-- Every instruction in order succeeds through the single verb. -/
inductive EachSucceeds : HopperSvm → List Instruction → HopperSvm → Prop
  | nil {svm : HopperSvm} : EachSucceeds svm [] svm
  | cons {svm middle final : HopperSvm} {ix : Instruction}
      {rest : List Instruction} {result : HopperExecutionResult}
      (ran : svm.processInstructionWithStore ix = some (result, middle))
      (success : result.outcome.error = none)
      (later : EachSucceeds middle rest final) :
      EachSucceeds svm (ix :: rest) final

theorem mem_pushUnseen {seen : List Pubkey} {address other : Pubkey} :
    other ∈ pushUnseen seen address ↔ other ∈ seen ∨ other = address := by
  simp only [pushUnseen]
  split
  · rename_i member
    constructor
    · exact Or.inl
    · rintro (old | rfl)
      · exact old
      · exact member
  · simp

theorem nodup_pushUnseen {seen : List Pubkey} (distinct : seen.Nodup)
    (address : Pubkey) : (pushUnseen seen address).Nodup := by
  simp only [pushUnseen]
  split
  · exact distinct
  · rename_i fresh
    apply List.nodup_append.mpr
    refine ⟨distinct, List.nodup_singleton address, ?_⟩
    intro old inSeen new isNew same
    rw [List.mem_singleton] at isNew
    rw [same, isNew] at inSeen
    exact fresh inSeen

theorem mem_foldl_pushUnseen {seen listed : List Pubkey}
    {other : Pubkey} :
    other ∈ listed.foldl pushUnseen seen ↔
      other ∈ seen ∨ other ∈ listed := by
  induction listed generalizing seen with
  | nil =>
      simp
  | cons address rest inductionHypothesis =>
      rw [List.foldl_cons, inductionHypothesis, mem_pushUnseen,
        List.mem_cons, or_assoc]

theorem nodup_foldl_pushUnseen {seen : List Pubkey}
    (distinct : seen.Nodup) (listed : List Pubkey) :
    (listed.foldl pushUnseen seen).Nodup := by
  induction listed generalizing seen with
  | nil =>
      exact distinct
  | cons address rest inductionHypothesis =>
      exact inductionHypothesis (nodup_pushUnseen distinct address)

theorem mem_pushInstruction {seen : List Pubkey} {ix : Instruction}
    {other : Pubkey} :
    other ∈ pushInstruction seen ix ↔
      other ∈ seen ∨ other = ix.programId ∨
        other ∈ ix.accounts.map AccountMeta.pubkey := by
  rw [pushInstruction, mem_foldl_pushUnseen, mem_pushUnseen, or_assoc]

theorem nodup_pushInstruction {seen : List Pubkey}
    (distinct : seen.Nodup) (ix : Instruction) :
    (pushInstruction seen ix).Nodup :=
  nodup_foldl_pushUnseen (nodup_pushUnseen distinct ix.programId) _

theorem nodup_foldl_pushInstruction {seen : List Pubkey}
    (distinct : seen.Nodup) (ixs : List Instruction) :
    (ixs.foldl pushInstruction seen).Nodup := by
  induction ixs generalizing seen with
  | nil =>
      exact distinct
  | cons ix rest inductionHypothesis =>
      exact inductionHypothesis (nodup_pushInstruction distinct ix)

/-- The chain's inputs hold every address its instructions name. -/
theorem footprint_subset_inputs {ixs : List Instruction}
    {seen : List Pubkey} {ix : Instruction} (member : ix ∈ ixs) :
    footprint ix ⊆
      { address | address ∈ ixs.foldl pushInstruction seen } := by
  induction ixs generalizing seen with
  | nil =>
      cases member
  | cons head rest inductionHypothesis =>
      rcases List.mem_cons.mp member with rfl | inRest
      · intro address named
        have grows {address : Pubkey} {seen : List Pubkey}
            (old : address ∈ seen) :
            address ∈ rest.foldl pushInstruction seen := by
          clear inductionHypothesis member
          induction rest generalizing seen with
          | nil =>
              exact old
          | cons next rest grows =>
              exact grows (mem_pushInstruction.mpr (Or.inl old))
        exact grows (mem_pushInstruction.mpr (Or.inr (Or.inr named)))
      · exact inductionHypothesis inRest

variable {svm svm' : HopperSvm} {program : BuiltinProgram}
  {ix : Instruction} {ixs : List Instruction}
  {result : HopperExecutionResult}

/-- The overlay as a ledger on which every account exists. -/
def overlay (svm : HopperSvm) : Ledger :=
  fun address => some (svm.accountStore.view address)

theorem addresses_map_view {store : AccountStore} (filed : store.Filed)
    (listed : List Pubkey) :
    addresses (listed.map store.view) = listed := by
  have same : KeyedAccount.address ∘ store.view = id := by
    funext address
    exact filed.address_view address
  rw [addresses, List.map_map, same, List.map_id]

/-- On the addresses it lists, an input list stands for the overlay. -/
theorem ledgerOf_map_view (filed : svm.accountStore.Filed)
    {listed : List Pubkey} {address : Pubkey} (member : address ∈ listed) :
    ledgerOf (listed.map svm.accountStore.view) address =
      svm.overlay address := by
  have inInputs :
      address ∈ addresses (listed.map svm.accountStore.view) := by
    rwa [addresses_map_view filed]
  obtain ⟨account, found⟩ :=
    KeyedList.exists_lookup_of_mem KeyedAccount.address inInputs
  have inList := KeyedList.mem_of_lookup KeyedAccount.address found
  rcases List.mem_map.mp inList with ⟨other, _, same⟩
  have sameAddress := KeyedList.key_of_lookup KeyedAccount.address found
  rw [← same, filed.address_view] at sameAddress
  subst sameAddress
  rw [overlay, same]
  exact found

/-- What a commit of a list over the overlay reads like. -/
theorem overlay_commit {accounts : List KeyedAccount}
    (distinct : (addresses accounts).Nodup)
    (outcome : result.outcome.resultingAccounts = accounts)
    (address : Pubkey) :
    (svm.commit result).overlay address =
      (ledgerOf accounts address).or (svm.overlay address) := by
  subst outcome
  rw [overlay, commit, AccountStore.view_insertAll _ distinct]
  cases found : ledgerOf result.outcome.resultingAccounts address with
  | none =>
      simp only [ledgerOf] at found
      rw [found]
      rfl
  | some account =>
      simp only [ledgerOf] at found
      rw [found]
      rfl

theorem processInstructionWithStore_of_step
    {cells' : HarnessCells} {after : Ledger}
    (filed : svm.accountStore.Filed) (serves : svm.Serves ix program)
    (step : LedgerStep svm ix svm.cells svm.overlay cells' after) :
    ∃ result svm',
      svm.processInstructionWithStore ix = some (result, svm') ∧
        result.outcome.error = none ∧ svm'.overlay = after ∧
        svm'.accountStore.Filed ∧
        svm' = { svm with
          cells := cells'
          accountStore := svm'.accountStore } := by
  have distinct : (addresses (svm.collectInputs ix)).Nodup := by
    rw [collectInputs, addresses_map_view filed]
    exact nodup_pushInstruction List.nodup_nil ix
  have covered : footprint ix ⊆
      { address | address ∈ pushInstruction [] ix } := by
    intro address named
    exact mem_pushInstruction.mpr (Or.inr (Or.inr named))
  have agree :
      Set.EqOn svm.overlay (ledgerOf (svm.collectInputs ix))
        (footprint ix) := fun address named =>
    (ledgerOf_map_view filed (covered named)).symm
  have isLocal := LedgerStep.isLocal serves
  obtain ⟨small, smallStep, sameInside⟩ := isLocal.reads agree step
  obtain ⟨dispatch, dispatched, success, rfl, rfl, sameAddresses⟩ :=
    smallStep.dispatches serves distinct .empty
  have ran :
      svm.processInstruction ix (svm.collectInputs ix) =
        some (.fromOutcome dispatch.outcome dispatch.logs,
          svm.withCells dispatch.cells) := by
    rw [processInstruction, dispatched, Option.map_some]
  refine
    ⟨.fromOutcome dispatch.outcome dispatch.logs,
      (svm.withCells dispatch.cells).commit
        (.fromOutcome dispatch.outcome dispatch.logs),
      ?_, success, ?_, filed.insertAll _, rfl⟩
  · have noError :
        (HopperExecutionResult.fromOutcome dispatch.outcome
          dispatch.logs).outcome.error.isNone = true := by
      rw [HopperExecutionResult.fromOutcome, success]
      rfl
    rw [processInstructionWithStore, ran, Option.map_some,
      commitIfSuccess, if_pos noError]
  · have resultDistinct :
        (addresses dispatch.outcome.resultingAccounts).Nodup := by
      rwa [sameAddresses]
    funext address
    have committed :
        ((svm.withCells dispatch.cells).commit
            (.fromOutcome dispatch.outcome dispatch.logs)).overlay
              address =
          (ledgerOf dispatch.outcome.resultingAccounts address).or
            (svm.overlay address) :=
      overlay_commit resultDistinct rfl address
    rw [committed]
    by_cases named : address ∈ footprint ix
    · have present : address ∈
          addresses dispatch.outcome.resultingAccounts := by
        rw [sameAddresses, collectInputs, addresses_map_view filed]
        exact covered named
      obtain ⟨account, found⟩ :=
        KeyedList.exists_lookup_of_mem KeyedAccount.address present
      have inside := sameInside named
      have found : ledgerOf dispatch.outcome.resultingAccounts address =
          some account := found
      rw [inside, found, Option.some_or]
    · rw [isLocal.frame smallStep named, isLocal.frame step named]
      by_cases listed : address ∈ pushInstruction [] ix
      · have read :
            ledgerOf (svm.collectInputs ix) address =
              svm.overlay address :=
          ledgerOf_map_view filed listed
        rw [read, overlay, Option.some_or]
      · have absent : ledgerOf (svm.collectInputs ix) address = none := by
          rw [ledgerOf_eq_none_iff, collectInputs,
            addresses_map_view filed]
          exact listed
        rw [absent, Option.none_or]

/-- A run of ledger steps on the overlay is taken by the single verb,
instruction after instruction. -/
theorem eachSucceeds_of_ledgerRun {cells' : HarnessCells}
    {after : Ledger} (filed : svm.accountStore.Filed)
    (served : ∀ ix ∈ ixs, ∃ program, svm.Serves ix program)
    (run : Footprint.Run (LedgerStep svm) ixs svm.cells svm.overlay
      cells' after) :
    ∃ final, EachSucceeds svm ixs final ∧ final.overlay = after := by
  induction ixs generalizing svm with
  | nil =>
      cases run
      exact ⟨svm, .nil, rfl⟩
  | cons ix rest inductionHypothesis =>
      cases run with
      | cons first later =>
          obtain ⟨program, serves⟩ := served ix List.mem_cons_self
          obtain ⟨result, middle, ran, success, rfl, filedNext,
            sameHarness⟩ :=
            processInstructionWithStore_of_step filed serves first
          have servedRest (later : Instruction) (member : later ∈ rest) :
              ∃ program, middle.Serves later program := by
            obtain ⟨other, serves⟩ :=
              served later (List.mem_cons_of_mem _ member)
            rw [sameHarness]
            exact
              ⟨other,
                ⟨serves.registered.unclaimed, serves.registered.found⟩,
                serves.keeps, serves.blind⟩
          have sameSteps : LedgerStep middle = LedgerStep svm := by
            rw [sameHarness]
            exact ledgerStep_withStore svm _ _
          have sameCells := congrArg HopperSvm.cells sameHarness
          dsimp only at sameCells
          rw [← sameSteps, ← sameCells] at later
          obtain ⟨final, each, finalOverlay⟩ :=
            inductionHypothesis filedNext servedRest later
          exact ⟨final, .cons ran success each, finalOverlay⟩

/-! ## The stateful chain verb -/

/-- A linked engine runs the instruction. -/
def Linked (svm : HopperSvm) (ix : Instruction) : Prop :=
  svm.agaveClaims ix.programId = true ∨
    svm.registry ix.programId = none ∧
      ∃ engine, svm.bpfEngine = some engine ∧
        engine.programs ix.programId ≠ none

/-- The instructions run on registered programs only, which leave addresses
alone and never read the log back, and the overlay files every account under
its address. -/
structure RunsBuiltins (svm : HopperSvm) (ixs : List Instruction) :
    Prop where
  filed : svm.accountStore.Filed
  unlinked : ∀ ix ∈ ixs, ¬ svm.Linked ix
  keeps : svm.AllPrograms BuiltinProgram.KeepsAddresses
  blind : svm.LogBlindRegistry

/-- A successful dispatch that no linked engine ran is a registered
program's. -/
theorem serves_of_success {accounts : List KeyedAccount}
    {logs : LogCapture} {dispatch : Dispatch}
    (unlinked : ¬ svm.Linked ix)
    (keeps : svm.AllPrograms BuiltinProgram.KeepsAddresses)
    (blind : svm.LogBlindRegistry)
    (ran : svm.dispatchOne ix accounts logs = some dispatch)
    (success : dispatch.outcome.error = none) :
    ∃ program, svm.Serves ix program := by
  cases goes_of_dispatchOne ran with
  | agave engine claimed linked =>
      exact absurd (Or.inl claimed) unlinked
  | @builtin program run unclaimed found executed =>
      exact
        ⟨program, ⟨unclaimed, found⟩, keeps _ program found,
          blind _ program found⟩
  | @bpf engine run unclaimed unregistered installed tried =>
      obtain ⟨⟨loaded, known⟩, _⟩ := reported_of_tryExecute tried
      have linked : svm.Linked ix :=
        Or.inr ⟨unregistered, engine, installed, by simp [known]⟩
      exact absurd linked unlinked
  | nowhere unclaimed unregistered unloaded =>
      cases success

theorem Completes.served {index : Nat} {accounts after : List KeyedAccount}
    {logs : LogCapture}
    (completes : Completes svm index ixs accounts logs after)
    (unlinked : ∀ ix ∈ ixs, ¬ svm.Linked ix)
    (keeps : svm.AllPrograms BuiltinProgram.KeepsAddresses)
    (blind : svm.LogBlindRegistry) :
    ∀ ix ∈ ixs, ∃ program, svm.Serves ix program := by
  induction completes with
  | nil =>
      intro ix member
      cases member
  | cons ran success later inductionHypothesis =>
      intro ix member
      rcases List.mem_cons.mp member with rfl | inRest
      · exact
          serves_of_success (unlinked ix List.mem_cons_self) keeps blind
            ran success
      · have unlinkedRest : ∀ later ∈ _, ¬ HopperSvm.Linked _ later :=
          fun later inLater =>
            unlinked later (List.mem_cons_of_mem _ inLater)
        obtain ⟨program, serves⟩ :=
          inductionHypothesis unlinkedRest keeps blind ix inRest
        exact
          ⟨program,
            ⟨serves.registered.unclaimed, serves.registered.found⟩,
            serves.keeps, serves.blind⟩

/-- Run on the overlay, a chain that succeeded on its input list leaves
the ledger its commit leaves. -/
theorem overlayRun_of_chain (filed : svm.accountStore.Filed)
    (served : ∀ ix ∈ ixs, ∃ program, svm.Serves ix program)
    (ran : svm.processInstructionChain ixs (svm.collectChainInputs ixs) =
      some (result, svm'))
    (success : result.outcome.error = none) :
    ∃ cells', Footprint.Run (LedgerStep svm) ixs svm.cells svm.overlay
      cells' (svm.commit result).overlay := by
  let listed := ixs.foldl pushInstruction []
  have distinct : (addresses (svm.collectChainInputs ixs)).Nodup := by
    rw [collectChainInputs, addresses_map_view filed]
    exact nodup_foldl_pushInstruction List.nodup_nil ixs
  obtain ⟨sameAddresses, cells', run⟩ :=
    ledgerRun_of_processInstructionChain served distinct ran success
  have isLocal :
      Footprint.Local { address | address ∈ listed }
        (Footprint.Run (LedgerStep svm) ixs) := by
    apply Footprint.Run.isLocal
    intro ix member
    obtain ⟨program, serves⟩ := served ix member
    exact
      (LedgerStep.isLocal serves).mono (footprint_subset_inputs member)
  have agree :
      Set.EqOn (ledgerOf (svm.collectChainInputs ixs)) svm.overlay
        { address | address ∈ listed } := fun address member =>
    ledgerOf_map_view filed member
  obtain ⟨after, overlayRun, sameInside⟩ := isLocal.reads agree run
  have committed : after = (svm.commit result).overlay := by
    funext address
    rw [overlay_commit (by rwa [sameAddresses]) rfl address]
    by_cases inside : address ∈ listed
    · have present :
          address ∈ addresses result.outcome.resultingAccounts := by
        rw [sameAddresses, collectChainInputs, addresses_map_view filed]
        exact inside
      obtain ⟨account, found⟩ :=
        KeyedList.exists_lookup_of_mem KeyedAccount.address present
      have found : ledgerOf result.outcome.resultingAccounts address =
          some account := found
      rw [← sameInside inside, found, Option.some_or]
    · have absent :
          ledgerOf result.outcome.resultingAccounts address = none := by
        rw [ledgerOf_eq_none_iff, sameAddresses, collectChainInputs,
          addresses_map_view filed]
        exact inside
      rw [isLocal.frame overlayRun inside, absent, Option.none_or]
  exact ⟨cells', committed ▸ overlayRun⟩

/-- A failing stateful chain leaves the overlay; a successful one leaves
the view that the single verb leaves instruction after instruction. -/
theorem processInstructionChainWithStore_eachSucceeds
    (ran : svm.processInstructionChainWithStore ixs =
      some (result, svm')) :
    (result.outcome.error ≠ none →
        svm'.accountStore = svm.accountStore) ∧
      (result.outcome.error = none → svm.RunsBuiltins ixs →
        ∃ final, EachSucceeds svm ixs final ∧
          ∀ address, final.accountStore.view address =
            svm'.accountStore.view address) := by
  rcases Option.map_eq_some_iff.mp ran with
    ⟨⟨chained, after⟩, chainRan, committed⟩
  rcases Option.map_eq_some_iff.mp chainRan with ⟨ended, looped, same⟩
  cases same
  have sameStore : ended.svm.accountStore = svm.accountStore := by
    rw [runChain_svm looped]
    rfl
  rw [commitIfSuccess] at committed
  split at committed
  · rename_i noError
    cases committed
    have success := Option.isNone_iff_eq_none.mp noError
    refine ⟨fun failure => absurd success failure, fun _ builtins => ?_⟩
    obtain ⟨_, _, completes⟩ := completes_of_success chainRan success
    have served :=
      completes.served builtins.unlinked builtins.keeps builtins.blind
    obtain ⟨cells', overlayRun⟩ :=
      overlayRun_of_chain builtins.filed served chainRan success
    obtain ⟨final, each, finalOverlay⟩ :=
      eachSucceeds_of_ledgerRun builtins.filed served overlayRun
    refine ⟨final, each, fun address => ?_⟩
    have sameView := Option.some.inj (congrFun finalOverlay address)
    rw [sameView, commit, commit, sameStore]
  · rename_i failed
    cases committed
    refine ⟨fun _ => sameStore, fun success _ => ?_⟩
    exact absurd (Option.isNone_iff_eq_none.mpr success) failed

/-- The appending harness with an account of that program on file. -/
def filedSvm : HopperSvm :=
  { appendingSvm with
    accountStore := AccountStore.empty.insert clonedAccount }

theorem filedSvm_runsBuiltins (ixs : List Instruction) :
    filedSvm.RunsBuiltins ixs where
  filed := AccountStore.filed_empty.insert clonedAccount
  unlinked := by
    rintro ix _ (claimed | ⟨_, engine, installed, _⟩)
    · cases claimed
    · cases installed
  keeps :=
    AllPrograms.ofRegistry_none.withBuiltin _
      (addByte_keepsAddresses 0xAB)
  blind := appendingSvm_logBlind

theorem processInstructionChainWithStore_eachSucceeds_addByte :
    ∃ result svm',
      filedSvm.processInstructionChainWithStore
          [appendIx (.filled 1), appendIx (.filled 1)] =
        some (result, svm') ∧
      ∃ final,
        EachSucceeds filedSvm [appendIx (.filled 1), appendIx (.filled 1)]
          final ∧
        ∀ address, final.accountStore.view address =
          svm'.accountStore.view address := by
  have ran :
      filedSvm.processInstructionChainWithStore
          [appendIx (.filled 1), appendIx (.filled 1)] =
        some (_, _) := rfl
  have agrees := processInstructionChainWithStore_eachSucceeds ran
  exact ⟨_, _, ran, agrees.2 rfl (filedSvm_runsBuiltins _)⟩

/-- A program that needs the chain's section line before its own invoke
line. -/
def sectionReadingSvm : HopperSvm :=
  (ofRegistry fun _ => none).withBuiltin (.filled 8) (needsLines 2)

/-- An account on file under the idle program's address. -/
def misfiledSvm : HopperSvm :=
  { idlingSvm with
    accountStore :=
      { get := fun address =>
          if address = .filled 7 then some clonedAccount else none } }

/-- A chain succeeds and its one instruction alone fails, where a program
reads the log back; a chain leaves another view than its instructions one
after the other, where an account is filed under another address. -/
theorem verbs_told_apart :
    (sectionReadingSvm.AllPrograms BuiltinProgram.KeepsAddresses ∧
      (∃ result svm',
        sectionReadingSvm.processInstructionChainWithStore [unknownIx] =
            some (result, svm') ∧
          result.outcome.error = none) ∧
        ¬ ∃ final, EachSucceeds sectionReadingSvm [unknownIx] final) ∧
      misfiledSvm.AllPrograms BuiltinProgram.KeepsAddresses ∧
        ∃ result svm',
          misfiledSvm.processInstructionChainWithStore
              [idleIx, appendIx (.filled 1)] = some (result, svm') ∧
            result.outcome.error = none ∧
            ∀ final,
              EachSucceeds misfiledSvm [idleIx, appendIx (.filled 1)]
                  final →
                final.accountStore.view (.filled 1) ≠
                  svm'.accountStore.view (.filled 1) := by
  constructor
  · have keeps :
        sectionReadingSvm.AllPrograms BuiltinProgram.KeepsAddresses :=
      AllPrograms.ofRegistry_none.withBuiltin _
        (needsLines_keepsAddresses 2)
    refine ⟨keeps, ⟨_, _, rfl, rfl⟩, ?_⟩
    intro succeeded
    rcases succeeded with ⟨final, each⟩
    cases each with
    | cons ran success later =>
        have failing :
            sectionReadingSvm.processInstructionWithStore unknownIx =
              some (_, _) := rfl
        rw [failing] at ran
        cases ran
        cases success
  · have keeps : misfiledSvm.AllPrograms BuiltinProgram.KeepsAddresses :=
      (AllPrograms.ofRegistry_none.withBuiltin _
        (addByte_keepsAddresses 0xAB)).withBuiltin _
          (BuiltinProgram.keepsAddresses_ofHandler _)
    refine ⟨keeps, _, _, rfl, rfl, ?_⟩
    intro final each
    cases each with
    | cons ran success later =>
        have first : some (_, _) = some (_, _) := ran
        cases first
        cases later with
        | cons ran success later =>
            have second : some (_, _) = some (_, _) := ran
            cases second
            cases later
            decide

end HopperSvm

end Hopper
