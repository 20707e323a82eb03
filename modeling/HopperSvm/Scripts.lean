import HopperSvm.Fixtures
import HopperSvm.LamportAudit

/-!
A test that keeps its accounts in the harness: it writes fixtures, has
instructions and chains processed or simulated on the overlay, has requests
processed on lists of its own, and changes settings in between.  No step
changes the programs, the engines or the validation policy.
-/

namespace Hopper

open HopperSvm Labelled Words

/-- What is processed or simulated on the overlay. -/
inductive Verb where
  | instruction (ix : Instruction)
  | chain (ixs : List Instruction)

namespace Verb

def request : Verb → Request
  | .instruction ix => .instruction ix
  | .chain ixs => .chain ixs

/-- The addresses of the input list. -/
def listed : Verb → List Pubkey
  | .instruction ix => pushInstruction [] ix
  | .chain ixs => ixs.foldl pushInstruction []

def process (svm : HopperSvm) :
    Verb → Option (HopperExecutionResult × HopperSvm)
  | .instruction ix => svm.processInstructionWithStore ix
  | .chain ixs => svm.processInstructionChainWithStore ixs

def simulate (svm : HopperSvm) :
    Verb → Option (HopperExecutionResult × HopperSvm)
  | .instruction ix => svm.simulateInstructionWithStore ix
  | .chain ixs => svm.simulateInstructionChainWithStore ixs

variable {svm svm' : HopperSvm} {verb : Verb}
  {result : HopperExecutionResult}

theorem nodup_listed (verb : Verb) : verb.listed.Nodup := by
  cases verb with
  | instruction ix =>
      exact nodup_pushInstruction List.nodup_nil ix
  | chain ixs =>
      exact nodup_foldl_pushInstruction List.nodup_nil ixs

/-- A verb is its request on the accounts it lists, and a commit. -/
theorem process_eq (svm : HopperSvm) (verb : Verb) :
    verb.process svm =
      (verb.request.process svm
        (verb.listed.map svm.accountStore.view)).map commitIfSuccess := by
  cases verb <;> rfl

theorem simulate_eq (svm : HopperSvm) (verb : Verb) :
    verb.simulate svm =
      (verb.process svm).map fun run =>
        (run.1, run.2.restoreAccounts svm.accountStore) := by
  cases verb <;> rfl

/-- Processing a request changes no part of the harness but its cells. -/
theorem request_svm {request : Request} {accounts : List KeyedAccount}
    (ran : request.process svm accounts = some (result, svm')) :
    svm' = svm.withCells svm'.cells := by
  cases request with
  | instruction ix =>
      obtain ⟨dispatch, _, same⟩ := Option.map_eq_some_iff.mp ran
      cases same
      rfl
  | chain ixs =>
      obtain ⟨ended, looped, same⟩ := Option.map_eq_some_iff.mp ran
      cases same
      exact runChain_svm looped
  | transaction ixs feePayer =>
      change svm.processTransaction ixs accounts feePayer = _ at ran
      by_cases covers : svm.Covers ixs accounts feePayer
      · rw [processTransaction_of_covers covers] at ran
        obtain ⟨ended, looped, same⟩ := Option.map_eq_some_iff.mp ran
        cases same
        exact runChain_svm looped
      · rw [processTransaction_svm covers ran]
        rfl

/-- A verb commits the list its request left, if it succeeded. -/
theorem process_left (ran : verb.process svm = some (result, svm')) :
    (∃ ranSvm,
      verb.request.process svm (verb.listed.map svm.accountStore.view) =
        some (result, ranSvm)) ∧
      svm' =
        { svm.withCells svm'.cells with
          accountStore :=
            if result.outcome.error = none then
              svm.accountStore.insertAll result.outcome.resultingAccounts
            else
              svm.accountStore } := by
  rw [process_eq] at ran
  obtain ⟨⟨result', ranSvm⟩, requested, committed⟩ :=
    Option.map_eq_some_iff.mp ran
  have sameSvm := request_svm requested
  rw [commitIfSuccess] at committed
  by_cases success : result'.outcome.error = none
  · rw [if_pos (Option.isNone_iff_eq_none.mpr success)] at committed
    cases committed
    refine ⟨⟨ranSvm, requested⟩, ?_⟩
    rw [if_pos success, commit, sameSvm]
    rfl
  · have failed : ¬ result'.outcome.error.isNone = true := by
      rw [Option.isNone_iff_eq_none]
      exact success
    rw [if_neg failed] at committed
    cases committed
    refine ⟨⟨svm', requested⟩, ?_⟩
    rw [if_neg success, sameSvm]
    rfl

/-- What a verb on a guarded harness did to an overlay that files accounts
under their addresses: a success commits a list that accepted instructions
lead to. -/
structure Processes (svm : HopperSvm) (verb : Verb)
    (result : HopperExecutionResult) (svm' : HopperSvm)
    (after : List KeyedAccount) : Prop where
  filed : svm.accountStore.Filed
  applies :
    Applies svm.registry verb.request.instructions
      (verb.listed.map svm.accountStore.view) after
  left :
    svm' =
      { svm.withCells svm'.cells with
        accountStore :=
          if result.outcome.error = none then
            svm.accountStore.insertAll after
          else
            svm.accountStore }

theorem nodup_inputs (filed : svm.accountStore.Filed) (verb : Verb) :
    (addresses (verb.listed.map svm.accountStore.view)).Nodup := by
  rw [addresses_map_view filed]
  exact verb.nodup_listed

theorem processes_of_process (guarded : svm.Guarded)
    (filed : svm.accountStore.Filed)
    (ran : verb.process svm = some (result, svm')) :
    ∃ after, Processes svm verb result svm' after := by
  obtain ⟨⟨ranSvm, requested⟩, left⟩ := process_left ran
  obtain ⟨⟨charged, charges, applies⟩, _⟩ :=
    guarded.process (nodup_inputs filed verb) requested
  have unpaid : charged = verb.listed.map svm.accountStore.view := by
    generalize result.transactionFeePaid = fee at charges
    cases verb with
    | instruction ix =>
        cases charges
        rfl
    | chain ixs =>
        cases charges
        rfl
  exact ⟨_, filed, unpaid ▸ applies, left⟩

/-- On bundled programs a verb hands out the addresses it lists. -/
theorem addresses_process (runs : svm.RunsBundled)
    (filed : svm.accountStore.Filed)
    (ran : verb.process svm = some (result, svm')) :
    addresses result.outcome.resultingAccounts = verb.listed := by
  obtain ⟨⟨ranSvm, requested⟩, _⟩ := process_left ran
  have listed := addresses_map_view filed verb.listed
  cases verb with
  | instruction ix =>
      obtain ⟨dispatch, dispatched, same⟩ :=
        Option.map_eq_some_iff.mp requested
      cases same
      exact (runs.addresses_eq dispatched).trans listed
  | chain ixs =>
      obtain ⟨ended, looped, same⟩ := Option.map_eq_some_iff.mp requested
      cases same
      refine
        (Runs.addresses_eq runs ?_ (runs_of_runChain looped)).trans listed
      intro outcome started
      cases started

end Verb

/-! ## Scripts -/

namespace Script

inductive Event where
  | setAccount (account : KeyedAccount)
  | getAccount (address : Pubkey) (found : Option KeyedAccount)
  | removeAccount (address : Pubkey) (removed : Option KeyedAccount)
  | clearAccounts
  | restoreAccounts (snapshot : AccountStore)
  | airdrop (address : Pubkey) (lamports : UInt64)
  | createAccount (address : Pubkey) (space : ℕ) (owner : Pubkey)
  | setTokenBalance (address : Pubkey) (amount : UInt64)
  | setMintSupply (address : Pubkey) (supply : UInt64)
  | commit (result : HopperExecutionResult)
  | process (verb : Verb) (result : HopperExecutionResult)
  | simulate (verb : Verb) (result : HopperExecutionResult)
  | request (request : Request) (accounts : List KeyedAccount)
      (result : HopperExecutionResult)
  | configure

/-- One step of a script that does not panic.  A change of settings leaves
the programs, the validation policy and the overlay. -/
def Step (minimumBalance : Rent → ℕ → UInt64) (before : HopperSvm)
    (event : Event) (after : HopperSvm) : Prop :=
  match event with
  | .setAccount account => after = before.setAccount account
  | .getAccount address found =>
      before.getAccount address = found ∧ after = before
  | .removeAccount address removed =>
      before.removeAccount address = (removed, after)
  | .clearAccounts => after = before.clearAccounts
  | .restoreAccounts snapshot => after = before.restoreAccounts snapshot
  | .airdrop address lamports => after = before.airdrop address lamports
  | .createAccount address space owner =>
      after = before.createAccount minimumBalance address space owner
  | .setTokenBalance address amount =>
      before.setTokenBalance address amount = some after
  | .setMintSupply address supply =>
      before.setMintSupply address supply = some after
  | .commit result => after = before.commit result
  | .process verb result => verb.process before = some (result, after)
  | .simulate verb result => verb.simulate before = some (result, after)
  | .request request accounts result =>
      request.process before accounts = some (result, after)
  | .configure =>
      after.registry = before.registry ∧
        after.agaveEngine = before.agaveEngine ∧
        after.bpfEngine = before.bpfEngine ∧
        after.validationPolicy = before.validationPolicy ∧
        after.accountStore = before.accountStore

variable {minimumBalance : Rent → ℕ → UInt64}
  {before after : HopperSvm} {event : Event}

/-- A simulation changes no part of the harness but its cells. -/
theorem simulate_svm {verb : Verb} {result : HopperExecutionResult}
    (ran : verb.simulate before = some (result, after)) :
    after = before.withCells after.cells ∧
      ∃ result',
        verb.request.process before
            (verb.listed.map before.accountStore.view) =
          some (result', after) := by
  rw [Verb.simulate_eq, Verb.process_eq, Option.map_map] at ran
  obtain ⟨⟨result', ranSvm⟩, requested, restored⟩ :=
    Option.map_eq_some_iff.mp ran
  have sameSvm := Verb.request_svm requested
  obtain ⟨-, left⟩ := Prod.mk.inj restored
  have back : ranSvm.restoreAccounts before.accountStore = ranSvm := by
    rw [sameSvm]
    rfl
  rw [restoreAccounts_commit, back] at left
  subst left
  exact ⟨sameSvm, result', requested⟩

/-- The two harnesses have the same programs, engines and validation
policy. -/
structure SameRules (before after : HopperSvm) : Prop where
  registry : after.registry = before.registry
  agave : after.agaveEngine = before.agaveEngine
  bpf : after.bpfEngine = before.bpfEngine
  policy : after.validationPolicy = before.validationPolicy

theorem SameRules.of_cells {cells : HarnessCells} {store : AccountStore}
    (left : after =
      { before.withCells cells with accountStore := store }) :
    SameRules before after := by
  rw [left]
  exact ⟨rfl, rfl, rfl, rfl⟩

theorem Step.sameRules (step : Step minimumBalance before event after) :
    SameRules before after := by
  cases event with
  | removeAccount address removed =>
      cases step
      exact ⟨rfl, rfl, rfl, rfl⟩
  | getAccount address found =>
      rw [step.2]
      exact ⟨rfl, rfl, rfl, rfl⟩
  | airdrop address lamports =>
      subst step
      simp only [airdrop]
      split
      · exact ⟨rfl, rfl, rfl, rfl⟩
      · exact ⟨rfl, rfl, rfl, rfl⟩
  | setTokenBalance address amount =>
      obtain ⟨account, _, _, rfl⟩ := forceWord_eq_some.mp step
      exact ⟨rfl, rfl, rfl, rfl⟩
  | setMintSupply address supply =>
      obtain ⟨account, _, _, rfl⟩ := forceWord_eq_some.mp step
      exact ⟨rfl, rfl, rfl, rfl⟩
  | process verb result =>
      exact .of_cells (Verb.process_left step).2
  | simulate verb result =>
      rw [(simulate_svm step).1]
      exact ⟨rfl, rfl, rfl, rfl⟩
  | request request accounts result =>
      rw [Verb.request_svm step]
      exact ⟨rfl, rfl, rfl, rfl⟩
  | configure =>
      obtain ⟨registry, agave, bpf, policy, _⟩ := step
      exact ⟨registry, agave, bpf, policy⟩
  | _ =>
      subst step
      exact ⟨rfl, rfl, rfl, rfl⟩

theorem SameRules.runsBundled (same : SameRules before after)
    (runs : before.RunsBundled) : after.RunsBundled :=
  runs.congr same.registry same.agave same.bpf

theorem SameRules.guarded (same : SameRules before after)
    (guarded : before.Guarded) : after.Guarded :=
  guarded.congr same.registry same.agave same.bpf same.policy

theorem SameRules.onlyBundled (same : SameRules before after)
    (only : before.OnlyBundled) : after.OnlyBundled := by
  intro id program found
  rw [same.registry] at found
  exact only id program found

/-- A snapshot that the event restores files every account under its
address. -/
def Event.RestoresFiled : Event → Prop
  | .restoreAccounts snapshot => snapshot.Filed
  | _ => True

theorem filed_forceWord {start : ℕ} {address : Pubkey} {word : UInt64}
    (filed : before.accountStore.Filed)
    (ran : before.forceWord start address word = some after) :
    after.accountStore.Filed := by
  obtain ⟨account, found, _, rfl⟩ := forceWord_eq_some.mp ran
  have named : account.address = address := filed address account found
  exact filed.put named

/-- Every step files accounts under their addresses, if the snapshots
do. -/
theorem Step.filed (step : Step minimumBalance before event after)
    (filed : before.accountStore.Filed) (restores : event.RestoresFiled) :
    after.accountStore.Filed := by
  cases event with
  | setAccount account =>
      subst step
      exact filed.insert account
  | getAccount address found =>
      rw [step.2]
      exact filed
  | removeAccount address removed =>
      cases step
      exact filed.remove address
  | clearAccounts =>
      subst step
      exact AccountStore.filed_empty
  | restoreAccounts snapshot =>
      subst step
      exact restores
  | airdrop address lamports =>
      subst step
      simp only [airdrop]
      split
      · rename_i existing found
        have named : existing.address = address :=
          filed address existing found
        exact filed.put named
      · exact filed.put rfl
  | createAccount address space owner =>
      subst step
      exact filed.put rfl
  | setTokenBalance address amount =>
      exact filed_forceWord filed step
  | setMintSupply address supply =>
      exact filed_forceWord filed step
  | commit result =>
      subst step
      exact filed.insertAll _
  | process verb result =>
      rw [(Verb.process_left step).2]
      change
        (if result.outcome.error = none then _ else _ :
          AccountStore).Filed
      by_cases success : result.outcome.error = none
      · rw [if_pos success]
        exact filed.insertAll _
      · rw [if_neg success]
        exact filed
  | simulate verb result =>
      rw [(simulate_svm step).1]
      exact filed
  | request request accounts result =>
      rw [Verb.request_svm step]
      exact filed
  | configure =>
      obtain ⟨_, _, _, _, same⟩ := step
      rw [same]
      exact filed

/-- The instructions of a dry run: a simulation, or a request on a list of
the test's own. -/
def Event.dryRun : Event → Option (List Instruction)
  | .simulate verb _ => some verb.request.instructions
  | .request asked _ _ => some asked.instructions
  | _ => none

/-- No instruction goes to the compute-budget program. -/
def Unbudgeted (ixs : List Instruction) : Prop :=
  ∀ ix ∈ ixs, ix.programId ≠ computeBudgetProgramId

theorem requestedCells_of_unbudgeted {ixs : List Instruction}
    (unbudgeted : Unbudgeted ixs) :
    before.requestedCells ixs = before.cells := by
  have none : ixs.filterMap before.requestOf = [] := by
    rw [List.filterMap_eq_nil_iff]
    intro ix member
    exact requestOf_of_other (unbudgeted ix member)
  rw [requestedCells, none]
  rfl

theorem mem_of_stopsAfter {index : ℕ} {ixs done : List Instruction}
    {accounts : List KeyedAccount} {logs : LogCapture}
    (stops : StopsAfter before index ixs accounts logs done) :
    ∀ ix ∈ done, ix ∈ ixs := by
  induction stops with
  | completed ran success later inductionHypothesis =>
      intro ix member
      cases member with
      | head =>
          exact List.mem_cons_self
      | tail _ member =>
          exact List.mem_cons_of_mem _ (inductionHypothesis ix member)
  | _ =>
      intro ix member
      cases member

theorem runChain_unbudgeted {index : ℕ} {ixs : List Instruction}
    {accounts : List KeyedAccount} {logs : LogCapture}
    {final : Option ExecutionOutcome} {ended : ChainEnd}
    (only : before.OnlyBundled)
    (ran : runChain before index ixs accounts logs final = some ended)
    (unbudgeted : Unbudgeted ixs) : ended.svm = before := by
  obtain ⟨done, stops, left⟩ := runChain_cells only ran
  have quiet : Unbudgeted done :=
    fun ix member => unbudgeted ix (mem_of_stopsAfter stops ix member)
  rw [left, requestedCells_of_unbudgeted quiet]
  rfl

/-- A request that asks the compute-budget program for nothing leaves the
harness. -/
theorem request_unbudgeted {request : Request}
    {accounts : List KeyedAccount} {result : HopperExecutionResult}
    (only : before.OnlyBundled)
    (ran : request.process before accounts = some (result, after))
    (unbudgeted : Unbudgeted request.instructions) : after = before := by
  cases request with
  | instruction ix =>
      refine (processInstruction_invisible_iff only ran).mpr fun _ => ?_
      exact requestedCells_of_unbudgeted unbudgeted
  | chain ixs =>
      obtain ⟨ended, looped, same⟩ := Option.map_eq_some_iff.mp ran
      cases same
      exact runChain_unbudgeted only looped unbudgeted
  | transaction ixs feePayer =>
      change before.processTransaction ixs accounts feePayer = _ at ran
      by_cases covers : before.Covers ixs accounts feePayer
      · rw [processTransaction_of_covers covers] at ran
        obtain ⟨ended, looped, same⟩ := Option.map_eq_some_iff.mp ran
        cases same
        exact runChain_unbudgeted only looped unbudgeted
      · exact processTransaction_svm covers ran

theorem Step.dry {ixs : List Instruction} (only : before.OnlyBundled)
    (step : Step minimumBalance before event after)
    (dry : event.dryRun = some ixs) (unbudgeted : Unbudgeted ixs) :
    after = before := by
  cases event with
  | simulate verb result =>
      cases dry
      obtain ⟨_, result', requested⟩ := simulate_svm step
      exact request_unbudgeted only requested unbudgeted
  | request request accounts result =>
      cases dry
      exact request_unbudgeted only step unbudgeted
  | _ =>
      cases dry

/-! A wallet is filed, another gets an airdrop, and a transfer between them
is simulated and then processed. -/

def transferVerb : Verb :=
  .instruction Session.payIx

/-- The harness behind the fixtures. -/
def fixedSvm : HopperSvm :=
  ((HopperSvm.new Creation.idleCrates).setAccount
      (Simulator.walletOf Simulator.senderAddress 20000)).airdrop
    Simulator.receiverAddress 7

theorem new_guarded (crates : Crates) : (HopperSvm.new crates).Guarded :=
  { runsBundled_new crates with
    strict := rfl }

theorem fixedSvm_guarded : fixedSvm.Guarded :=
  (new_guarded Creation.idleCrates).congr rfl rfl rfl rfl

theorem fixedSvm_filed : fixedSvm.accountStore.Filed :=
  (AccountStore.filed_empty.insert _).put rfl

theorem transferVerb_unbudgeted :
    Unbudgeted transferVerb.request.instructions := by
  intro ix member
  rw [List.mem_singleton.mp member]
  decide

def transferScript (dry result : HopperExecutionResult)
    (finish : HopperSvm) : List (Entry HopperSvm Event) :=
  let start := HopperSvm.new Creation.idleCrates
  let wallet := Simulator.walletOf Simulator.senderAddress 20000
  [⟨start, .setAccount wallet, start.setAccount wallet⟩,
    ⟨start.setAccount wallet, .airdrop Simulator.receiverAddress 7,
      fixedSvm⟩,
    ⟨fixedSvm, .simulate transferVerb dry, fixedSvm⟩,
    ⟨fixedSvm, .process transferVerb result, finish⟩]

theorem transferVerb_processes :
    ∃ result finish,
      transferVerb.process fixedSvm = some (result, finish) ∧
        result.outcome.error = none :=
  ⟨_, _, rfl, rfl⟩

theorem transferScript_runs :
    ∃ dry result finish,
      result.outcome.error = none ∧
        Trace (Step fun _ _ => 0) (HopperSvm.new Creation.idleCrates)
          (transferScript dry result finish) finish := by
  obtain ⟨result, finish, processed, success⟩ := transferVerb_processes
  have simulated :
      transferVerb.simulate fixedSvm =
        some (result, finish.restoreAccounts fixedSvm.accountStore) := by
    rw [Verb.simulate_eq, processed]
    rfl
  have step :
      Step (fun _ _ => 0) fixedSvm (.simulate transferVerb result)
        (finish.restoreAccounts fixedSvm.accountStore) :=
    simulated
  rw [step.dry fixedSvm_guarded.bundled rfl transferVerb_unbudgeted] at step
  exact
    ⟨result, result, finish, success,
      .cons rfl (.cons rfl (.cons step (.cons processed .nil)))⟩

/-- Dropping from a script its simulations and its requests on lists gives
a script that ends in the same harness, if what is dropped asks the
compute-budget program for nothing. -/
theorem dry_runs_erased {start finish : HopperSvm}
    {entries : List (Entry HopperSvm Event)}
    (run : Trace (Step minimumBalance) start entries finish)
    (only : start.OnlyBundled)
    (unbudgeted : ∀ entry ∈ entries, ∀ ixs,
      entry.event.dryRun = some ixs → Unbudgeted ixs) :
    Trace (Step minimumBalance) start
      (entries.filter fun entry => entry.event.dryRun.isNone) finish := by
  induction run with
  | nil =>
      exact .nil
  | @cons before after final event rest first later
      inductionHypothesis =>
      have onwards :=
        inductionHypothesis (first.sameRules.onlyBundled only)
          fun entry member =>
            unbudgeted entry (List.mem_cons_of_mem _ member)
      cases dry : event.dryRun with
      | none =>
          have kept : event.dryRun.isNone = true := by
            rw [dry]
            rfl
          rw [List.filter_cons, if_pos kept]
          exact .cons first onwards
      | some ixs =>
          have quiet := unbudgeted _ List.mem_cons_self ixs dry
          have idle := first.dry only dry quiet
          have dropped : ¬ event.dryRun.isNone = true := by
            rw [dry]
            exact Bool.false_ne_true
          rw [List.filter_cons, if_neg dropped, ← idle]
          exact onwards

theorem dry_runs_erased_transfer :
    ∃ dry result finish,
      result.outcome.error = none ∧
        Trace (Step fun _ _ => 0) (HopperSvm.new Creation.idleCrates)
          ((transferScript dry result finish).filter fun entry =>
            entry.event.dryRun.isNone)
          finish := by
  obtain ⟨dry, result, finish, success, run⟩ := transferScript_runs
  refine ⟨dry, result, finish, success, ?_⟩
  apply dry_runs_erased run (new_guarded _).bundled
  intro entry member ixs isDry
  rcases member with _ | ⟨_, _ | ⟨_, _ | ⟨_, _ | ⟨_, nothing⟩⟩⟩⟩
  · cases isDry
  · cases isDry
  · cases isDry
    exact transferVerb_unbudgeted
  · cases isDry
  · cases nothing

/-! ## What is on file -/

/-- Some instruction of the verb has the address as its program or in a
meta. -/
def Names (verb : Verb) (address : Pubkey) : Prop :=
  ∃ ix ∈ verb.request.instructions,
    address = ix.programId ∨ address ∈ ix.accounts.map AccountMeta.pubkey

/-- Whether the address is on file behind the event. -/
def Event.files (address : Pubkey) (held : Prop) : Event → Prop
  | .setAccount account => account.address = address ∨ held
  | .removeAccount other _ => other ≠ address ∧ held
  | .clearAccounts => False
  | .restoreAccounts snapshot => (snapshot.get address).isSome
  | .airdrop other _ => other = address ∨ held
  | .createAccount other _ _ => other = address ∨ held
  | .commit result =>
      address ∈ addresses result.outcome.resultingAccounts ∨ held
  | .process verb result =>
      (result.outcome.error = none ∧ Names verb address) ∨ held
  | _ => held

variable {address : Pubkey}

theorem mem_listed {verb : Verb} :
    address ∈ verb.listed ↔ Names verb address := by
  have inChain (seen : List Pubkey) (ixs : List Instruction) :
      address ∈ ixs.foldl pushInstruction seen ↔
        address ∈ seen ∨
          ∃ ix ∈ ixs, address = ix.programId ∨
            address ∈ ix.accounts.map AccountMeta.pubkey := by
    induction ixs generalizing seen with
    | nil =>
        simp
    | cons ix rest inductionHypothesis =>
        rw [List.foldl_cons, inductionHypothesis, mem_pushInstruction,
          List.exists_mem_cons_iff, or_assoc]
  cases verb with
  | instruction ix =>
      exact (inChain [] [ix]).trans (or_iff_right List.not_mem_nil)
  | chain ixs =>
      exact (inChain [] ixs).trans (or_iff_right List.not_mem_nil)

/-- A written account is on file, and what was on file stays. -/
theorem isSome_get_put (store : AccountStore) (other : Pubkey)
    (account : KeyedAccount) :
    ((store.put other account).get address).isSome ↔
      other = address ∨ (store.get address).isSome := by
  rw [AccountStore.get_put]
  by_cases same : other = address
  · rw [if_pos same]
    exact iff_of_true rfl (Or.inl same)
  · rw [if_neg same]
    exact (or_iff_right same).symm

/-- An account that is on file written again. -/
theorem isSome_get_replace {store : AccountStore} {other : Pubkey}
    {account replaced : KeyedAccount}
    (found : store.get other = some account) :
    ((store.put other replaced).get address).isSome ↔
      (store.get address).isSome := by
  refine (isSome_get_put store other replaced).trans ?_
  refine or_iff_right_of_imp ?_
  intro same
  rw [← same, found]
  rfl

theorem isSome_get_insertAll (store : AccountStore)
    (accounts : List KeyedAccount) :
    ((store.insertAll accounts).get address).isSome ↔
      address ∈ addresses accounts ∨ (store.get address).isSome := by
  induction accounts generalizing store with
  | nil =>
      exact (or_iff_right List.not_mem_nil).symm
  | cons account rest inductionHypothesis =>
      have step :
          store.insertAll (account :: rest) =
            (store.insert account).insertAll rest :=
        rfl
      have keys :
          addresses (account :: rest) =
            account.address :: addresses rest :=
        rfl
      rw [step, inductionHypothesis, AccountStore.insert, isSome_get_put, keys,
        List.mem_cons, or_left_comm, ← or_assoc, eq_comm]

theorem Step.files_iff (runs : before.RunsBundled)
    (filed : before.accountStore.Filed)
    (step : Step minimumBalance before event after) :
    (after.getAccount address).isSome ↔
      event.files address (before.getAccount address).isSome := by
  cases event with
  | setAccount account =>
      subst step
      exact isSome_get_put _ _ _
  | getAccount other found =>
      rw [step.2]
      rfl
  | removeAccount other removed =>
      cases step
      rw [getAccount, AccountStore.get_remove]
      by_cases same : address = other
      · rw [if_pos same]
        exact iff_of_false Bool.false_ne_true fun held => held.1 same.symm
      · rw [if_neg same]
        exact (and_iff_right (Ne.symm same)).symm
  | clearAccounts =>
      subst step
      exact iff_of_false Bool.false_ne_true id
  | restoreAccounts snapshot =>
      subst step
      rfl
  | airdrop other lamports =>
      subst step
      simp only [airdrop]
      split
      · exact isSome_get_put _ _ _
      · exact isSome_get_put _ _ _
  | createAccount other space owner =>
      subst step
      exact isSome_get_put _ _ _
  | setTokenBalance other amount =>
      obtain ⟨account, found, _, rfl⟩ := forceWord_eq_some.mp step
      exact isSome_get_replace found
  | setMintSupply other supply =>
      obtain ⟨account, found, _, rfl⟩ := forceWord_eq_some.mp step
      exact isSome_get_replace found
  | commit result =>
      subst step
      exact isSome_get_insertAll _ _
  | process verb result =>
      rw [(Verb.process_left step).2]
      change
        ((if result.outcome.error = none then _ else _ :
          AccountStore).get address).isSome ↔ _
      by_cases success : result.outcome.error = none
      · rw [if_pos success, isSome_get_insertAll,
          Verb.addresses_process runs filed step, mem_listed]
        exact or_congr_left (and_iff_right success).symm
      · rw [if_neg success]
        exact (or_iff_right fun files => success files.1).symm
  | simulate verb result =>
      rw [(simulate_svm step).1]
      rfl
  | request request accounts result =>
      rw [Verb.request_svm step]
      rfl
  | configure =>
      obtain ⟨_, _, _, _, same⟩ := step
      rw [getAccount, same]
      rfl

/-- The last events that file or drop an address decide whether it is on
file at the end of a script: fixtures, and every success of a verb that
names it, even where nothing was written. -/
theorem on_file_iff {start finish : HopperSvm}
    {entries : List (Entry HopperSvm Event)}
    (run : Trace (Step minimumBalance) start entries finish)
    (runs : start.RunsBundled) (filed : start.accountStore.Filed)
    (restores : ∀ entry ∈ entries, entry.event.RestoresFiled) :
    (finish.getAccount address).isSome ↔
      entries.foldl (fun held entry => entry.event.files address held)
        ((start.getAccount address).isSome : Prop) := by
  induction run with
  | nil =>
      rfl
  | @cons before after final event rest first later
      inductionHypothesis =>
      have now :
          ((after.getAccount address).isSome : Prop) =
            event.files address (before.getAccount address).isSome :=
        propext (first.files_iff runs filed)
      have filed' :=
        first.filed filed (restores _ List.mem_cons_self)
      have restores' : ∀ entry ∈ rest, entry.event.RestoresFiled :=
        fun entry member =>
          restores entry (List.mem_cons_of_mem _ member)
      rw [inductionHypothesis (first.sameRules.runsBundled runs) filed'
        restores', List.foldl_cons, now]

theorem transferScript_restoresFiled (dry result : HopperExecutionResult)
    (finish : HopperSvm) :
    ∀ entry ∈ transferScript dry result finish,
      entry.event.RestoresFiled := by
  intro entry member
  rcases member with _ | ⟨_, _ | ⟨_, _ | ⟨_, _ | ⟨_, nothing⟩⟩⟩⟩
  · trivial
  · trivial
  · trivial
  · trivial
  · cases nothing

/-- The transfer leaves the system program on file. -/
theorem on_file_iff_transfer :
    ∃ dry result finish,
      result.outcome.error = none ∧
        ((finish.getAccount systemProgramId).isSome ↔
          (transferScript dry result finish).foldl
            (fun held entry => entry.event.files systemProgramId held)
            (((HopperSvm.new Creation.idleCrates).getAccount
              systemProgramId).isSome : Prop)) := by
  obtain ⟨dry, result, finish, success, run⟩ := transferScript_runs
  exact
    ⟨dry, result, finish, success,
      on_file_iff run (runsBundled_new _) AccountStore.filed_empty
        (transferScript_restoresFiled dry result finish)⟩

end Script

end Hopper
