import HopperSvm.BundledHarness
import HopperSvm.LamportFlow

/-!
A test holds a harness and a list of accounts, has instructions, chains and
transactions processed on the list, takes the resulting accounts as its new
list, and may change any setting of the harness in between.  Whatever it
asks for, its list changes by fees and by instructions that strict
validation accepted from bundled programs, one behind the other.
-/

namespace Hopper

open HopperSvm Labelled

/-- The programs of a harness. -/
abbrev Registry : Type :=
  Pubkey → Option BuiltinProgram

/-- A strict harness with these programs took the instruction from one list
to another. -/
inductive Accepted (registry : Registry) (ix : Instruction)
    (accounts : List KeyedAccount) : List KeyedAccount → Prop
  | by {svm : HopperSvm} {program : BuiltinProgram} {logs : LogCapture}
      {received : List KeyedAccount} {state : InvokeState}
      (found : registry ix.programId = some program)
      (bundled : BundledAt ix.programId program)
      (strict : svm.validationPolicy = .strict)
      (succeeds :
        svm.Succeeds program ix accounts logs received state) :
      Accepted registry ix accounts
        (mergeAccounts accounts state.accounts)

/-- Some of the instructions were accepted, from the first one on. -/
inductive Applies (registry : Registry) : List Instruction →
    List KeyedAccount → List KeyedAccount → Prop
  | stop {ixs : List Instruction} {accounts : List KeyedAccount} :
      Applies registry ixs accounts accounts
  | next {ix : Instruction} {rest : List Instruction}
      {accounts middle after : List KeyedAccount}
      (accepted : Accepted registry ix accounts middle)
      (later : Applies registry rest middle after) :
      Applies registry (ix :: rest) accounts after

variable {registry : Registry} {ix : Instruction}
  {ixs : List Instruction} {accounts after : List KeyedAccount}

theorem Accepted.addresses_eq
    (accepted : Accepted registry ix accounts after) :
    addresses after = addresses accounts := by
  cases accepted with
  | «by» found bundled strict succeeds =>
      exact
        addresses_mergeAccounts succeeds.reached.resolved
          (succeeds.reached.addresses_eq bundled.keepsAddresses)

/-- What a validated rewrite of the ledger satisfies. -/
theorem Accepted.permitted
    (accepted : Accepted registry ix accounts after)
    (distinct : (addresses accounts).Nodup) :
    Rewrites ix.accounts accounts after ∧
      Accepts ix.programId ix.accounts (ledgerOf accounts)
        (ledgerOf after) := by
  cases accepted with
  | «by» found bundled strict succeeds =>
      exact
        ⟨succeeds.reached.rewrites bundled.keepsAddresses distinct,
          succeeds.accepts bundled.keepsAddresses distinct strict⟩

/-- No account of the list is dropped. -/
theorem Accepted.exists_account {address : Pubkey} {p : KeyedAccount}
    (accepted : Accepted registry ix accounts after)
    (before : findAccount address accounts = some p) :
    ∃ n, findAccount address after = some n := by
  have listed : address ∈ addresses after := by
    rw [accepted.addresses_eq]
    exact KeyedList.mem_keys_of_lookup KeyedAccount.address before
  exact KeyedList.exists_lookup_of_mem KeyedAccount.address listed

/-- The ownership rules bind every account, named or not. -/
theorem Accepted.permits {address : Pubkey} {p n : KeyedAccount}
    (accepted : Accepted registry ix accounts after)
    (distinct : (addresses accounts).Nodup)
    (before : findAccount address accounts = some p)
    (left : findAccount address after = some n) :
    ∃ isWritable, Permitted ix.programId isWritable p n := by
  obtain ⟨rewrites, accepts⟩ := accepted.permitted distinct
  by_cases named : address ∈ ix.accounts.map AccountMeta.pubkey
  · have inInvolved := mem_pubkeys_involved.mpr named
    obtain ⟨accountMeta, member, rfl⟩ := List.mem_map.mp inInvolved
    exact ⟨_, accepts.rules accountMeta member p n before left⟩
  · have same := rewrites.frame address named
    rw [left, before] at same
    cases same
    exact ⟨true, .of_unchanged p⟩

theorem Applies.addresses_eq
    (applies : Applies registry ixs accounts after) :
    addresses after = addresses accounts := by
  induction applies with
  | stop =>
      rfl
  | next accepted later inductionHypothesis =>
      exact inductionHypothesis.trans accepted.addresses_eq

/-- What every accepted instruction keeps holds of the list they leave. -/
theorem Applies.invariant (holds : List KeyedAccount → Prop)
    (applies : Applies registry ixs accounts after)
    (distinct : (addresses accounts).Nodup)
    (keeps : ∀ ix ∈ ixs, ∀ before after, (addresses before).Nodup →
      Accepted registry ix before after → holds before → holds after)
    (initial : holds accounts) : holds after := by
  induction applies with
  | stop =>
      exact initial
  | @next ix rest accounts middle after accepted later
      inductionHypothesis =>
      have first : holds middle :=
        keeps ix List.mem_cons_self _ _ distinct accepted initial
      have distinct' : (addresses middle).Nodup :=
        accepted.addresses_eq ▸ distinct
      refine inductionHypothesis distinct' ?_ first
      intro ix member
      exact keeps ix (List.mem_cons_of_mem _ member)

/-- Nothing but the lamports has changed, and they have not gone down. -/
structure Isolated (p n : KeyedAccount) : Prop where
  owner : n.owner = p.owner
  data : n.data = p.data
  executable : n.executable = p.executable
  lamports : p.lamports ≤ n.lamports

theorem Isolated.refl (p : KeyedAccount) : Isolated p p :=
  ⟨rfl, rfl, rfl, UInt64.le_refl _⟩

theorem Isolated.trans {p m n : KeyedAccount} (first : Isolated p m)
    (second : Isolated m n) : Isolated p n where
  owner := second.owner.trans first.owner
  data := second.data.trans first.data
  executable := second.executable.trans first.executable
  lamports := UInt64.le_trans first.lamports second.lamports

/-- Only the owner of an account that is in use may do more. -/
theorem Permitted.isolated {programId : Pubkey} {isWritable : Bool}
    {p n : KeyedAccount} (permitted : Permitted programId isWritable p n)
    (foreign : p.owner ≠ programId) (inUse : ¬ Fresh p) :
    Isolated p n := by
  refine ⟨?_, ?_, permitted.executable, ?_⟩
  · by_contra different
    rcases permitted.reassign different with own | created
    · exact foreign own
    · exact inUse created.1
  · by_contra different
    rcases permitted.write different with own | fresh
    · exact foreign own
    · exact inUse fresh
  · by_contra below
    exact foreign (permitted.debit (UInt64.not_le.mp below))

theorem Accepted.isolated {address : Pubkey} {p n : KeyedAccount}
    (accepted : Accepted registry ix accounts after)
    (distinct : (addresses accounts).Nodup)
    (before : findAccount address accounts = some p)
    (left : findAccount address after = some n)
    (foreign : p.owner ≠ ix.programId) (inUse : ¬ Fresh p) :
    Isolated p n := by
  obtain ⟨isWritable, permitted⟩ := accepted.permits distinct before left
  exact permitted.isolated foreign inUse

namespace HopperSvm

variable {svm svm' : HopperSvm} {logs : LogCapture}
  {result : HopperExecutionResult}

/-- A harness that runs bundled programs under strict validation. -/
structure Guarded (svm : HopperSvm) : Prop extends svm.RunsBundled where
  strict : svm.validationPolicy = .strict

theorem Guarded.withCells (guarded : svm.Guarded) (cells : HarnessCells) :
    (svm.withCells cells).Guarded :=
  { guarded.toRunsBundled.withCells cells with strict := guarded.strict }

/-- The other settings do not matter. -/
theorem Guarded.congr (guarded : svm.Guarded)
    (registry : svm'.registry = svm.registry)
    (agave : svm'.agaveEngine = svm.agaveEngine)
    (bpf : svm'.bpfEngine = svm.bpfEngine)
    (policy : svm'.validationPolicy = svm.validationPolicy) :
    svm'.Guarded :=
  { guarded.toRunsBundled.congr registry agave bpf with
    strict := policy.trans guarded.strict }

theorem Guarded.accepted (guarded : svm.Guarded) {dispatch : Dispatch}
    (ran : svm.dispatchOne ix accounts logs = some dispatch)
    (success : dispatch.outcome.error = none) :
    Accepted svm.registry ix accounts
      dispatch.outcome.resultingAccounts := by
  obtain ⟨program, found, bundled, received, state, succeeds, reached⟩ :=
    guarded.ran_bundled ran success
  rw [reached]
  exact .by found bundled guarded.strict succeeds

/-- A dispatch applies its instruction or leaves the list. -/
theorem Guarded.applies_dispatch (guarded : svm.Guarded)
    {dispatch : Dispatch}
    (ran : svm.dispatchOne ix accounts logs = some dispatch) :
    Applies svm.registry [ix] accounts
      dispatch.outcome.resultingAccounts := by
  by_cases success : dispatch.outcome.error = none
  · exact .next (guarded.accepted ran success) .stop
  · rw [dispatchOne_failed_accounts ran success]
    exact .stop

/-- The loop applies the instructions up to the one that fails, and its
outcome hands out the list it left. -/
theorem Runs.applies {index : ℕ} {final : Option ExecutionOutcome}
    {ended : ChainEnd} (guarded : svm.Guarded)
    (distinct : (addresses accounts).Nodup)
    (upToDate : ∀ outcome, final = some outcome →
      outcome.resultingAccounts = accounts)
    (run : Runs svm index ixs accounts logs final ended) :
    Applies svm.registry ixs accounts ended.state ∧
      ended.outcome.resultingAccounts = ended.state ∧
      ended.svm = svm.withCells ended.svm.cells := by
  induction run with
  | @finished svm index accounts logs final =>
      refine ⟨.stop, ?_, rfl⟩
      cases held : final with
      | none =>
          rfl
      | some outcome =>
          exact upToDate outcome held
  | @failed svm index ix rest accounts logs final dispatch ran failure =>
      have unchanged := dispatchOne_failed_accounts ran failure
      have left :
          carryForward accounts dispatch.outcome.resultingAccounts =
            accounts := by
        rw [unchanged]
        exact carryForward_eq distinct rfl
      rw [left]
      exact ⟨.stop, unchanged, rfl⟩
  | @completed svm index ix rest accounts logs final dispatch ended ran
      success later inductionHypothesis =>
      have accepted := guarded.accepted ran success
      have same := accepted.addresses_eq
      rw [carryForward_eq distinct same] at inductionHypothesis
      obtain ⟨applies, handedOut, sameSvm⟩ :=
        inductionHypothesis (guarded.withCells _) (same ▸ distinct)
          fun outcome isLast => by
            cases isLast
            rfl
      exact ⟨.next accepted applies, handedOut, sameSvm⟩

/-- A transaction whose payer cannot cover the fee leaves the harness. -/
theorem processTransaction_svm {feePayer : Pubkey}
    (uncovered : ¬ svm.Covers ixs accounts feePayer)
    (ran : svm.processTransaction ixs accounts feePayer =
      some (result, svm')) : svm' = svm := by
  rw [processTransaction] at ran
  cases found : findAccount feePayer accounts with
  | none =>
      rw [found] at ran
      cases ran
      rfl
  | some payer =>
      have short : payer.lamports < svm.transactionFee ixs := by
        by_contra enough
        exact uncovered ⟨payer, found, enough⟩
      simp only [found, if_pos short] at ran
      cases ran
      rfl

end HopperSvm

/-! ## Requests -/

/-- What a test asks of the harness. -/
inductive Request where
  | instruction (ix : Instruction)
  | chain (ixs : List Instruction)
  | transaction (ixs : List Instruction) (feePayer : Pubkey)

namespace Request

def instructions : Request → List Instruction
  | .instruction ix => [ix]
  | .chain ixs => ixs
  | .transaction ixs _ => ixs

def process (svm : HopperSvm) (accounts : List KeyedAccount) :
    Request → Option (HopperExecutionResult × HopperSvm)
  | .instruction ix => svm.processInstruction ix accounts
  | .chain ixs => svm.processInstructionChain ixs accounts
  | .transaction ixs feePayer =>
      svm.processTransaction ixs accounts feePayer

/-- The list behind the fee, if there is one. -/
inductive Charged : Request → List KeyedAccount → UInt64 →
    List KeyedAccount → Prop
  | free {request : Request} {accounts : List KeyedAccount} :
      Charged request accounts 0 accounts
  | fee {ixs : List Instruction} {feePayer : Pubkey}
      {payer : KeyedAccount} {accounts : List KeyedAccount} {fee : UInt64}
      (found : findAccount feePayer accounts = some payer)
      (covered : fee ≤ payer.lamports) :
      Charged (.transaction ixs feePayer) accounts fee
        (debitPayer feePayer fee accounts)

end Request

theorem addresses_debitPayer (feePayer : Pubkey) (fee : UInt64)
    (accounts : List KeyedAccount) :
    addresses (debitPayer feePayer fee accounts) = addresses accounts := by
  induction accounts with
  | nil =>
      rfl
  | cons account rest inductionHypothesis =>
      rw [debitPayer]
      split
      · rfl
      · exact congrArg (account.address :: ·) inductionHypothesis

theorem Request.Charged.addresses_eq {request : Request} {fee : UInt64}
    (charged : Charged request accounts fee after) :
    addresses after = addresses accounts := by
  cases charged with
  | free =>
      rfl
  | fee found covered =>
      exact addresses_debitPayer _ _ _

/-- Who pays the fee of a request. -/
def Request.feePayer : Request → Option Pubkey
  | .instruction _ => none
  | .chain _ => none
  | .transaction _ feePayer => some feePayer

/-- The fee of another payer leaves the account. -/
theorem Request.Charged.frame {request : Request} {fee : UInt64}
    {accounts charged : List KeyedAccount} {address : Pubkey}
    (charges : request.Charged accounts fee charged)
    (other : request.feePayer ≠ some address) :
    findAccount address charged = findAccount address accounts := by
  cases charges with
  | free =>
      rfl
  | @fee ixs feePayer payer accounts fee found covered =>
      have apart : address ≠ feePayer := by
        intro same
        exact other (congrArg some same.symm)
      rw [findAccount_debitPayer, if_neg apart]

open Request in
/-- A request takes its fee and applies its instructions up to one that
fails. -/
theorem HopperSvm.Guarded.process {svm svm' : HopperSvm}
    (guarded : svm.Guarded) (distinct : (addresses accounts).Nodup)
    {request : Request} {result : HopperExecutionResult}
    (ran : request.process svm accounts = some (result, svm')) :
    (∃ charged,
        Charged request accounts result.transactionFeePaid charged ∧
          Applies svm.registry request.instructions charged
            result.outcome.resultingAccounts) ∧
      svm' = svm.withCells svm'.cells := by
  have upToDate (accounts : List KeyedAccount)
      (outcome : ExecutionOutcome) (started : none = some outcome) :
      outcome.resultingAccounts = accounts := by
    cases started
  cases request with
  | instruction ix =>
      obtain ⟨dispatch, dispatched, same⟩ := Option.map_eq_some_iff.mp ran
      cases same
      have applies := guarded.applies_dispatch dispatched
      exact ⟨⟨accounts, .free, applies⟩, rfl⟩
  | chain ixs =>
      obtain ⟨ended, looped, same⟩ := Option.map_eq_some_iff.mp ran
      cases same
      obtain ⟨applies, handedOut, sameSvm⟩ :=
        Runs.applies guarded distinct (upToDate accounts)
          (runs_of_runChain looped)
      exact ⟨⟨accounts, .free, handedOut ▸ applies⟩, sameSvm⟩
  | transaction ixs feePayer =>
      change svm.processTransaction ixs accounts feePayer = _ at ran
      by_cases covers : svm.Covers ixs accounts feePayer
      · rw [processTransaction_of_covers covers] at ran
        obtain ⟨ended, looped, same⟩ := Option.map_eq_some_iff.mp ran
        cases same
        obtain ⟨payer, found, enough⟩ := covers
        have distinct' :
            (addresses
              (debitPayer feePayer (svm.transactionFee ixs)
                accounts)).Nodup := by
          rwa [addresses_debitPayer]
        obtain ⟨applies, handedOut, sameSvm⟩ :=
          Runs.applies guarded distinct' (upToDate _)
            (runs_of_runChain looped)
        have charged :
            Charged (.transaction ixs feePayer) accounts
              (svm.transactionFee ixs)
              (debitPayer feePayer (svm.transactionFee ixs) accounts) :=
          .fee found (UInt64.not_lt.mp enough)
        exact ⟨⟨_, charged, handedOut ▸ applies⟩, sameSvm⟩
      · obtain ⟨unchanged, unpaid⟩ :=
          processTransaction_of_not_covers covers ran
        rw [unchanged, unpaid]
        rw [processTransaction_svm covers ran]
        exact ⟨⟨accounts, .free, .stop⟩, rfl⟩

structure Session where
  svm : HopperSvm
  accounts : List KeyedAccount

namespace Session

inductive Event where
  | process (request : Request) (result : HopperExecutionResult)
  | configure

/-- One step: a request, or a change of settings that leaves the programs
and the validation policy. -/
def Step (before : Session) (event : Event) (after : Session) : Prop :=
  match event with
  | .process request result =>
      request.process before.svm before.accounts =
          some (result, after.svm) ∧
        after.accounts = result.outcome.resultingAccounts
  | .configure =>
      after.svm.registry = before.svm.registry ∧
        after.svm.agaveEngine = before.svm.agaveEngine ∧
        after.svm.bpfEngine = before.svm.bpfEngine ∧
        after.svm.validationPolicy = before.svm.validationPolicy ∧
        after.accounts = before.accounts

/-- The harness is guarded and the list has an account an address. -/
structure Sound (session : Session) : Prop where
  guarded : session.svm.Guarded
  distinct : (addresses session.accounts).Nodup

variable {before after : Session} {event : Event}

/-- The list behind a step. -/
inductive Moves (registry : Registry) : Event → List KeyedAccount →
    List KeyedAccount → Prop
  | process {request : Request} {result : HopperExecutionResult}
      {accounts charged after : List KeyedAccount}
      (charges :
        request.Charged accounts result.transactionFeePaid charged)
      (applies :
        Applies registry request.instructions charged after) :
      Moves registry (.process request result) accounts after
  | configure {accounts : List KeyedAccount} :
      Moves registry .configure accounts accounts

theorem Step.moves (sound : before.Sound)
    (step : Step before event after) :
    Moves before.svm.registry event before.accounts after.accounts ∧
      after.svm.registry = before.svm.registry ∧ after.Sound := by
  rcases before with ⟨svm, accounts⟩
  rcases after with ⟨svm', accounts'⟩
  cases event with
  | process request result =>
      obtain ⟨ran, rfl⟩ := step
      obtain ⟨⟨charged, charges, applies⟩, sameSvm⟩ :=
        sound.guarded.process sound.distinct ran
      dsimp only at sameSvm
      have same := charges.addresses_eq
      have distinct : (addresses charged).Nodup := same ▸ sound.distinct
      have guarded : svm'.Guarded := by
        rw [sameSvm]
        exact sound.guarded.withCells _
      have sameRegistry : svm'.registry = svm.registry := by
        rw [sameSvm]
        rfl
      refine ⟨.process charges applies, sameRegistry, guarded, ?_⟩
      change (addresses result.outcome.resultingAccounts).Nodup
      rw [applies.addresses_eq]
      exact distinct
  | configure =>
      obtain ⟨registry, agave, bpf, policy, same⟩ := step
      dsimp only at registry agave bpf policy same
      subst same
      exact
        ⟨.configure, registry,
          sound.guarded.congr registry agave bpf policy, sound.distinct⟩

/-- What every allowed step keeps holds at the end of a session. -/
theorem invariant {start finish : Session}
    {entries : List (Entry Session Event)} {allowed : Event → Prop}
    (holds : List KeyedAccount → Prop)
    (run : Trace Step start entries finish) (sound : start.Sound)
    (each : ∀ entry ∈ entries, allowed entry.event)
    (keeps : ∀ event accounts after, allowed event →
      (addresses accounts).Nodup →
        Moves start.svm.registry event accounts after →
          holds accounts → holds after)
    (initial : holds start.accounts) : holds finish.accounts := by
  induction run with
  | nil =>
      exact initial
  | cons first later inductionHypothesis =>
      obtain ⟨moves, sameRegistry, sound'⟩ := Step.moves sound first
      have kept :=
        keeps _ _ _ (each _ List.mem_cons_self) sound.distinct moves
          initial
      rw [← sameRegistry] at keeps
      refine inductionHypothesis sound' ?_ keeps kept
      intro entry member
      exact each entry (List.mem_cons_of_mem _ member)

/-! A wallet pays three lamports and the fee. -/

open Simulator in
def payingSession : Session :=
  { svm := .new Creation.idleCrates
    accounts :=
      [walletOf senderAddress 20000, walletOf receiverAddress 7] }

open Simulator in
def payIx : Instruction :=
  { programId := systemProgramId
    accounts := transferContext.accountMetas
    data := Simulator.transferThree
    accounts_length := by decide }

def payingRequest : Request :=
  .transaction [payIx] Simulator.senderAddress

theorem payingSession_sound : payingSession.Sound where
  guarded :=
    { runsBundled_new Creation.idleCrates with
      strict := rfl }
  distinct := by decide

end Session

end Hopper
