import HopperSvm.Clones
import HopperSvm.Dispatch

/-!
The ownership barrier around every account, the isolation of the accounts
that an instruction does not name, and the lamport total of a successful
instruction, which grows by exactly the lamports of created accounts.
-/

namespace Hopper

open BuiltinEngine

variable {svm svm' : HopperSvm} {program : BuiltinProgram}
  {ix : Instruction} {accounts : List KeyedAccount}
  {result : HopperExecutionResult}

/-- What an instruction may do to the account `p`, leaving `n`. -/
structure Guarded (ix : Instruction) (p n : KeyedAccount) : Prop where
  readOnly :
    (∀ accountMeta,
      ix.accounts.find? (fun other => other.pubkey = p.address) =
          some accountMeta →
        accountMeta.isWritable = false) →
      n.lamports = p.lamports ∧ n.data = p.data ∧ n.owner = p.owner ∧
        n.executable = p.executable
  executable : n.executable = p.executable
  debit : p.owner ≠ ix.programId → p.lamports ≤ n.lamports
  write : p.owner ≠ ix.programId → ¬ Fresh p →
    n.data = p.data ∧ n.owner = p.owner

theorem Guarded.of_unchanged (account : KeyedAccount) :
    Guarded ix account account where
  readOnly _ := ⟨rfl, rfl, rfl, rfl⟩
  executable := rfl
  debit _ := UInt64.le_refl _
  write _ _ := ⟨rfl, rfl⟩

/-- The rules of the first meta at an address guard its account. -/
theorem Guarded.of_permitted {accountMeta : AccountMeta}
    {p n : KeyedAccount}
    (first : ix.accounts.find? (fun other => other.pubkey = p.address) =
      some accountMeta)
    (permitted : Permitted ix.programId accountMeta.isWritable p n) :
    Guarded ix p n where
  readOnly := by
    intro readOnly
    obtain ⟨lamports, data, owner⟩ :=
      permitted.readOnly (readOnly accountMeta first)
    exact ⟨lamports, data, owner, permitted.executable⟩
  executable := permitted.executable
  debit := by
    intro foreign
    rw [← UInt64.not_lt]
    exact fun below => foreign (permitted.debit below)
  write := by
    intro foreign notFresh
    constructor
    · by_contra changed
      rcases permitted.write changed with owned | fresh
      · exact foreign owned
      · exact notFresh fresh
    · by_contra changed
      rcases permitted.reassign changed with owned | ⟨fresh, _⟩
      · exact foreign owned
      · exact notFresh fresh

/-- Every account is still there and guarded. -/
theorem guarded_of_accepts {pre post : List KeyedAccount}
    (rewrites : Rewrites ix.accounts pre post)
    (accepts : Accepts ix.programId ix.accounts (ledgerOf pre)
      (ledgerOf post))
    {p : KeyedAccount} (member : p ∈ pre) :
    ∃ n, findAccount p.address post = some n ∧ Guarded ix p n := by
  have before : ledgerOf pre p.address = some p :=
    KeyedList.lookup_of_mem KeyedAccount.address rewrites.distinct member
  by_cases named : p.address ∈ ix.accounts.map AccountMeta.pubkey
  · rcases rewrites.present_iff p.address with
      ⟨_, n, _, after⟩ | ⟨absent, _⟩
    · refine ⟨n, after, ?_⟩
      have inInvolved := mem_pubkeys_involved.mpr named
      rcases List.mem_map.mp inInvolved with
        ⟨accountMeta, involvedMeta, sameAddress⟩
      have first := mem_involved.mp involvedMeta
      rw [sameAddress] at first
      apply Guarded.of_permitted first
      apply accepts.rules accountMeta involvedMeta p n
      · rw [sameAddress, before]
      · rw [sameAddress, after]
    · rw [before] at absent
      cases absent
  · have after : findAccount p.address post = some p :=
      (rewrites.frame p.address named).trans before
    exact ⟨p, after, Guarded.of_unchanged p⟩

theorem processInstruction_strict_guarded
    (registered : svm.Registered ix.programId program)
    (keeps : program.KeepsAddresses)
    (strict : svm.validationPolicy = .strict)
    (distinct : (addresses accounts).Nodup)
    (ran : svm.processInstruction ix accounts = some (result, svm'))
    (success : result.outcome.error = none) :
    ∀ p ∈ accounts, ∃ n,
      findAccount p.address result.outcome.resultingAccounts = some n ∧
        Guarded ix p n := by
  intro p member
  obtain ⟨received, state, succeeds, outcome, _⟩ :=
    HopperSvm.processInstruction_succeeded registered ran success
  rw [outcome]
  exact
    guarded_of_accepts (succeeds.reached.rewrites keeps distinct)
      (succeeds.accepts keeps distinct strict) member

/-- A default harness with `addByte 0xAB` registered. -/
def appendingSvm : HopperSvm :=
  (HopperSvm.ofRegistry fun _ => none).withBuiltin (.filled 9)
    (addByte 0xAB)

theorem appendingSvm_registered :
    appendingSvm.Registered (.filled 9) (addByte 0xAB) :=
  ⟨rfl, rfl⟩

/-- Move three lamports from slot 0 to slot 1 and create slot 2. -/
def settle : BuiltinProgram :=
  .ofHandler "Settle" (fun _ => 10)
    (fun _ => do
      Handler.writeSlot 0 fun account =>
        { account with lamports := account.lamports - 3 }
      Handler.writeSlot 1 fun account =>
        { account with lamports := account.lamports + 3 }
      Handler.writeSlot 2 fun account =>
        { account with lamports := 5, data := [1] })
    (fun _ =>
      Procedure.Keeps.bind
        (Handler.writeSlot_sameAddresses 0 fun _ => rfl) fun _ =>
        Procedure.Keeps.bind
          (Handler.writeSlot_sameAddresses 1 fun _ => rfl) fun _ =>
          Handler.writeSlot_sameAddresses 2 fun _ => rfl)

def settleSvm : HopperSvm :=
  (HopperSvm.ofRegistry fun _ => none).withBuiltin (.filled 9) settle

theorem settle_keepsAddresses : settle.KeepsAddresses :=
  BuiltinProgram.keepsAddresses_ofHandler _

theorem settleSvm_registered :
    settleSvm.Registered (.filled 9) settle :=
  ⟨rfl, rfl⟩

/-- Two writable accounts, one to create and one that is read. -/
def settleIx : Instruction :=
  { programId := .filled 9
    accounts :=
      [⟨.filled 1, false, true⟩, ⟨.filled 2, false, true⟩,
        ⟨.filled 3, true, true⟩, ⟨.filled 4, false, false⟩]
    data := [] }

/-- The accounts of `settleIx`, and one it does not name. -/
def settleAccounts : List KeyedAccount :=
  [clonedAccount,
    .new (.filled 2) 10 (.filled 7) [2] false,
    .new (.filled 3) 0 systemProgramId [] false,
    .new (.filled 4) 70 (.filled 7) [4] false,
    .new (.filled 5) 500 (.filled 6) [5] false]

/-- What the program leaves of the four slots. -/
def settledState : InvokeState :=
  { accounts :=
      [{ clonedAccount with lamports := 997 },
        .new (.filled 2) 13 (.filled 7) [2] false,
        .new (.filled 3) 5 systemProgramId [1] false,
        .new (.filled 4) 70 (.filled 7) [4] false]
    logs := LogCapture.empty.invoke (.filled 9)
    budget := { ComputeBudget.default with consumed := 10 }
    cells := ⟨none, 0⟩ }

theorem settleSvm_succeeds :
    settleSvm.Succeeds settle settleIx settleAccounts .empty
      (settleAccounts.take 4) settledState where
  reached := ⟨rfl, rfl, rfl⟩
  validated := rfl

theorem processInstruction_strict_guarded_settle :
    settleAccounts.Forall fun p => ∃ n,
      findAccount p.address
          (mergeAccounts settleAccounts settledState.accounts) =
        some n ∧
        Guarded settleIx p n := by
  have ran := settleSvm_succeeds.processInstruction_eq
    settleSvm_registered
  rw [List.forall_iff_forall_mem]
  exact
    processInstruction_strict_guarded settleSvm_registered
      settle_keepsAddresses rfl (by decide) ran rfl

/-! ## Accounts the instruction does not name -/

/-- The addresses stay in their order, and every account the instruction
does not name is as it was. -/
structure Isolates (ix : Instruction) (before after : List KeyedAccount) :
    Prop where
  addresses : addresses after = addresses before
  unnamed : ∀ address, address ∉ ix.accounts.map AccountMeta.pubkey →
    findAccount address after = findAccount address before

/-- Merging slots isolates the accounts no meta names exactly when the last
slot at such an address is the account listed there. -/
theorem mergeAccounts_isolates_iff {received slots : List KeyedAccount}
    (resolved : resolveAccounts accounts ix.accounts = .ok received) :
    Isolates ix accounts (mergeAccounts accounts slots) ↔
      ∀ address, address ∉ ix.accounts.map AccountMeta.pubkey →
        ∀ slot, findAccount address slots.reverse = some slot →
          findAccount address accounts = some slot := by
  constructor
  · intro isolates address unnamed slot last
    have kept := isolates.unnamed address unnamed
    rw [findAccount_mergeAccounts, last, Option.some_or] at kept
    exact kept.symm
  · intro held
    refine ⟨?_, ?_⟩
    · apply KeyedList.keys_upsertAll_of_subset
      intro slot member
      by_cases named : slot.address ∈ ix.accounts.map AccountMeta.pubkey
      · obtain ⟨accountMeta, inMetas, same⟩ := List.mem_map.mp named
        rw [← same]
        exact mem_addresses_of_resolved resolved inMetas
      · have listed :
            slot.address ∈ slots.reverse.map KeyedAccount.address :=
          List.mem_map_of_mem (List.mem_reverse.mpr member)
        obtain ⟨last, found⟩ :=
          KeyedList.exists_lookup_of_mem KeyedAccount.address listed
        exact
          KeyedList.mem_keys_of_lookup KeyedAccount.address
            (held slot.address named last found)
    · intro address unnamed
      rw [findAccount_mergeAccounts]
      cases last : findAccount address slots.reverse with
      | none =>
          rw [Option.none_or]
      | some slot =>
          rw [Option.some_or, held address unnamed slot last]

/-- A successful instruction isolates the accounts it does not name exactly
when the last slot its program leaves at such an address is the account
listed there, as where the program leaves the address fields alone. -/
theorem processInstruction_isolates_iff
    (registered : svm.Registered ix.programId program)
    (ran : svm.processInstruction ix accounts = some (result, svm'))
    (success : result.outcome.error = none) :
    ∃ received state,
      svm.Succeeds program ix accounts .empty received state ∧
        (Isolates ix accounts result.outcome.resultingAccounts ↔
          ∀ address, address ∉ ix.accounts.map AccountMeta.pubkey →
            ∀ slot,
              findAccount address state.accounts.reverse = some slot →
                findAccount address accounts = some slot) ∧
        (program.KeepsAddresses →
          Isolates ix accounts result.outcome.resultingAccounts) := by
  obtain ⟨received, state, succeeds, outcome, _⟩ :=
    HopperSvm.processInstruction_succeeded registered ran success
  rw [outcome]
  have exactly :
      Isolates ix accounts (mergeAccounts accounts state.accounts) ↔ _ :=
    mergeAccounts_isolates_iff succeeds.reached.resolved
  refine ⟨received, state, succeeds, exactly, ?_⟩
  intro keeps
  refine exactly.mpr ?_
  intro address unnamed slot last
  have listed :=
    KeyedList.mem_keys_of_lookup KeyedAccount.address last
  rw [List.map_reverse, List.mem_reverse] at listed
  have slots := succeeds.reached.addresses_slots keeps
  exact absurd (slots ▸ listed) unnamed

theorem processInstruction_isolates_iff_settle :
    ∃ received state,
      settleSvm.Succeeds settle settleIx settleAccounts .empty received
          state ∧
        (Isolates settleIx settleAccounts
            (mergeAccounts settleAccounts settledState.accounts) ↔
          ∀ address, address ∉ settleIx.accounts.map AccountMeta.pubkey →
            ∀ slot,
              findAccount address state.accounts.reverse = some slot →
                findAccount address settleAccounts = some slot) ∧
        (settle.KeepsAddresses →
          Isolates settleIx settleAccounts
            (mergeAccounts settleAccounts settledState.accounts)) := by
  have ran := settleSvm_succeeds.processInstruction_eq
    settleSvm_registered
  exact processInstruction_isolates_iff settleSvm_registered ran rfl

/-- Relabel slot 0 as an emptied account at `victim`. -/
def relabel (victim : Pubkey) : BuiltinProgram where
  name := "Relabel"
  cost := fun _ => 10
  invoke := fun _ =>
    Handler.writeSlot 0 fun _ =>
      .new victim 0 systemProgramId [] false
  invoke_length := fun _ => Handler.writeSlot_sameLength 0 _

def relabelSvm : HopperSvm :=
  (HopperSvm.ofRegistry fun _ => none).withBuiltin (.filled 9)
    (relabel (.filled 2))

/-- An account owned by a program other than the one that runs. -/
def victimAccount : KeyedAccount :=
  .new (.filled 2) 500 (.filled 7) [1] false

def relabelledState : InvokeState :=
  { accounts := [.new (.filled 2) 0 systemProgramId [] false]
    logs := LogCapture.empty.invoke (.filled 9)
    budget := { ComputeBudget.default with consumed := 10 }
    cells := ⟨none, 0⟩ }

/-- Under Strict a program that relabels its slot overwrites an account the
instruction does not name. -/
theorem relabelled_slot_overwrites_unnamed :
    ∃ result svm',
      relabelSvm.Registered (clonedIx 1).programId
          (relabel (.filled 2)) ∧
        relabelSvm.validationPolicy = .strict ∧
        (addresses [clonedAccount, victimAccount]).Nodup ∧
        relabelSvm.processInstruction (clonedIx 1)
            [clonedAccount, victimAccount] = some (result, svm') ∧
        result.outcome.error = none ∧
        victimAccount.address ∉
          (clonedIx 1).accounts.map AccountMeta.pubkey ∧
        findAccount victimAccount.address
            result.outcome.resultingAccounts ≠
          findAccount victimAccount.address
            [clonedAccount, victimAccount] := by
  have registered :
      relabelSvm.Registered (.filled 9) (relabel (.filled 2)) :=
    ⟨rfl, rfl⟩
  have succeeds :
      relabelSvm.Succeeds (relabel (.filled 2)) (clonedIx 1)
        [clonedAccount, victimAccount] .empty [clonedAccount]
        relabelledState :=
    { reached := ⟨rfl, rfl, rfl⟩
      validated := rfl }
  exact
    ⟨_, _, registered, rfl, by decide,
      succeeds.processInstruction_eq registered, rfl, by decide,
      by decide⟩

/-- An accepted rewrite adds exactly the lamports of created accounts. -/
theorem totalLamports_of_accepts {metas : List AccountMeta}
    {programId : Pubkey} {pre post : List KeyedAccount}
    (rewrites : Rewrites metas pre post)
    (accepts : Accepts programId metas (ledgerOf pre) (ledgerOf post)) :
    totalLamports post = totalLamports pre + createdLamports pre post := by
  have moved := rewrites.totalLamports_add
  have balanced := accepts.balanced
  rw [← rewrites.createdLamports_eq] at balanced
  omega

theorem processInstruction_totalLamports
    (registered : svm.Registered ix.programId program)
    (keeps : program.KeepsAddresses)
    (strict : svm.validationPolicy = .strict)
    (distinct : (addresses accounts).Nodup)
    (ran : svm.processInstruction ix accounts = some (result, svm'))
    (success : result.outcome.error = none) :
    totalLamports result.outcome.resultingAccounts =
      totalLamports accounts +
        createdLamports accounts result.outcome.resultingAccounts := by
  obtain ⟨received, state, succeeds, outcome, _⟩ :=
    HopperSvm.processInstruction_succeeded registered ran success
  rw [outcome]
  exact
    totalLamports_of_accepts (succeeds.reached.rewrites keeps distinct)
      (succeeds.accepts keeps distinct strict)

theorem processInstruction_totalLamports_settle :
    totalLamports (mergeAccounts settleAccounts settledState.accounts) =
      totalLamports settleAccounts +
        createdLamports settleAccounts
          (mergeAccounts settleAccounts settledState.accounts) := by
  have ran := settleSvm_succeeds.processInstruction_eq
    settleSvm_registered
  exact
    processInstruction_totalLamports settleSvm_registered
      settle_keepsAddresses rfl (by decide) ran rfl

/-- Give slot 0 one byte of data and 1000 lamports. -/
def conjure : BuiltinProgram :=
  .ofHandler "Conjure" (fun _ => 10)
    (fun _ =>
      Handler.writeSlot 0 fun account =>
        { account with lamports := 1000, data := [1] })
    (fun _ => Handler.writeSlot_sameAddresses 0 fun _ => rfl)

def conjureSvm : HopperSvm :=
  (HopperSvm.ofRegistry fun _ => none).withBuiltin (.filled 9) conjure

def freshAccount : KeyedAccount :=
  .new (.filled 1) 0 systemProgramId [] false

def conjuredState : InvokeState :=
  { accounts := [{ freshAccount with lamports := 1000, data := [1] }]
    logs := LogCapture.empty.invoke (.filled 9)
    budget := { ComputeBudget.default with consumed := 10 }
    cells := ⟨none, 0⟩ }

/-- Under Strict any program mints lamports into an account it creates. -/
theorem created_account_mints_lamports :
    ∃ result svm',
      conjureSvm.Registered (clonedIx 1).programId conjure ∧
        conjure.KeepsAddresses ∧
        conjureSvm.validationPolicy = .strict ∧
        (addresses [freshAccount]).Nodup ∧
        conjureSvm.processInstruction (clonedIx 1) [freshAccount] =
          some (result, svm') ∧
        result.outcome.error = none ∧
        totalLamports result.outcome.resultingAccounts ≠
          totalLamports [freshAccount] := by
  have registered : conjureSvm.Registered (.filled 9) conjure :=
    ⟨rfl, rfl⟩
  have keeps : conjure.KeepsAddresses :=
    BuiltinProgram.keepsAddresses_ofHandler _
  have succeeds :
      conjureSvm.Succeeds conjure (clonedIx 1) [freshAccount] .empty
        [freshAccount] conjuredState :=
    { reached := ⟨rfl, rfl, rfl⟩
      validated := rfl }
  exact
    ⟨_, _, registered, keeps, rfl, by decide,
      succeeds.processInstruction_eq registered, rfl, by decide⟩

end Hopper
