import HopperSvm.Barrier
import HopperSvm.Library.Trace

/-!
The effect of a bundled program is stated slot by slot: a relation says what
a successful instruction may leave of the account in a slot.  From it comes
what a successful dispatch under Strict leaves of the account at an address,
in whatever slots the address stands: the last of them decides, and the
validator has accepted the change.
-/

namespace Hopper

open BuiltinEngine

/-- What becomes of a slot that held the first account. -/
abbrev SlotRelation : Type :=
  Nat → KeyedAccount → KeyedAccount → Prop

/-- Every slot is left as the relation says. -/
def SlotWise (changed : SlotRelation)
    (received left : List KeyedAccount) : Prop :=
  ∀ index p n, received[index]? = some p → left[index]? = some n →
    changed index p n

theorem SlotWise.refl {changed : SlotRelation}
    (same : ∀ index p, changed index p p)
    (received : List KeyedAccount) : SlotWise changed received received := by
  intro index p n before after
  cases before.symm.trans after
  exact same index p

/-- Assigning to a slot. -/
theorem SlotWise.set {changed : SlotRelation}
    {received left : List KeyedAccount} {index : Nat}
    {account written : KeyedAccount}
    (others : ∀ slot p n, slot ≠ index → received[slot]? = some p →
      left[slot]? = some n → changed slot p n)
    (atIndex : received[index]? = some account)
    (own : changed index account written) :
    SlotWise changed received (left.set index written) := by
  intro slot p n before after
  by_cases same : index = slot
  · subst same
    rw [List.getElem?_set_self'] at after
    rcases Option.map_eq_some_iff.mp after with ⟨_, _, rfl⟩
    cases atIndex.symm.trans before
    exact own
  · rw [List.getElem?_set_ne same] at after
    exact others slot p n (Ne.symm same) before after

/-- Assigning to one slot of the accounts as they came. -/
theorem SlotWise.set_one {changed : SlotRelation}
    {received : List KeyedAccount} {index : Nat}
    {account written : KeyedAccount}
    (same : ∀ slot p, slot ≠ index → changed slot p p)
    (atIndex : received[index]? = some account)
    (own : changed index account written) :
    SlotWise changed received (received.set index written) := by
  refine .set ?_ atIndex own
  intro slot p n other before after
  cases before.symm.trans after
  exact same slot p other

/-- Assigning to two slots of the accounts as they came. -/
theorem SlotWise.set_two {changed : SlotRelation}
    {received : List KeyedAccount} {index index' : Nat}
    {account account' written written' : KeyedAccount}
    (same : ∀ slot p, slot ≠ index → changed slot p p)
    (atIndex : received[index]? = some account)
    (atIndex' : received[index']? = some account')
    (own : changed index account written)
    (own' : changed index' account' written') :
    SlotWise changed received
      ((received.set index written).set index' written') := by
  refine .set ?_ atIndex' own'
  intro slot p n _
  exact SlotWise.set_one same atIndex own slot p n

/-- Assigning what a withdrawal from slot 0 into slot 1 leaves. -/
theorem SlotWise.set_withdrawn {changed : SlotRelation}
    {received : List KeyedAccount} {payer recipient : KeyedAccount}
    {amount : UInt64} (same : ∀ slot p, changed slot p p)
    (atFirst : received[0]? = some payer)
    (atSecond : received[1]? = some recipient)
    (debit : changed 0 payer
      { payer with lamports := payer.lamports - amount })
    (credit : changed 1 recipient
      { recipient with
        lamports := Words.saturatingAdd recipient.lamports amount }) :
    SlotWise changed received
      ((received.set 0
          { payer with lamports := payer.lamports - amount }).set 1
        { recipient with
          lamports := Words.saturatingAdd recipient.lamports amount }) :=
  .set_two (fun slot p _ => same slot p) atFirst atSecond debit credit

/-- What a program does to its slots, given the context and the instruction
data. -/
abbrev ProgramRelation : Type :=
  InvokeContext → List UInt8 → SlotRelation

/-- Every successful run of the program leaves its slots so. -/
def BuiltinProgram.Effects (program : BuiltinProgram)
    (changed : ProgramRelation) : Prop :=
  ∀ data context state final,
    program.invoke data context state = some (.ok (), final) →
      SlotWise (changed context data) state.accounts final.accounts

/-- The effects of a program whose instructions are routines. -/
theorem BuiltinProgram.effects_ofRoutine {name : String}
    {cost : ComputeBudget → UInt64} {invoke : List UInt8 → Routine Unit}
    {changed : ProgramRelation}
    (effects : ∀ data context state final,
      (invoke data).Yields context state () final →
        SlotWise (changed context data) state.accounts final.accounts) :
    (BuiltinProgram.ofRoutine name cost invoke).Effects changed :=
  effects

/-- Meta `index` is the last one at the address. -/
def LastSlot (metas : List AccountMeta) (address : Pubkey)
    (index : Nat) : Prop :=
  (metas.map AccountMeta.pubkey)[index]? = some address ∧
    ∀ later : Nat, index < later →
      (metas.map AccountMeta.pubkey)[later]? ≠ some address

theorem LastSlot.unique {metas : List AccountMeta} {address : Pubkey}
    {left right : Nat} (atLeft : LastSlot metas address left)
    (atRight : LastSlot metas address right) : left = right := by
  rcases Nat.lt_trichotomy left right with below | same | above
  · exact absurd atRight.1 (atLeft.2 right below)
  · exact same
  · exact absurd atLeft.1 (atRight.2 left above)

/-- A slot starts out as the account its meta names. -/
theorem BuiltinEngine.slot_of_resolved {metas : List AccountMeta}
    {accounts received : List KeyedAccount} {address : Pubkey}
    {p : KeyedAccount} {index : Nat}
    (resolved : resolveAccounts accounts metas = .ok received)
    (named : (metas.map AccountMeta.pubkey)[index]? = some address)
    (before : findAccount address accounts = some p) :
    received[index]? = some p := by
  have listed := named
  rw [← addresses_of_resolved resolved, addresses, List.getElem?_map]
    at listed
  rcases Option.map_eq_some_iff.mp listed with ⟨slot, atIndex, same⟩
  have found :=
    findAccount_of_resolved resolved (List.mem_of_getElem? atIndex)
  rw [same, before] at found
  rw [atIndex, found]

/-- After the merge an account that some slot carried is what its last slot
holds. -/
theorem BuiltinEngine.Reaches.merged_slot {program : BuiltinProgram}
    {ix : Instruction} {accounts received : List KeyedAccount}
    {budget : ComputeBudget} {sysvars : Sysvars} {logs : LogCapture}
    {cells : HarnessCells} {state : InvokeState} {address : Pubkey}
    {p n : KeyedAccount}
    (reached : Reaches program ix accounts budget sysvars logs cells
      received state)
    (keeps : program.KeepsAddresses)
    (before : findAccount address accounts = some p)
    (after : findAccount address
      (mergeAccounts accounts state.accounts) = some n) :
    (address ∉ ix.accounts.map AccountMeta.pubkey ∧ n = p) ∨
      ∃ index, received[index]? = some p ∧
        state.accounts[index]? = some n ∧
        LastSlot ix.accounts address index := by
  have slotAddresses := reached.addresses_slots keeps
  rw [findAccount_mergeAccounts] at after
  cases atLast : findAccount address state.accounts.reverse with
  | none =>
      rw [atLast, Option.none_or] at after
      left
      constructor
      · intro named
        rw [← slotAddresses, addresses, ← List.mem_reverse,
          ← List.map_reverse] at named
        exact
          (KeyedList.lookup_eq_none_iff KeyedAccount.address).mp atLast named
      · exact Option.some.inj (after.symm.trans before)
  | some written =>
      rw [atLast, Option.some_or] at after
      cases after
      right
      obtain ⟨index, atIndex, last⟩ :=
        KeyedList.lookup_reverse_eq_some KeyedAccount.address atLast
      have writtenAddress : n.address = address :=
        KeyedList.key_of_lookup KeyedAccount.address atLast
      have named : (ix.accounts.map AccountMeta.pubkey)[index]? =
          some address := by
        rw [← slotAddresses, addresses, List.getElem?_map, atIndex,
          Option.map_some, writtenAddress]
      refine
        ⟨index, slot_of_resolved reached.resolved named before, atIndex,
          named, ?_⟩
      intro later behind same
      rw [← slotAddresses, addresses, List.getElem?_map] at same
      rcases Option.map_eq_some_iff.mp same with
        ⟨other, listed, sameAddress⟩
      exact last later other behind listed sameAddress

/-! ## One instruction -/

/-- One instruction of a registered program through
`HopperSvm::process_instruction`, whatever the validation policy. -/
structure Call (programId : Pubkey) (program : BuiltinProgram) where
  svm : HopperSvm
  ix : Instruction
  accounts : List KeyedAccount
  result : HopperExecutionResult
  svm' : HopperSvm
  registered : svm.Registered programId program
  addressed : ix.programId = programId
  ran : svm.processInstruction ix accounts = some (result, svm')

namespace Call

variable {programId : Pubkey} {program : BuiltinProgram}

/-- The call of an instruction that returns. -/
def ofReturns (svm : HopperSvm) (ix : Instruction)
    (accounts : List KeyedAccount)
    (registered : svm.Registered programId program)
    (addressed : ix.programId = programId)
    (returns : (svm.processInstruction ix accounts).isSome) :
    Call programId program :=
  { svm
    ix
    accounts
    result := ((svm.processInstruction ix accounts).get returns).1
    svm' := ((svm.processInstruction ix accounts).get returns).2
    registered
    addressed
    ran := (Option.some_get returns).symm }

/-- The instruction succeeded. -/
def Succeeded (call : Call programId program) : Prop :=
  call.result.outcome.error = none

instance (call : Call programId program) : Decidable call.Succeeded :=
  inferInstanceAs (Decidable (_ = none))

/-- What the program was invoked with. -/
def context (call : Call programId program) : InvokeContext :=
  { programId
    accountMetas := call.ix.accounts
    sysvars := call.svm.sysvars }

/-- The account at the address before and after the instruction. -/
def Moves (address : Pubkey) (p : KeyedAccount)
    (call : Call programId program) (n : KeyedAccount) : Prop :=
  findAccount address call.accounts = some p ∧
    findAccount address call.result.outcome.resultingAccounts = some n

/-- A run of instructions on the account at an address: each is handed what
the one before it left. -/
abbrev Run (programId : Pubkey) (program : BuiltinProgram)
    (address : Pubkey) :=
  Labelled.Trace fun p (call : Call programId program) n =>
    call.Moves address p n

/-- The instruction carries the key as a signer. -/
def SignedBy (call : Call programId program) (key : Pubkey) : Prop :=
  ∃ accountMeta ∈ call.ix.accounts,
    accountMeta.pubkey = key ∧ accountMeta.isSigner = true

variable {call : Call programId program} {address : Pubkey}
  {p n : KeyedAccount}

theorem signedBy_of_isSigner {key : Pubkey}
    (signer : Routine.IsSigner call.context key) : call.SignedBy key :=
  Routine.exists_meta_of_first signer

theorem Moves.eq_of_failed (moves : Moves address p call n)
    (failure : ¬ call.Succeeded) : n = p := by
  have handedBack :=
    HopperSvm.processInstruction_failed_accounts call.ran failure
  have after := moves.2
  rw [handedBack] at after
  exact Option.some.inj (after.symm.trans moves.1)

/-- What a successful call went through: the slots it was handed, and the
state the program left, which was merged and accepted. -/
structure Completed (call : Call programId program)
    (received : List KeyedAccount) (state : InvokeState) : Prop where
  reached :
    Reaches program call.ix call.accounts call.svm.dispatchBudget
      call.svm.sysvars .empty call.svm.cells received state
  merged :
    call.result.outcome.resultingAccounts =
      mergeAccounts call.accounts state.accounts
  validated :
    validatePostState programId call.ix.accounts call.accounts
        call.result.outcome.resultingAccounts call.svm.validationPolicy =
      .ok ()

theorem Succeeded.exists_completed (success : call.Succeeded) :
    ∃ received state, call.Completed received state := by
  have registered : call.svm.Registered call.ix.programId program := by
    rw [call.addressed]
    exact call.registered
  obtain ⟨received, state, succeeds, outcome, _⟩ :=
    HopperSvm.processInstruction_succeeded registered call.ran success
  have merged : call.result.outcome.resultingAccounts =
      mergeAccounts call.accounts state.accounts := by
    rw [outcome]
    rfl
  have validated := succeeds.validated
  rw [call.addressed, ← merged] at validated
  exact ⟨received, state, succeeds.reached, merged, validated⟩

namespace Completed

variable {received : List KeyedAccount} {state : InvokeState}

/-- The program ran in the context of the call. -/
theorem invoked (completed : call.Completed received state) :
    ∃ started : InvokeState, started.accounts = received ∧
      program.invoke call.ix.data call.context started =
        some (.ok (), state) := by
  have sameContext : call.context =
      { programId := call.ix.programId
        accountMetas := call.ix.accounts
        sysvars := call.svm.sysvars } := by
    rw [context, call.addressed]
  rw [sameContext]
  exact ⟨_, rfl, completed.reached.invoked⟩

/-- The program left its slots as its effects say. -/
theorem slotWise {changed : ProgramRelation}
    (completed : call.Completed received state)
    (effects : program.Effects changed) :
    SlotWise (changed call.context call.ix.data) received
      state.accounts := by
  obtain ⟨started, slots, ran⟩ := completed.invoked
  rw [← slots]
  exact effects _ _ _ _ ran

end Completed

/-- Through which slots a successful instruction decided what becomes of
the account at an address. -/
theorem Moves.through_slot (moves : Moves address p call n)
    (keeps : program.KeepsAddresses) (success : call.Succeeded) :
    (address ∉ call.ix.accounts.map AccountMeta.pubkey ∧ n = p) ∨
      ∃ received state index, call.Completed received state ∧
        received[index]? = some p ∧ state.accounts[index]? = some n ∧
        LastSlot call.ix.accounts address index := by
  obtain ⟨received, state, completed⟩ := success.exists_completed
  have after := moves.2
  rw [completed.merged] at after
  rcases completed.reached.merged_slot keeps moves.1 after with
    unnamed | ⟨index, before, atIndex, last⟩
  · exact Or.inl unnamed
  · exact
      Or.inr ⟨received, state, index, completed, before, atIndex, last⟩

end Call

/-- One instruction of a registered program through
`HopperSvm::process_instruction` under Strict. -/
structure StrictCall (programId : Pubkey) (program : BuiltinProgram)
    extends Call programId program where
  strict : svm.validationPolicy = .strict

namespace StrictCall

variable {programId : Pubkey} {program : BuiltinProgram}

/-- The call of an instruction that returns. -/
def ofReturns (svm : HopperSvm) (ix : Instruction)
    (accounts : List KeyedAccount)
    (registered : svm.Registered programId program)
    (addressed : ix.programId = programId)
    (strict : svm.validationPolicy = .strict)
    (returns : (svm.processInstruction ix accounts).isSome) :
    StrictCall programId program :=
  { Call.ofReturns svm ix accounts registered addressed returns with
    strict }

/-- A run of instructions under Strict on the account at an address. -/
abbrev Run (programId : Pubkey) (program : BuiltinProgram)
    (address : Pubkey) :=
  Labelled.Trace fun p (call : StrictCall programId program) n =>
    call.Moves address p n

/-- A successful instruction left the account as its last slot, and the
validator accepted that. -/
structure Writes (changed : ProgramRelation) (address : Pubkey)
    (call : StrictCall programId program) (index : Nat)
    (p n : KeyedAccount) : Prop where
  succeeded : call.Succeeded
  last : LastSlot call.ix.accounts address index
  changed : changed call.context call.ix.data index p n
  permitted : ∃ isWritable, Permitted programId isWritable p n

end StrictCall

namespace Call

variable {programId : Pubkey} {program : BuiltinProgram}
  {call : StrictCall programId program} {address : Pubkey}
  {p n : KeyedAccount}

/-- The validator accepted whatever happened to a named account. -/
theorem Completed.permitted {received : List KeyedAccount}
    {state : InvokeState} (completed : call.Completed received state)
    (named : address ∈ call.ix.accounts.map AccountMeta.pubkey)
    (moves : call.Moves address p n) :
    ∃ isWritable, Permitted programId isWritable p n := by
  obtain ⟨accountMeta, isFirst, same⟩ :=
    List.mem_map.mp (mem_pubkeys_involved.mpr named)
  have validated := completed.validated
  rw [call.strict] at validated
  have rules :=
    ((validatePostState_strict_iff call.ix.accounts_length).mp
      validated).1
  have pair : pairAt call.accounts
      call.result.outcome.resultingAccounts accountMeta = some (p, n) := by
    rw [pairAt, same, moves.1, moves.2]
  exact ⟨accountMeta.isWritable, rules accountMeta isFirst _ pair⟩

/-- A named account of the system program is neither debited nor handed
over by any other program. -/
theorem Moves.kept_of_system (moves : call.Moves address p n)
    (named : address ∈ call.ix.accounts.map AccountMeta.pubkey)
    (owned : p.owner = systemProgramId)
    (other : programId ≠ systemProgramId) :
    p.lamports ≤ n.lamports ∧ n.owner = systemProgramId := by
  have foreign : p.owner ≠ programId := by
    rw [owned]
    exact Ne.symm other
  by_cases success : call.Succeeded
  · obtain ⟨received, state, completed⟩ := success.exists_completed
    obtain ⟨isWritable, permitted⟩ := completed.permitted named moves
    constructor
    · apply UInt64.not_lt.mp
      intro fewer
      exact foreign (permitted.debit fewer)
    · by_contra changed
      rw [← owned] at changed
      rcases permitted.reassign changed with own | ⟨_, isSystem⟩
      · exact foreign own
      · exact other isSystem
  · have same := moves.eq_of_failed success
    rw [same]
    exact ⟨UInt64.le_refl _, owned⟩

/-- What a successful instruction does to the account at an address. -/
theorem Moves.effect_of_succeeded {changed : ProgramRelation}
    (moves : call.Moves address p n) (keeps : program.KeepsAddresses)
    (effects : program.Effects changed) (success : call.Succeeded) :
    (address ∉ call.ix.accounts.map AccountMeta.pubkey ∧ n = p) ∨
      ∃ index, StrictCall.Writes changed address call index p n := by
  rcases moves.through_slot keeps success with
    unnamed | ⟨received, state, index, completed, before, after, last⟩
  · exact Or.inl unnamed
  · right
    have wrote :=
      completed.slotWise effects index p n before after
    have named := List.mem_of_getElem? last.1
    exact
      ⟨index, success, last, wrote, completed.permitted named moves⟩

/-- What an instruction does to the account at an address. -/
theorem Moves.effect {changed : ProgramRelation}
    (moves : call.Moves address p n) (keeps : program.KeepsAddresses)
    (effects : program.Effects changed) :
    n = p ∨ ∃ index, StrictCall.Writes changed address call index p n := by
  by_cases success : call.Succeeded
  · rcases moves.effect_of_succeeded keeps effects success with
      ⟨_, kept⟩ | wrote
    · exact Or.inl kept
    · exact Or.inr wrote
  · exact Or.inl (moves.eq_of_failed success)

/-- What a successful instruction does through a known last slot. -/
theorem Moves.writes {changed : ProgramRelation} {index : Nat}
    (moves : call.Moves address p n) (keeps : program.KeepsAddresses)
    (effects : program.Effects changed) (success : call.Succeeded)
    (last : LastSlot call.ix.accounts address index) :
    StrictCall.Writes changed address call index p n := by
  rcases moves.effect_of_succeeded keeps effects success with
    ⟨unnamed, _⟩ | ⟨other, writes⟩
  · exact absurd (List.mem_of_getElem? last.1) unnamed
  · cases writes.last.unique last
    exact writes

/-- What a successful instruction does to a slot that names the address,
last or not. -/
theorem Moves.changed_slot {changed : ProgramRelation} {index : Nat}
    (moves : call.Moves address p n) (effects : program.Effects changed)
    (success : call.Succeeded)
    (named : (call.ix.accounts.map AccountMeta.pubkey)[index]? =
      some address) :
    ∃ left, changed call.context call.ix.data index p left := by
  obtain ⟨received, state, completed⟩ := success.exists_completed
  have before :=
    slot_of_resolved completed.reached.resolved named moves.1
  have inRange : index < state.accounts.length := by
    rw [completed.reached.length_eq]
    exact (List.getElem?_eq_some_iff.mp before).1
  have after := List.getElem?_eq_getElem inRange
  exact
    ⟨state.accounts[index],
      completed.slotWise effects index p _ before after⟩

end Call

end Hopper
