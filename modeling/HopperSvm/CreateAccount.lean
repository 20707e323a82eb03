import HopperSvm.Dispatch

namespace Hopper

open BuiltinEngine Bytes Routine Words

/-- A well-formed `CreateAccount`. -/
structure Creation where
  funder : AccountMeta
  target : AccountMeta
  lamports : UInt64
  space : UInt64
  owner : Pubkey

namespace Creation

def body (request : Creation) : List UInt8 :=
  leBytes 8 request.lamports.toNat ++
    (leBytes 8 request.space.toNat ++ (request.owner.bytes ++ []))

/-- `system_instruction::create_account`, with the flags left free. -/
def instruction (request : Creation) : Instruction :=
  { programId := systemProgramId
    accounts := [request.funder, request.target]
    data := leBytes 4 0 ++ request.body }

/-- The funder after the transfer. -/
def debited (request : Creation) (funder : KeyedAccount) : KeyedAccount :=
  { funder with lamports := funder.lamports - request.lamports }

/-- The new account. -/
def funded (request : Creation) (target : KeyedAccount) : KeyedAccount :=
  { target with
    lamports := request.lamports
    data := List.replicate request.space.toNat 0
    owner := request.owner
    executable := false }

variable (request : Creation) {context : InvokeContext}
  {state final : InvokeState} {funder target : KeyedAccount}

theorem length_body : request.body.length = 48 := by
  simp [body, request.owner.length_eq]

theorem readU64_lamports {result : UInt64} :
    (readU64 request.body 0).Yields context state result final ↔
      request.lamports = result ∧ state = final := by
  have field : (request.body.drop 0).take 8 =
      leBytes 8 request.lamports.toNat :=
    @take_drop_field [] _ _ 0 8 rfl (length_leBytes 8 _)
  rw [readU64_yields, field, ofNat_leNat_leBytes, length_body]
  simp

theorem readU64_space {result : UInt64} :
    (readU64 request.body 8).Yields context state result final ↔
      request.space = result ∧ state = final := by
  have field : (request.body.drop 8).take 8 =
      leBytes 8 request.space.toNat :=
    take_drop_field (length_leBytes 8 _) (length_leBytes 8 _)
  rw [readU64_yields, field, ofNat_leNat_leBytes, length_body]
  simp

theorem readPubkey_owner {result : Pubkey} :
    (readPubkey request.body 16).Yields context state result final ↔
      request.owner = result ∧ state = final := by
  have grouped : request.body =
      (leBytes 8 request.lamports.toNat ++
          leBytes 8 request.space.toNat) ++
        (request.owner.bytes ++ []) := by
    rw [body, List.append_assoc]
  have field : (request.body.drop 16).take 32 = request.owner.bytes := by
    rw [grouped]
    exact take_drop_field (by simp) request.owner.length_eq
  rw [readPubkey_yields, field, length_body, Pubkey.bytes_inj]
  simp

/-- What the handler asks of the two accounts. -/
@[mk_iff]
structure HandlerAccepts (context : InvokeContext)
    (funder target : KeyedAccount) : Prop where
  funderSigns : IsSigner context funder.address
  targetSigns : IsSigner context target.address
  funderWritable : IsWritable context funder.address
  targetWritable : IsWritable context target.address
  covered : request.lamports ≤ funder.lamports
  noLamports : target.lamports = 0
  noData : target.data = []

/-- What the handler leaves of a slice of the two accounts. -/
def applied (state : InvokeState) (funder target : KeyedAccount) :
    InvokeState :=
  { state with
    accounts := [request.debited funder, request.funded target]
    logs :=
      state.logs.programLog
        s!"system::CreateAccount: {funder.address} -> {target.address} ({request.lamports} lamports, {request.space} bytes, owner {request.owner})" }

theorem createAccount_yields (slots : state.accounts = [funder, target]) :
    (SystemProgram.createAccount request.body).Yields context state ()
        final ↔
      request.HandlerAccepts context funder target ∧
        request.space.toNat ≤ isizeMax ∧
        request.applied state funder target = final := by
  simp only [SystemProgram.createAccount, yields_bind,
    rejectBuiltin_yields, readU64_lamports, readU64_space,
    readPubkey_owner, length_body]
  simp [slots, handlerAccepts_iff, applied, debited, funded, and_assoc]

theorem createAccount_returns (slots : state.accounts = [funder, target])
    (allocatable : request.space.toNat ≤ isizeMax) :
    (SystemProgram.createAccount request.body).Returns context state := by
  simp only [SystemProgram.createAccount, returns_bind,
    rejectBuiltin_yields, readU64_lamports, readU64_space,
    readPubkey_owner, length_body]
  simp [slots, length_body, allocatable]

variable {crates : Crates}

theorem length_data : request.instruction.data.length = 52 := by
  simp [instruction, length_body]

theorem tag_of_data : leNat (request.instruction.data.take 4) = 0 := by
  have field : request.instruction.data.take 4 = leBytes 4 0 :=
    List.take_left' (length_leBytes 4 0)
  rw [field, leNat_leBytes (by decide)]

theorem body_of_data : request.instruction.data.drop 4 = request.body :=
  List.drop_left' (length_leBytes 4 0)

theorem invoke_yields :
    (SystemProgram.invoke crates request.instruction.data).Yields context
        state () final ↔
      (SystemProgram.createAccount request.body).Yields context state ()
        final := by
  simp [SystemProgram.invoke, yields_bind, length_data, tag_of_data,
    body_of_data]

theorem invoke_returns
    (returns :
      (SystemProgram.createAccount request.body).Returns context state) :
    (SystemProgram.invoke crates request.instruction.data).Returns context
      state := by
  simp [SystemProgram.invoke, returns_bind, length_data, tag_of_data,
    body_of_data, returns]

variable {accounts received : List KeyedAccount}

theorem resolved_iff :
    resolveAccounts accounts request.instruction.accounts =
        .ok received ↔
      ∃ funder target,
        findAccount request.funder.pubkey accounts = some funder ∧
          findAccount request.target.pubkey accounts = some target ∧
          received = [funder, target] := by
  rw [resolveAccounts_eq_ok]
  constructor
  · intro listed
    have two : received.length = 2 := by
      simpa [instruction] using (congrArg List.length listed).symm
    rcases List.length_eq_two.mp two with ⟨funder, target, rfl⟩
    simp only [instruction, List.map_cons, List.map_nil,
      List.cons.injEq, and_true] at listed
    exact ⟨funder, target, listed.1, listed.2, rfl⟩
  · rintro ⟨funder, target, foundFunder, foundTarget, rfl⟩
    simp [instruction, foundFunder, foundTarget]

/-- The context of the request on a default harness. -/
def invokeContext : InvokeContext :=
  { programId := request.instruction.programId
    accountMetas := request.instruction.accounts
    sysvars := .default }

theorem invoke_iff {budget : ComputeBudget} {logs : LogCapture}
    {cells : HarnessCells} :
    invoke (systemProgram crates) request.instruction .default budget
          logs cells [funder, target] =
        some (.ok (), state) ↔
      request.HandlerAccepts request.invokeContext funder target ∧
        request.space.toNat ≤ isizeMax ∧
        request.applied
            { accounts := [funder, target], logs, budget, cells }
            funder target =
          state := by
  rw [systemProgram, invoke_ofRoutine]
  exact (invoke_yields request).trans (createAccount_yields request rfl)

theorem new_registered (crates : Crates) :
    (HopperSvm.new crates).Registered systemProgramId
      (systemProgram crates) :=
  ⟨rfl, by simp [HopperSvm.new, HopperSvm.withBuiltin]⟩

/-! ## Through the validator -/

/-- What the validator asks of accounts that the handler accepts. -/
@[mk_iff]
structure ValidatorAccepts (funder target : KeyedAccount) : Prop where
  notExecutable : target.executable = false
  reassigns : request.owner ≠ target.owner →
    target.owner = systemProgramId
  allocates : request.space ≠ 0 → target.owner = systemProgramId
  debits : request.lamports ≠ 0 → funder.owner = systemProgramId
  balances : request.lamports ≠ 0 → target.owner = systemProgramId →
    request.owner = systemProgramId ∧ request.space = 0

theorem permitted_debited (covered : request.lamports ≤ funder.lamports) :
    Permitted systemProgramId true funder (request.debited funder) ↔
      (request.lamports ≠ 0 → funder.owner = systemProgramId) := by
  have below :
      (request.debited funder).lamports < funder.lamports ↔
        request.lamports ≠ 0 := by
    change funder.lamports - request.lamports < funder.lamports ↔ _
    have bound := UInt64.le_iff_toNat_le.mp covered
    rw [UInt64.lt_iff_toNat_lt, UInt64.toNat_sub_of_le _ _ covered,
      ne_eq, ← UInt64.toNat_inj]
    simp only [UInt64.toNat_zero]
    omega
  constructor
  · intro permitted some
    exact permitted.debit (below.mpr some)
  · intro owned
    exact
      { executable := rfl
        readOnly := fun readOnly => by cases readOnly
        debit := fun less => owned (below.mp less)
        reassign := fun different => absurd rfl different
        write := fun different => absurd rfl different }

theorem funded_data_eq_nil :
    (request.funded target).data = [] ↔ request.space = 0 := by
  change List.replicate request.space.toNat 0 = [] ↔ _
  rw [List.replicate_eq_nil_iff, ← UInt64.toNat_inj]
  rfl

theorem permitted_funded (noLamports : target.lamports = 0)
    (noData : target.data = []) :
    Permitted systemProgramId true target (request.funded target) ↔
      target.executable = false ∧
        (request.owner ≠ target.owner →
          target.owner = systemProgramId) ∧
        (request.space ≠ 0 → target.owner = systemProgramId) := by
  have owned (fresh : target.owner = systemProgramId ∨ Fresh target) :
      target.owner = systemProgramId := by
    rcases fresh with owned | fresh
    · exact owned
    · exact fresh.2.2
  constructor
  · intro permitted
    refine ⟨permitted.executable.symm, ?_, ?_⟩
    · intro different
      rcases permitted.reassign different with owned | fresh
      · exact owned
      · exact fresh.1.2.2
    · intro some
      apply owned (permitted.write _)
      rw [noData]
      exact fun empty => some ((funded_data_eq_nil request).mp empty)
  · rintro ⟨notExecutable, reassigns, allocates⟩
    exact
      { executable := notExecutable.symm
        readOnly := fun readOnly => by cases readOnly
        debit := fun less => by
          rw [noLamports] at less
          exact absurd less UInt64.not_lt_zero
        reassign := fun different => Or.inl (reassigns different)
        write := fun different => by
          rw [noData] at different
          refine Or.inl (allocates fun none => different ?_)
          exact (funded_data_eq_nil request).mpr none }

theorem credit_debited : creditOf funder (request.debited funder) = 0 := by
  apply if_neg
  intro created
  rcases created with ⟨_, ownerChanged | ⟨empty, grown⟩⟩
  · exact ownerChanged rfl
  · exact grown empty

theorem credit_funded (noLamports : target.lamports = 0)
    (noData : target.data = []) :
    creditOf target (request.funded target) = 0 ↔
      (request.lamports ≠ 0 → target.owner = systemProgramId →
        request.owner = systemProgramId ∧ request.space = 0) := by
  have created :
      Created target (request.funded target) ↔
        target.owner = systemProgramId ∧
          (target.owner ≠ request.owner ∨ request.space ≠ 0) := by
    simp only [Created, Fresh]
    rw [ne_eq ((request.funded target).data),
      funded_data_eq_nil request]
    simp [noLamports, noData, funded]
  have nothing :
      (request.funded target).lamports.toNat = 0 ↔
        request.lamports = 0 :=
    @UInt64.toNat_inj request.lamports 0
  rw [creditOf, ite_eq_right_iff, created, nothing]
  constructor
  · intro credit some owned
    by_contra bad
    apply some
    apply credit
    refine ⟨owned, ?_⟩
    rw [owned]
    by_cases sameOwner : request.owner = systemProgramId
    · exact Or.inr fun none => bad ⟨sameOwner, none⟩
    · exact Or.inl (Ne.symm sameOwner)
  · rintro balances ⟨owned, changed⟩
    by_contra some
    obtain ⟨sameOwner, none⟩ := balances some owned
    rcases changed with ownerChanged | allocated
    · exact ownerChanged (owned.trans sameOwner.symm)
    · exact allocated none

theorem involved_pair (left right : AccountMeta) :
    involved [left, right] =
      if right.pubkey = left.pubkey then [left] else [left, right] := by
  simp only [involved, KeyedList.firsts, List.not_mem_nil, if_false,
    List.mem_singleton]
  split
  · rfl
  · rfl

/-- The slots the handler leaves, seen as a ledger. -/
theorem writeBack_applied {before : Ledger} (address : Pubkey) :
    writeBack before [request.debited funder, request.funded target]
        address =
      if target.address = address then some (request.funded target)
      else if funder.address = address then some (request.debited funder)
      else before address := by
  simp only [writeBack, findAccount]
  simp only [List.reverse_cons, List.reverse_nil, List.nil_append,
    List.cons_append, KeyedList.lookup_cons, KeyedList.lookup_nil]
  have targetAddress : (request.funded target).address = target.address :=
    rfl
  have funderAddress : (request.debited funder).address =
      funder.address := rfl
  rw [targetAddress, funderAddress]
  split
  · rfl
  · split
    · rfl
    · rfl

/-- On two accounts that the handler accepts, the validator's verdict. -/
theorem accepts_iff_apart {before : Ledger}
    (foundFunder : before request.funder.pubkey = some funder)
    (foundTarget : before request.target.pubkey = some target)
    (funderAddress : funder.address = request.funder.pubkey)
    (targetAddress : target.address = request.target.pubkey)
    (apart : request.target.pubkey ≠ request.funder.pubkey)
    (accepts :
      request.HandlerAccepts request.invokeContext funder target) :
    Accepts systemProgramId request.instruction.accounts before
        (writeBack before
          [request.debited funder, request.funded target]) ↔
      request.ValidatorAccepts funder target := by
  have funderWritable : request.funder.isWritable = true := by
    simpa [IsWritable, metaFor, invokeContext, instruction,
      funderAddress] using accepts.funderWritable
  have targetWritable : request.target.isWritable = true := by
    simpa [IsWritable, metaFor, invokeContext, instruction,
      targetAddress, Ne.symm apart] using accepts.targetWritable
  have pair : involved request.instruction.accounts =
      [request.funder, request.target] := by
    rw [instruction, involved_pair, if_neg apart]
  have afterFunder :
      writeBack before [request.debited funder, request.funded target]
          request.funder.pubkey = some (request.debited funder) := by
    rw [writeBack_applied, targetAddress, if_neg apart,
      if_pos funderAddress]
  have afterTarget :
      writeBack before [request.debited funder, request.funded target]
          request.target.pubkey = some (request.funded target) := by
    rw [writeBack_applied, if_pos targetAddress]
  have balanced :
      funder.lamports.toNat + target.lamports.toNat +
            (creditOf funder (request.debited funder) +
              creditOf target (request.funded target)) =
          (request.debited funder).lamports.toNat +
            (request.funded target).lamports.toNat ↔
        creditOf target (request.funded target) = 0 := by
    have moved :=
      toNat_sub_of_not_lt (UInt64.not_lt.mpr accepts.covered)
    have funderLamports :
        (request.debited funder).lamports.toNat =
          (funder.lamports - request.lamports).toNat := rfl
    have targetLamports :
        (request.funded target).lamports.toNat =
          request.lamports.toNat := rfl
    rw [credit_debited, funderLamports, targetLamports,
      accepts.noLamports, UInt64.toNat_zero]
    omega
  rw [accepts_pair_iff pair foundFunder afterFunder foundTarget
      afterTarget,
    funderWritable, targetWritable,
    permitted_debited request accepts.covered,
    permitted_funded request accepts.noLamports accepts.noData, balanced,
    credit_funded request accepts.noLamports accepts.noData,
    validatorAccepts_iff]
  constructor
  · rintro ⟨debits, ⟨notExecutable, reassigns, allocates⟩, balances⟩
    exact ⟨notExecutable, reassigns, allocates, debits, balances⟩
  · rintro ⟨notExecutable, reassigns, allocates, debits, balances⟩
    exact ⟨debits, ⟨notExecutable, reassigns, allocates⟩, balances⟩

/-- An account that funds itself passes no lamports, and its second slot
wins. -/
theorem accepts_iff_same {before : Ledger}
    (found : before request.funder.pubkey = some target)
    (address : target.address = request.funder.pubkey)
    (same : request.target.pubkey = request.funder.pubkey)
    (accepts :
      request.HandlerAccepts request.invokeContext target target) :
    Accepts systemProgramId request.instruction.accounts before
        (writeBack before
          [request.debited target, request.funded target]) ↔
      request.ValidatorAccepts target target := by
  have writable : request.funder.isWritable = true := by
    simpa [IsWritable, metaFor, invokeContext, instruction, address]
      using accepts.funderWritable
  have single : involved request.instruction.accounts =
      [request.funder] := by
    rw [instruction, involved_pair, if_pos same]
  have nothing : request.lamports = 0 := by
    have covered := accepts.covered
    rw [accepts.noLamports] at covered
    exact UInt64.le_zero_iff.mp covered
  have afterTarget :
      writeBack before [request.debited target, request.funded target]
          request.funder.pubkey = some (request.funded target) := by
    rw [writeBack_applied, if_pos address]
  have balanced :
      target.lamports.toNat + creditOf target (request.funded target) =
        (request.funded target).lamports.toNat := by
    have credit : creditOf target (request.funded target) = 0 :=
      (credit_funded request accepts.noLamports accepts.noData).mpr
        fun some => absurd nothing some
    have targetLamports :
        (request.funded target).lamports = request.lamports := rfl
    rw [credit, targetLamports, nothing, accepts.noLamports,
      Nat.add_zero]
  rw [accepts_single_iff single found afterTarget, writable,
    permitted_funded request accepts.noLamports accepts.noData,
    validatorAccepts_iff]
  constructor
  · rintro ⟨⟨notExecutable, reassigns, allocates⟩, _⟩
    exact
      ⟨notExecutable, reassigns, allocates,
        fun some => absurd nothing some,
        fun some => absurd nothing some⟩
  · rintro ⟨notExecutable, reassigns, allocates, _, _⟩
    exact ⟨⟨notExecutable, reassigns, allocates⟩, balanced⟩

/-- The accounts the request names, when both are supplied. -/
structure Names (accounts : List KeyedAccount)
    (funder target : KeyedAccount) : Prop where
  funder : findAccount request.funder.pubkey accounts = some funder
  target : findAccount request.target.pubkey accounts = some target

/-- The validator's verdict on the list the request leaves. -/
theorem validated_iff {budget : ComputeBudget} {logs : LogCapture}
    {cells : HarnessCells} (distinct : (addresses accounts).Nodup)
    (names : request.Names accounts funder target)
    (accepts :
      request.HandlerAccepts request.invokeContext funder target)
    (reached :
      Reaches (systemProgram crates) request.instruction accounts budget
        .default logs cells received state)
    (left : state.accounts =
      [request.debited funder, request.funded target]) :
    validatePostState systemProgramId request.instruction.accounts
          accounts (mergeAccounts accounts state.accounts) .strict =
        .ok () ↔
      request.ValidatorAccepts funder target := by
  have rewrites :=
    reached.rewrites BuiltinProgram.keepsAddresses_ofRoutine distinct
  rw [rewrites.validate_iff request.instruction.accounts_length,
    ledgerOf_mergeAccounts, left]
  have funderAddress :=
    KeyedList.key_of_lookup KeyedAccount.address names.funder
  have targetAddress :=
    KeyedList.key_of_lookup KeyedAccount.address names.target
  by_cases same : request.target.pubkey = request.funder.pubkey
  · have one : funder = target := by
      have foundTarget := names.target
      rw [same, names.funder] at foundTarget
      exact Option.some.inj foundTarget
    subst one
    exact
      accepts_iff_same request names.funder funderAddress same accepts
  · exact
      accepts_iff_apart request names.funder names.target funderAddress
        targetAddress same accepts

/-- Both layers accept the request on these accounts. -/
structure Accepted (accounts : List KeyedAccount)
    (funder target : KeyedAccount) : Prop where
  names : request.Names accounts funder target
  handler : request.HandlerAccepts request.invokeContext funder target
  validator : request.ValidatorAccepts funder target

theorem accepted_of_succeeds (distinct : (addresses accounts).Nodup)
    (succeeds :
      (HopperSvm.new crates).Succeeds (systemProgram crates)
        request.instruction accounts .empty received state) :
    ∃ funder target, request.Accepted accounts funder target ∧
      state.accounts = [request.debited funder, request.funded target] := by
  obtain ⟨funder, target, foundFunder, foundTarget, rfl⟩ :=
    (resolved_iff request).mp succeeds.reached.resolved
  obtain ⟨accepts, _, left⟩ :=
    (invoke_iff request).mp succeeds.reached.invoked
  have slots :
      state.accounts =
        [request.debited funder, request.funded target] := by
    rw [← left, applied]
  have names : request.Names accounts funder target :=
    ⟨foundFunder, foundTarget⟩
  have valid :=
    (validated_iff request distinct names accepts succeeds.reached
      slots).mp succeeds.validated
  exact ⟨funder, target, ⟨names, accepts, valid⟩, slots⟩

theorem succeeds_of_accepted (distinct : (addresses accounts).Nodup)
    (allocatable : request.space.toNat ≤ isizeMax)
    (accepted : request.Accepted accounts funder target) :
    ∃ received state,
      (HopperSvm.new crates).Succeeds (systemProgram crates)
        request.instruction accounts .empty received state := by
  have reached :
      Reaches (systemProgram crates) request.instruction accounts
        (HopperSvm.new crates).dispatchBudget .default .empty
        (HopperSvm.new crates).cells [funder, target] _ :=
    { affordable := rfl
      resolved :=
        (resolved_iff request).mpr
          ⟨funder, target, accepted.names.funder, accepted.names.target,
            rfl⟩
      invoked :=
        (invoke_iff request).mpr ⟨accepted.handler, allocatable, rfl⟩ }
  exact
    ⟨_, _, reached,
      (validated_iff request distinct accepted.names accepted.handler
        reached rfl).mpr accepted.validator⟩

/-- A request that can be allocated never panics. -/
theorem processInstruction_returns
    (allocatable : request.space.toNat ≤ isizeMax) :
    ∃ result svm',
      (HopperSvm.new crates).processInstruction request.instruction
        accounts = some (result, svm') := by
  have executed :
      execute (systemProgram crates) request.instruction accounts
          (HopperSvm.new crates).dispatchBudget
          (HopperSvm.new crates).sysvars .empty
          (HopperSvm.new crates).cells ≠ none := by
    apply execute_ne_none
    intro received resolved
    obtain ⟨funder, target, _, _, rfl⟩ :=
      (resolved_iff request).mp resolved
    rw [systemProgram, invoke_ofRoutine]
    exact
      invoke_returns request
        (createAccount_returns request rfl allocatable)
  rcases Option.ne_none_iff_exists'.mp executed with ⟨run, ran⟩
  rw [HopperSvm.processInstruction,
    HopperSvm.dispatchOne_registered (new_registered crates), ran]
  exact ⟨_, _, rfl⟩

variable {result : HopperExecutionResult} {svm' : HopperSvm}

theorem processInstruction_success_iff
    (distinct : (addresses accounts).Nodup)
    (allocatable : request.space.toNat ≤ isizeMax)
    (ran :
      (HopperSvm.new crates).processInstruction request.instruction
        accounts = some (result, svm')) :
    result.outcome.error = none ↔
      ∃ funder target, request.Accepted accounts funder target := by
  constructor
  · intro success
    obtain ⟨received, state, succeeds, _⟩ :=
      HopperSvm.processInstruction_succeeded (new_registered crates) ran
        success
    obtain ⟨funder, target, accepted, _⟩ :=
      accepted_of_succeeds request distinct succeeds
    exact ⟨funder, target, accepted⟩
  · rintro ⟨funder, target, accepted⟩
    obtain ⟨received, state, succeeds⟩ :=
      @succeeds_of_accepted request _ _ crates _ distinct allocatable
        accepted
    have processed :=
      succeeds.processInstruction_eq (new_registered crates)
    rw [ran, Option.some.injEq] at processed
    cases processed
    rfl

/-! ## What the request should do -/

/-- When a creation should succeed. -/
structure Creatable (accounts : List KeyedAccount)
    (funder target : KeyedAccount) : Prop where
  names : request.Names accounts funder target
  apart : request.funder.pubkey ≠ request.target.pubkey
  funderSigns : request.funder.isSigner = true
  funderWritable : request.funder.isWritable = true
  targetSigns : request.target.isSigner = true
  targetWritable : request.target.isWritable = true
  funderOwner : funder.owner = systemProgramId
  covered : request.lamports ≤ funder.lamports
  noLamports : target.lamports = 0
  noData : target.data = []
  targetOwner : target.owner = systemProgramId

/-- The ledger a creation should leave. -/
def ledgerAfter (accounts : List KeyedAccount) : Ledger :=
  fun address =>
    if address = request.target.pubkey then
      (findAccount address accounts).map request.funded
    else if address = request.funder.pubkey then
      (findAccount address accounts).map request.debited
    else
      findAccount address accounts

/-- A creation succeeds exactly when it should, with exactly its effect,
and otherwise changes nothing. -/
structure CreatesExactly (accounts : List KeyedAccount)
    (result : HopperExecutionResult) : Prop where
  succeeds_iff : result.outcome.error = none ↔
    ∃ funder target, request.Creatable accounts funder target
  created : result.outcome.error = none →
    addresses result.outcome.resultingAccounts = addresses accounts ∧
      ledgerOf result.outcome.resultingAccounts =
        request.ledgerAfter accounts
  rolledBack : result.outcome.error ≠ none →
    result.outcome.resultingAccounts = accounts

/-- The requests that the handler accepts and the validator decides the
other way: a creation with an executable target, or one that moves lamports
to an account that gains an owner or data, is rejected; a free creation from
itself or from a foreign account, and one that leaves a foreign target's
owner and data as they are, is accepted. -/
def Misjudged (funder target : KeyedAccount) : Prop :=
  (request.funder.pubkey ≠ request.target.pubkey ∧
      funder.owner = systemProgramId ∧ target.owner = systemProgramId ∧
      (target.executable = true ∨
        (request.lamports ≠ 0 ∧
          (request.owner ≠ systemProgramId ∨ request.space ≠ 0)))) ∨
    (target.owner = systemProgramId ∧ target.executable = false ∧
      request.lamports = 0 ∧
      (request.funder.pubkey = request.target.pubkey ∨
        funder.owner ≠ systemProgramId)) ∨
    (target.owner ≠ systemProgramId ∧ target.executable = false ∧
      request.owner = target.owner ∧ request.space = 0 ∧
      (request.lamports = 0 ∨ funder.owner = systemProgramId))

theorem Names.unique {request : Creation}
    {funder' target' : KeyedAccount}
    (names : request.Names accounts funder target)
    (names' : request.Names accounts funder' target') :
    funder' = funder ∧ target' = target :=
  ⟨Option.some.inj (names'.funder.symm.trans names.funder),
    Option.some.inj (names'.target.symm.trans names.target)⟩

theorem Creatable.handlerAccepts {request : Creation}
    (creatable : request.Creatable accounts funder target) :
    request.HandlerAccepts request.invokeContext funder target := by
  have funderAddress :=
    KeyedList.key_of_lookup KeyedAccount.address creatable.names.funder
  have targetAddress :=
    KeyedList.key_of_lookup KeyedAccount.address creatable.names.target
  have apart := creatable.apart
  exact
    { funderSigns := by
        simp [IsSigner, metaFor, invokeContext, instruction,
          funderAddress, creatable.funderSigns]
      targetSigns := by
        simp [IsSigner, metaFor, invokeContext, instruction,
          targetAddress, apart, creatable.targetSigns]
      funderWritable := by
        simp [IsWritable, metaFor, invokeContext, instruction,
          funderAddress, creatable.funderWritable]
      targetWritable := by
        simp [IsWritable, metaFor, invokeContext, instruction,
          targetAddress, apart, creatable.targetWritable]
      covered := creatable.covered
      noLamports := creatable.noLamports
      noData := creatable.noData }

/-- On accounts that the handler accepts, what is left to ask. -/
theorem creatable_iff (names : request.Names accounts funder target)
    (accepts :
      request.HandlerAccepts request.invokeContext funder target) :
    request.Creatable accounts funder target ↔
      request.funder.pubkey ≠ request.target.pubkey ∧
        funder.owner = systemProgramId ∧
        target.owner = systemProgramId := by
  have funderAddress :=
    KeyedList.key_of_lookup KeyedAccount.address names.funder
  have targetAddress :=
    KeyedList.key_of_lookup KeyedAccount.address names.target
  constructor
  · intro creatable
    exact
      ⟨creatable.apart, creatable.funderOwner, creatable.targetOwner⟩
  · rintro ⟨apart, funderOwner, targetOwner⟩
    have funderSigns := accepts.funderSigns
    have targetSigns := accepts.targetSigns
    have funderWritable := accepts.funderWritable
    have targetWritable := accepts.targetWritable
    simp only [IsSigner, IsWritable, metaFor, invokeContext, instruction,
      funderAddress, targetAddress, List.find?_cons_of_pos,
      List.find?_cons, decide_true, Option.any_some, apart, decide_false]
      at funderSigns targetSigns funderWritable targetWritable
    exact
      ⟨names, apart, funderSigns, funderWritable, targetSigns,
        targetWritable, funderOwner, accepts.covered,
        accepts.noLamports, accepts.noData, targetOwner⟩

/-- The validator misjudges exactly where it is not of the request's
opinion. -/
theorem misjudged_iff (names : request.Names accounts funder target)
    (accepts :
      request.HandlerAccepts request.invokeContext funder target) :
    request.Misjudged funder target ↔
      ¬ (request.ValidatorAccepts funder target ↔
        request.Creatable accounts funder target) := by
  have selfFunded (same : request.funder.pubkey = request.target.pubkey) :
      funder = target ∧ request.lamports = 0 := by
    have foundFunder := names.funder
    rw [same, names.target, Option.some.injEq] at foundFunder
    have covered := accepts.covered
    rw [← foundFunder, accepts.noLamports] at covered
    exact ⟨foundFunder.symm, UInt64.le_zero_iff.mp covered⟩
  rw [validatorAccepts_iff, creatable_iff request names accepts,
    Misjudged]
  grind

/-- What an accepted request leaves is what it should leave. -/
theorem writeBack_eq_ledgerAfter
    (names : request.Names accounts funder target) :
    writeBack (ledgerOf accounts)
        [request.debited funder, request.funded target] =
      request.ledgerAfter accounts := by
  have funderAddress :=
    KeyedList.key_of_lookup KeyedAccount.address names.funder
  have targetAddress :=
    KeyedList.key_of_lookup KeyedAccount.address names.target
  funext address
  rw [writeBack_applied, ledgerAfter, funderAddress, targetAddress]
  by_cases atTarget : request.target.pubkey = address
  · subst atTarget
    rw [if_pos rfl, if_pos rfl, names.target, Option.map_some]
  · rw [if_neg atTarget, if_neg (Ne.symm atTarget)]
    by_cases atFunder : request.funder.pubkey = address
    · subst atFunder
      rw [if_pos rfl, if_pos rfl, names.funder, Option.map_some]
    · rw [if_neg atFunder, if_neg (Ne.symm atFunder)]
      rfl

/-- What a successful creation leaves. -/
theorem ledgerAfter_of_success (distinct : (addresses accounts).Nodup)
    (ran :
      (HopperSvm.new crates).processInstruction request.instruction
        accounts = some (result, svm'))
    (success : result.outcome.error = none) :
    addresses result.outcome.resultingAccounts = addresses accounts ∧
      ledgerOf result.outcome.resultingAccounts =
        request.ledgerAfter accounts := by
  obtain ⟨received, state, succeeds, outcome, _⟩ :=
    HopperSvm.processInstruction_succeeded (new_registered crates) ran
      success
  obtain ⟨funder, target, accepted, slots⟩ :=
    accepted_of_succeeds request distinct succeeds
  have merged : result.outcome.resultingAccounts =
      mergeAccounts accounts state.accounts := by
    rw [outcome, succeeded]
  rw [merged]
  constructor
  · exact
      (succeeds.reached.rewrites
        BuiltinProgram.keepsAddresses_ofRoutine distinct).sameAddresses
  · rw [ledgerOf_mergeAccounts, slots]
    exact writeBack_eq_ledgerAfter request accepted.names

/-- A creation on a default harness has exactly its effect when the
validator judges the accounts the handler accepts as it should. -/
theorem processInstruction_createAccount_iff (crates : Crates)
    (distinct : (addresses accounts).Nodup)
    (allocatable : request.space.toNat ≤ isizeMax) :
    ∃ result svm',
      (HopperSvm.new crates).processInstruction request.instruction
          accounts = some (result, svm') ∧
        (request.CreatesExactly accounts result ↔
          ∀ funder target, request.Names accounts funder target →
            request.HandlerAccepts request.invokeContext funder target →
              ¬ request.Misjudged funder target) := by
  obtain ⟨result, svm', ran⟩ :=
    @processInstruction_returns request crates accounts allocatable
  refine ⟨result, svm', ran, ?_⟩
  have success_iff :=
    processInstruction_success_iff request distinct allocatable ran
  constructor
  · intro exactly funder target names accepts misjudged
    apply (misjudged_iff request names accepts).mp misjudged
    have sameVerdict := success_iff.symm.trans exactly.succeeds_iff
    constructor
    · intro valid
      obtain ⟨funder', target', creatable⟩ :=
        sameVerdict.mp ⟨funder, target, names, accepts, valid⟩
      obtain ⟨rfl, rfl⟩ := names.unique creatable.names
      exact creatable
    · intro creatable
      obtain ⟨funder', target', accepted⟩ :=
        sameVerdict.mpr ⟨funder, target, creatable⟩
      obtain ⟨rfl, rfl⟩ := names.unique accepted.names
      exact accepted.validator
  · intro judged
    have agrees {funder target : KeyedAccount}
        (names : request.Names accounts funder target)
        (accepts :
          request.HandlerAccepts request.invokeContext funder target) :
        request.ValidatorAccepts funder target ↔
          request.Creatable accounts funder target := by
      by_contra differ
      exact
        judged funder target names accepts
          ((misjudged_iff request names accepts).mpr differ)
    refine { succeeds_iff := ?_, created := ?_, rolledBack := ?_ }
    · rw [success_iff]
      constructor
      · rintro ⟨funder, target, accepted⟩
        exact
          ⟨funder, target,
            (agrees accepted.names accepted.handler).mp
              accepted.validator⟩
      · rintro ⟨funder, target, creatable⟩
        have accepts := creatable.handlerAccepts
        exact
          ⟨funder, target, creatable.names, accepts,
            (agrees creatable.names accepts).mpr creatable⟩
    · intro success
      exact ledgerAfter_of_success request distinct ran success
    · intro failure
      exact HopperSvm.processInstruction_failed_accounts ran failure

/-- A system-owned payer. -/
def payer : KeyedAccount :=
  .new (.filled 1) 1000 systemProgramId [] false

/-- An address nothing has been created at. -/
def vacant : KeyedAccount :=
  .new (.filled 2) 0 systemProgramId [] false

/-- The payer creates an eight-byte account of program 7. -/
def ofLamports (lamports : UInt64) : Creation :=
  { funder := ⟨.filled 1, true, true⟩
    target := ⟨.filled 2, true, true⟩
    lamports
    space := 8
    owner := .filled 7 }

theorem ofLamports_names (lamports : UInt64) :
    (ofLamports lamports).Names [payer, vacant] payer vacant :=
  ⟨rfl, rfl⟩

theorem ofLamports_creatable {lamports : UInt64}
    (covered : lamports ≤ 1000) :
    (ofLamports lamports).Creatable [payer, vacant] payer vacant :=
  { names := ofLamports_names lamports
    apart := (by decide : Pubkey.filled 1 ≠ Pubkey.filled 2)
    funderSigns := rfl
    funderWritable := rfl
    targetSigns := rfl
    targetWritable := rfl
    funderOwner := rfl
    covered
    noLamports := rfl
    noData := rfl
    targetOwner := rfl }

/-- Crates that a creation never calls. -/
def idleCrates : Crates :=
  { createWithSeed := fun _ _ _ => .error "MaxSeedLengthExceeded"
    sha256 := fun _ => ⟨List.replicate 32 0, List.length_replicate⟩
    debugStr := fun text => text }

/-- Without lamports the account is created. -/
theorem processInstruction_createAccount_free :
    ∃ result svm',
      (HopperSvm.new idleCrates).processInstruction
          (ofLamports 0).instruction [payer, vacant] =
        some (result, svm') ∧
      (ofLamports 0).CreatesExactly [payer, vacant] result := by
  obtain ⟨result, svm', ran, exactly_iff⟩ :=
    @processInstruction_createAccount_iff (ofLamports 0) [payer, vacant]
      idleCrates (by decide) (by decide)
  refine ⟨result, svm', ran, exactly_iff.mpr ?_⟩
  intro funder target names _
  obtain ⟨rfl, rfl⟩ := (ofLamports_names 0).unique names
  simp only [Misjudged]
  decide

/-- With lamports the same creation is rejected. -/
theorem funded_creation_rejected :
    ∃ result svm',
      (HopperSvm.new idleCrates).processInstruction
          (ofLamports 100).instruction [payer, vacant] =
        some (result, svm') ∧
      (ofLamports 100).Creatable [payer, vacant] payer vacant ∧
      result.outcome.error ≠ none := by
  obtain ⟨result, svm', ran⟩ :=
    @processInstruction_returns (ofLamports 100) idleCrates
      [payer, vacant] (by decide)
  refine ⟨result, svm', ran, ofLamports_creatable (by decide), ?_⟩
  intro success
  obtain ⟨funder, target, accepted⟩ :=
    (processInstruction_success_iff (ofLamports 100) (by decide)
      (by decide) ran).mp success
  obtain ⟨rfl, rfl⟩ := (ofLamports_names 100).unique accepted.names
  have sameOwner :=
    (accepted.validator.balances (by decide) rfl).1
  exact absurd sameOwner (by decide)

end Creation

end Hopper
