import HopperSvm.Builtin
import HopperSvm.Library.Bytes

/-!
A bundled program is a sequence of steps that read the context and the
instruction data, read and assign slots, and log.  None of them touches an
address or a harness cell or reads the log back, so a routine, a handler
with the proofs of that, is closed under sequencing, and whatever is written
in the monad has the three properties.  `yields_bind` peels a successful
routine into its steps.
-/

namespace Hopper

/-- A handler that leaves addresses and harness cells alone and never reads
the log back. -/
structure Routine (α : Type) where
  run : Handler α
  sameAddresses : Procedure.Keeps SameAddresses run
  sameCells : Procedure.Keeps SameCells run
  logBlind : Procedure.Respects SameButLogs run

namespace Routine

open Bytes Procedure Words

variable {α β : Type}

/-- A routine that leaves the state aside. -/
def ofStateless (handler : Handler α) (stateless : Stateless handler) :
    Routine α :=
  { run := handler
    sameAddresses := stateless.keeps
    sameCells := stateless.keeps
    logBlind := stateless.respects }

instance : Monad Routine where
  pure value := ofStateless (pure value) (Stateless.pure value)
  bind first next :=
    { run := first.run >>= fun value => (next value).run
      sameAddresses :=
        first.sameAddresses.bind fun value => (next value).sameAddresses
      sameCells :=
        first.sameCells.bind fun value => (next value).sameCells
      logBlind :=
        first.logBlind.bind fun value => (next value).logBlind }

/-- The routine succeeds with `value` and leaves `final`. -/
def Yields (routine : Routine α) (context : InvokeContext)
    (state : InvokeState) (value : α) (final : InvokeState) : Prop :=
  routine.run context state = some (.ok value, final)

/-- The routine does not panic. -/
def Returns (routine : Routine α) (context : InvokeContext)
    (state : InvokeState) : Prop :=
  routine.run.Returns context state

/-- The context. -/
def environment : Routine InvokeContext :=
  ofStateless Procedure.environment Stateless.environment

/-- `if condition { return Err(err) }`. -/
def rejectIf (condition : Prop) [Decidable condition]
    (err : HopperSvmError) : Routine Unit :=
  ofStateless (Procedure.rejectIf condition err)
    (Stateless.rejectIf condition err)

/-- `result?`. -/
def ofExcept (value : Except HopperSvmError α) : Routine α :=
  ofStateless (Procedure.ofExcept value) (Stateless.ofExcept value)

/-- Unwrap an operation that panics when it has no result. -/
def expect (value : Option α) : Routine α :=
  ofStateless (Procedure.expect value) (Stateless.expect value)

/-- `ctx.log(message)`. -/
def log (message : String) : Routine Unit :=
  { run := Handler.log message
    sameAddresses := Handler.log_sameAddresses message
    sameCells := Keeps.modify fun _ => rfl
    logBlind := Handler.log_logBlind message }

/-- `accounts.len()`. -/
def accountCount : Routine Nat :=
  { run := Procedure.gets fun state => state.accounts.length
    sameAddresses := Keeps.gets _
    sameCells := Keeps.gets _
    logBlind := Respects.gets fun same => by rw [same.1] }

/-- `accounts[index]`, panicking when there is no such slot. -/
def slot (index : Nat) : Routine KeyedAccount :=
  { run := Handler.slot index
    sameAddresses := Handler.slot_keeps index
    sameCells := Handler.slot_keeps index
    logBlind := Handler.slot_respects (fun same => same.1) index }

/-- An update of other fields leaves the address to this. -/
theorem address_kept (account : KeyedAccount) :
    account.address = account.address := rfl

/-- Assign through `accounts[index]`, panicking when there is no such
slot. -/
def writeSlot (index : Nat) (update : KeyedAccount → KeyedAccount)
    (sameAddress : ∀ account,
      (update account).address = account.address := by
        exact address_kept) :
    Routine Unit :=
  { run := Handler.writeSlot index update
    sameAddresses := Handler.writeSlot_sameAddresses index sameAddress
    sameCells := Handler.writeSlot_keeps index fun _ _ _ => rfl
    logBlind := Handler.writeSlot_logBlind index update }

/-- `ctx.meta_for(address)`. -/
def metaFor (context : InvokeContext) (address : Pubkey) :
    Option AccountMeta :=
  context.accountMetas.find? fun accountMeta =>
    accountMeta.pubkey = address

/-- The first meta of the address is flagged as signer. -/
def IsSigner (context : InvokeContext) (address : Pubkey) : Prop :=
  (metaFor context address).any AccountMeta.isSigner = true

instance (context : InvokeContext) (address : Pubkey) :
    Decidable (IsSigner context address) :=
  inferInstanceAs (Decidable (_ = true))

/-- What the first meta of an address is flagged as, some meta of it is. -/
theorem exists_meta_of_first {metas : List AccountMeta}
    {address : Pubkey} {flag : AccountMeta → Bool}
    (flagged :
      (metas.find? fun accountMeta => accountMeta.pubkey = address).any
          flag = true) :
    ∃ accountMeta ∈ metas,
      accountMeta.pubkey = address ∧ flag accountMeta = true := by
  cases first : metas.find? fun accountMeta =>
      accountMeta.pubkey = address with
  | none =>
      rw [first] at flagged
      cases flagged
  | some accountMeta =>
      rw [first] at flagged
      have same : accountMeta.pubkey = address := by
        simpa using List.find?_some first
      exact
        ⟨accountMeta, List.mem_of_find?_eq_some first, same, flagged⟩

/-- The first meta of the address is flagged as writable. -/
def IsWritable (context : InvokeContext) (address : Pubkey) : Prop :=
  (metaFor context address).any AccountMeta.isWritable = true

instance (context : InvokeContext) (address : Pubkey) :
    Decidable (IsWritable context address) :=
  inferInstanceAs (Decidable (_ = true))

/-- `ctx.require_signer(address)?`. -/
def requireSigner (address : Pubkey) : Routine Unit := do
  let context ← environment
  rejectIf (¬ IsSigner context address) (.accountNotSigner address)

/-- `ctx.require_writable(address)?`. -/
def requireWritable (address : Pubkey) : Routine Unit := do
  let context ← environment
  rejectIf (¬ IsWritable context address) (.accountNotWritable address)

/-- `Err(BuiltinError { program_id: *ctx.program_id, message })` when the
condition holds. -/
def rejectBuiltin (condition : Prop) [Decidable condition]
    (message : String) : Routine Unit := do
  let context ← environment
  rejectIf condition (.builtinError context.programId message)

/-- `Err(BuiltinError { .. })` with the text of a failed conversion. -/
def orBuiltin {ε : Type} (value : Except ε α) (message : ε → String) :
    Routine α := do
  let context ← environment
  ofExcept <|
    value.mapError fun err =>
      .builtinError context.programId (message err)

/-- `value.ok_or_else(|| BuiltinError { .. })?`. -/
def okOrBuiltin (value : Option α) (message : String) : Routine α :=
  orBuiltin (value.elim (.error ()) .ok) fun _ => message

/-- Fail unless there are at least `count` slots. -/
def requireSlots (count : Nat) : Routine Unit := do
  let len ← accountCount
  rejectIf (len < count) (.accountIndexOutOfBounds (count - 1) len)

/-- Fail unless the account holds the lamports. -/
def requireFunds (account : KeyedAccount) (lamports : UInt64) :
    Routine Unit :=
  rejectIf (account.lamports < lamports)
    (.insufficientFunds account.address account.lamports lamports)

/-- `&bytes[start..stop]`, panicking out of range. -/
def slice (bytes : List UInt8) (start stop : Nat) :
    Routine (List UInt8) :=
  expect <|
    if start ≤ stop ∧ stop ≤ bytes.length then
      some ((bytes.drop start).take (stop - start))
    else
      none

/-- `u32::from_le_bytes(bytes[start..start + 4].try_into().unwrap())`. -/
def readU32 (bytes : List UInt8) (start : Nat) : Routine UInt32 := do
  let word ← slice bytes start (start + 4)
  pure (UInt32.ofNat (leNat word))

/-- `u64::from_le_bytes(bytes[start..start + 8].try_into().unwrap())`. -/
def readU64 (bytes : List UInt8) (start : Nat) : Routine UInt64 := do
  let word ← slice bytes start (start + 8)
  pure (UInt64.ofNat (leNat word))

/-- `Pubkey::new_from_array(bytes[start..start + 32].try_into().unwrap())`. -/
def readPubkey (bytes : List UInt8) (start : Nat) : Routine Pubkey := do
  let word ← slice bytes start (start + 32)
  expect (Pubkey.newFromArray word)

/-- `left + right` on `usize`, which panics on overflow. -/
def addUsize (left right : Nat) : Routine Nat :=
  expect (if left + right < 2 ^ 64 then some (left + right) else none)

/-- `vec![0u8; space as usize]`, which panics beyond `isize::MAX`. -/
def zeroed (space : UInt64) : Routine (List UInt8) :=
  expect <|
    if space.toNat ≤ isizeMax then
      some (List.replicate space.toNat 0)
    else
      none

/-! ## What a successful step establishes -/

section Yields

variable {context : InvokeContext} {state final : InvokeState}

theorem yields_bind {first : Routine α} {next : α → Routine β}
    {value : β} :
    (first >>= next).Yields context state value final ↔
      ∃ middle state', first.Yields context state middle state' ∧
        (next middle).Yields context state' value final :=
  bind_eq_ok

@[simp]
theorem yields_pure {value result : α} :
    (pure value : Routine α).Yields context state result final ↔
      value = result ∧ state = final :=
  pure_eq_ok

@[simp]
theorem environment_yields {result : InvokeContext} :
    environment.Yields context state result final ↔
      context = result ∧ state = final :=
  environment_eq_ok

@[simp]
theorem rejectIf_yields {condition : Prop} [Decidable condition]
    {err : HopperSvmError} {result : Unit} :
    (rejectIf condition err).Yields context state result final ↔
      ¬ condition ∧ state = final :=
  rejectIf_eq_ok

@[simp]
theorem ofExcept_yields {value : Except HopperSvmError α} {result : α} :
    (ofExcept value).Yields context state result final ↔
      value = .ok result ∧ state = final :=
  ofExcept_eq_ok

@[simp]
theorem expect_yields {value : Option α} {result : α} :
    (expect value).Yields context state result final ↔
      value = some result ∧ state = final :=
  expect_eq_ok

@[simp]
theorem log_yields {message : String} {result : Unit} :
    (log message).Yields context state result final ↔
      { state with logs := state.logs.programLog message } = final :=
  @Handler.log_eq_ok message context state final result

@[simp]
theorem accountCount_yields {result : Nat} :
    accountCount.Yields context state result final ↔
      state.accounts.length = result ∧ state = final := by
  simp [accountCount, Yields]

@[simp]
theorem slot_yields {index : Nat} {account : KeyedAccount} :
    (slot index).Yields context state account final ↔
      state.accounts[index]? = some account ∧ state = final :=
  Handler.slot_eq_ok

@[simp]
theorem writeSlot_yields {index : Nat}
    {update : KeyedAccount → KeyedAccount}
    {sameAddress : ∀ account, (update account).address = account.address}
    {result : Unit} :
    (writeSlot index update sameAddress).Yields context state result
        final ↔
      ∃ account, state.accounts[index]? = some account ∧
        { state with
          accounts := state.accounts.set index (update account) } =
          final :=
  Handler.writeSlot_eq_ok

@[simp]
theorem requireSigner_yields {address : Pubkey} {result : Unit} :
    (requireSigner address).Yields context state result final ↔
      IsSigner context address ∧ state = final := by
  simp [requireSigner, yields_bind, and_comm]

@[simp]
theorem requireWritable_yields {address : Pubkey} {result : Unit} :
    (requireWritable address).Yields context state result final ↔
      IsWritable context address ∧ state = final := by
  simp [requireWritable, yields_bind, and_comm]

@[simp]
theorem rejectBuiltin_yields {condition : Prop} [Decidable condition]
    {message : String} {result : Unit} :
    (rejectBuiltin condition message).Yields context state result
        final ↔
      ¬ condition ∧ state = final := by
  simp [rejectBuiltin, yields_bind, and_comm]

@[simp]
theorem orBuiltin_yields {ε : Type} {value : Except ε α}
    {message : ε → String} {result : α} :
    (orBuiltin value message).Yields context state result final ↔
      value = .ok result ∧ state = final := by
  cases value with
  | error err =>
      simp [orBuiltin, yields_bind, Except.mapError]
  | ok value =>
      simp [orBuiltin, yields_bind, Except.mapError, and_comm]

@[simp]
theorem okOrBuiltin_yields {value : Option α} {message : String}
    {result : α} :
    (okOrBuiltin value message).Yields context state result final ↔
      value = some result ∧ state = final := by
  cases value <;> simp [okOrBuiltin]

@[simp]
theorem requireSlots_yields {count : Nat} {result : Unit} :
    (requireSlots count).Yields context state result final ↔
      count ≤ state.accounts.length ∧ state = final := by
  simp [requireSlots, yields_bind, and_comm]

@[simp]
theorem requireFunds_yields {account : KeyedAccount} {lamports : UInt64}
    {result : Unit} :
    (requireFunds account lamports).Yields context state result final ↔
      ¬ account.lamports < lamports ∧ state = final :=
  rejectIf_yields

@[simp]
theorem slice_yields {bytes : List UInt8} {start stop : Nat}
    {result : List UInt8} :
    (slice bytes start stop).Yields context state result final ↔
      (start ≤ stop ∧ stop ≤ bytes.length) ∧
        (bytes.drop start).take (stop - start) = result ∧
        state = final := by
  simp only [slice]
  rw [expect_yields]
  split
  · rename_i inRange
    simp [inRange]
  · rename_i outOfRange
    simp [outOfRange]

@[simp]
theorem readU32_yields {bytes : List UInt8} {start : Nat}
    {result : UInt32} :
    (readU32 bytes start).Yields context state result final ↔
      start + 4 ≤ bytes.length ∧
        UInt32.ofNat (leNat ((bytes.drop start).take 4)) = result ∧
        state = final := by
  simp [readU32, yields_bind, and_comm]

@[simp]
theorem readU64_yields {bytes : List UInt8} {start : Nat}
    {result : UInt64} :
    (readU64 bytes start).Yields context state result final ↔
      start + 8 ≤ bytes.length ∧
        UInt64.ofNat (leNat ((bytes.drop start).take 8)) = result ∧
        state = final := by
  simp [readU64, yields_bind, and_comm]

@[simp]
theorem readPubkey_yields {bytes : List UInt8} {start : Nat}
    {result : Pubkey} :
    (readPubkey bytes start).Yields context state result final ↔
      start + 32 ≤ bytes.length ∧
        (bytes.drop start).take 32 = result.bytes ∧
        state = final := by
  simp only [readPubkey, yields_bind, slice_yields, expect_yields,
    Pubkey.newFromArray_eq_some]
  simp [and_comm]

@[simp]
theorem addUsize_yields {left right result : Nat} :
    (addUsize left right).Yields context state result final ↔
      left + right < 2 ^ 64 ∧ left + right = result ∧ state = final := by
  simp only [addUsize]
  rw [expect_yields]
  split
  · rename_i fits
    rw [Option.some.injEq, and_iff_right fits]
  · rename_i tooLarge
    simp only [reduceCtorEq, false_and, tooLarge]

theorem Yields.length_eq {routine : Routine α} {value : α}
    (yields : routine.Yields context state value final) :
    final.accounts.length = state.accounts.length :=
  (routine.sameAddresses context state (.ok value) final yields).length_eq

/-- A signature that is asked for in one case only. -/
theorem yields_of_requireSigner_if {condition : Prop}
    [Decidable condition] {address : Pubkey} {rest : Routine α} {value : α}
    (yields :
      (if condition then (do
          requireSigner address
          rest)
        else rest).Yields context state value final) :
    rest.Yields context state value final := by
  split at yields
  · simp only [yields_bind, requireSigner_yields, ↓existsAndEq, and_true,
      exists_const] at yields
    exact yields.2
  · exact yields

@[simp]
theorem zeroed_yields {space : UInt64} {result : List UInt8} :
    (zeroed space).Yields context state result final ↔
      space.toNat ≤ isizeMax ∧ List.replicate space.toNat 0 = result ∧
        state = final := by
  simp only [zeroed]
  rw [expect_yields]
  split
  · rename_i fits
    simp [fits]
  · rename_i tooLarge
    simp [tooLarge]

end Yields

section Returns

variable {context : InvokeContext} {state : InvokeState}

theorem returns_bind {first : Routine α} {next : α → Routine β} :
    (first >>= next).Returns context state ↔
      first.Returns context state ∧
        ∀ value state', first.Yields context state value state' →
          (next value).Returns context state' :=
  Procedure.returns_bind

@[simp]
theorem returns_pure {value : α} :
    (pure value : Routine α).Returns context state :=
  Procedure.returns_pure

@[simp]
theorem environment_returns : environment.Returns context state :=
  Procedure.returns_environment

@[simp]
theorem rejectIf_returns {condition : Prop} [Decidable condition]
    {err : HopperSvmError} :
    (rejectIf condition err).Returns context state :=
  Procedure.returns_rejectIf

@[simp]
theorem expect_returns {value : Option α} :
    (expect value).Returns context state ↔ value ≠ none :=
  Procedure.returns_expect

@[simp]
theorem log_returns {message : String} :
    (log message).Returns context state :=
  Procedure.returns_modify

@[simp]
theorem slot_returns {index : Nat} :
    (slot index).Returns context state ↔
      index < state.accounts.length := by
  simp [slot, Handler.slot, Returns]

@[simp]
theorem writeSlot_returns {index : Nat}
    {update : KeyedAccount → KeyedAccount}
    {sameAddress : ∀ account,
      (update account).address = account.address} :
    (writeSlot index update sameAddress).Returns context state ↔
      index < state.accounts.length := by
  simp [writeSlot, Handler.writeSlot, Handler.slot, Returns]

@[simp]
theorem requireSigner_returns {address : Pubkey} :
    (requireSigner address).Returns context state := by
  simp [requireSigner, returns_bind]

@[simp]
theorem requireWritable_returns {address : Pubkey} :
    (requireWritable address).Returns context state := by
  simp [requireWritable, returns_bind]

@[simp]
theorem rejectBuiltin_returns {condition : Prop} [Decidable condition]
    {message : String} :
    (rejectBuiltin condition message).Returns context state := by
  simp [rejectBuiltin, returns_bind]

@[simp]
theorem ofExcept_returns {value : Except HopperSvmError α} :
    (Routine.ofExcept value).Returns context state := by
  cases value with
  | error err =>
      exact Procedure.returns_fail
  | ok value =>
      exact Procedure.returns_pure

@[simp]
theorem orBuiltin_returns {ε : Type} {value : Except ε α}
    {message : ε → String} :
    (orBuiltin value message).Returns context state := by
  simp [orBuiltin, returns_bind]

@[simp]
theorem okOrBuiltin_returns {value : Option α} {message : String} :
    (okOrBuiltin value message).Returns context state :=
  orBuiltin_returns

@[simp]
theorem requireSlots_returns {count : Nat} :
    (requireSlots count).Returns context state := by
  rw [requireSlots, returns_bind]
  refine ⟨Procedure.returns_gets, ?_⟩
  intro len state' _
  exact rejectIf_returns

@[simp]
theorem requireFunds_returns {account : KeyedAccount}
    {lamports : UInt64} :
    (requireFunds account lamports).Returns context state :=
  rejectIf_returns

@[simp]
theorem zeroed_returns {space : UInt64} :
    (zeroed space).Returns context state ↔ space.toNat ≤ isizeMax := by
  simp [zeroed]

@[simp]
theorem slice_returns {bytes : List UInt8} {start stop : Nat} :
    (slice bytes start stop).Returns context state ↔
      start ≤ stop ∧ stop ≤ bytes.length := by
  simp [slice]

@[simp]
theorem addUsize_returns {left right : Nat} :
    (addUsize left right).Returns context state ↔
      left + right < 2 ^ 64 := by
  simp [addUsize]

@[simp]
theorem readU32_returns {bytes : List UInt8} {start : Nat} :
    (readU32 bytes start).Returns context state ↔
      start + 4 ≤ bytes.length := by
  simp [readU32, returns_bind, slice]

@[simp]
theorem readU64_returns {bytes : List UInt8} {start : Nat} :
    (readU64 bytes start).Returns context state ↔
      start + 8 ≤ bytes.length := by
  simp [readU64, returns_bind, slice]

@[simp]
theorem readPubkey_returns {bytes : List UInt8} {start : Nat} :
    (readPubkey bytes start).Returns context state ↔
      start + 32 ≤ bytes.length := by
  simp [readPubkey, returns_bind, slice, Pubkey.newFromArray]
  omega

end Returns

end Routine

namespace BuiltinProgram

/-- A program whose every instruction is a routine. -/
def ofRoutine (name : String) (cost : ComputeBudget → UInt64)
    (invoke : List UInt8 → Routine Unit) : BuiltinProgram :=
  ofHandler name cost (fun data => (invoke data).run) fun data =>
    (invoke data).sameAddresses

variable {name : String} {cost : ComputeBudget → UInt64}
  {invoke : List UInt8 → Routine Unit}

theorem keepsAddresses_ofRoutine :
    (ofRoutine name cost invoke).KeepsAddresses :=
  fun data => (invoke data).sameAddresses

theorem keepsCells_ofRoutine :
    (ofRoutine name cost invoke).KeepsCells :=
  fun data => (invoke data).sameCells

theorem logBlind_ofRoutine :
    (ofRoutine name cost invoke).LogBlind :=
  fun data => (invoke data).logBlind

end BuiltinProgram

end Hopper
