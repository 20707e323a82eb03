import HopperSvm.ComputeLimit
import HopperSvm.Library.Boxes

/-!
The foreign-function crate hands out pointers to two kinds of boxes, a
harness with its cached accounts and the outcome of a dispatch, and to the
bytes of the strings it returns.  Following a pointer to nothing, to another
kind of box or past a buffer is undefined behaviour, and a panic in an
`extern "C"` function aborts the process: neither has an outcome here.
-/

namespace Hopper

open Boxes Procedure

/-- What a `HopperSvmHandle` points at.  The mutex around it is left out:
calls come one at a time, and a panic never leaves it poisoned. -/
structure FfiHarness where
  svm : HopperSvm
  accounts : List KeyedAccount

/-- What an `ExecutionResultHandle` points at. -/
structure FfiOutcome where
  errorMessage : Option String
  consumedUnits : UInt64
  transactionFeePaid : UInt64
  logs : List String
  postAccounts : List KeyedAccount
  returnData : List UInt8

/-- A box of the library. -/
inductive Cell where
  | harness (harness : FfiHarness)
  | outcome (outcome : FfiOutcome)
  | string (bytes : ByteArray)

namespace Cell

def harness? : Cell → Option FfiHarness
  | .harness held => some held
  | _ => none

def outcome? : Cell → Option FfiOutcome
  | .outcome held => some held
  | _ => none

def string? : Cell → Option ByteArray
  | .string bytes => some bytes
  | _ => none

end Cell

/-- A pointer to a box, or null. -/
abbrev Handle : Type := Option ℕ

/-- A pointer into the host's memory with the bytes that can be read from
it, or null. -/
abbrev Pointer : Type := Option (List UInt8)

structure FfiEnvironment where
  links : RuntimeLinks
  allocator : Allocator Cell

/-- A call of the library. -/
abbrev Ffi (ε α : Type) : Type :=
  Procedure FfiEnvironment (Memory Cell) ε α

/-- `HopperFfiString`. -/
structure HopperFfiString where
  ptr : Handle
  len : ℕ

/-- `FfiAccountMeta`. -/
structure FfiAccountMeta where
  pubkeyPtr : Pointer
  isSigner : Bool
  isWritable : Bool

/-- A pointer to the data of an account inside an outcome. -/
structure DataPointer where
  place : ℕ
  index : ℕ

/-- `FfiAccount`. -/
structure FfiAccount where
  address : List UInt8
  owner : List UInt8
  lamports : UInt64
  dataPtr : Option DataPointer
  dataLen : ℕ
  executable : Bool
  rentEpoch : UInt64

/-- `error_message`. -/
def errorMessage (err : HopperSvmError) : String := err.describe

/-- What `hopper_svm_dispatch` keeps of a result. -/
def FfiOutcome.ofResult (result : HopperExecutionResult) : FfiOutcome :=
  { errorMessage := result.outcome.error.map Hopper.errorMessage
    consumedUnits := result.outcome.computeUnitsConsumed
    transactionFeePaid := result.transactionFeePaid
    logs := result.logs
    postAccounts := result.outcome.resultingAccounts
    returnData := result.outcome.returnData }

namespace Ffi

variable {ε : Type}

/-- `u64::MAX` and `usize::MAX`, which stand for an unknown account. -/
def unknown : ℕ := 2 ^ 64 - 1

def harness (place : ℕ) : Ffi ε FfiHarness := do
  let cell ← deref place
  expect cell.harness?

def outcome (place : ℕ) : Ffi ε FfiOutcome := do
  let cell ← deref place
  expect cell.outcome?

def string (place : ℕ) : Ffi ε ByteArray := do
  let cell ← deref place
  expect cell.string?

/-- `read_array_32`. -/
def readArray32 (ptr : Pointer) : Ffi ε Pubkey :=
  match ptr with
  | none => pure default
  | some bytes => expect (Pubkey.newFromArray (bytes.take 32))

/-- `std::slice::from_raw_parts`. -/
def fromRawParts {α : Type} (ptr : Option (List α)) (len : ℕ) :
    Ffi ε (List α) :=
  expect
    (ptr.bind fun items =>
      if len ≤ items.length then some (items.take len) else none)

/-- `if len == 0 { Vec::new() } else { from_raw_parts(ptr, len).to_vec() }`. -/
def readSlice {α : Type} (ptr : Option (List α)) (len : ℕ) :
    Ffi ε (List α) :=
  if len = 0 then pure [] else fromRawParts ptr len

/-- Copy the first bytes to a host buffer, unless it is null. -/
def copyOut (bytes : List UInt8) (outPtr : Pointer) (outLen : ℕ) :
    Ffi ε Pointer :=
  let n := min bytes.length outLen
  match outPtr with
  | none => pure none
  | some buffer =>
      if 0 < n then
        expect
          (if n ≤ buffer.length then
            some (some (bytes.take n ++ buffer.drop n))
          else
            none)
      else
        pure (some buffer)

/-- `HopperFfiString::from_string`. -/
def fromString (text : String) : Ffi ε HopperFfiString :=
  if text = "" then
    pure { ptr := none, len := 0 }
  else do
    let context ← environment
    let place ← allocate context.allocator (.string text.toByteArray)
    pure { ptr := some place, len := text.toByteArray.size }

/-- `hopper_svm_string_free`. -/
def hopperSvmStringFree (text : HopperFfiString) : Ffi ε Unit :=
  match text.ptr with
  | none => pure ()
  | some place =>
      if text.len = 0 then
        pure ()
      else do
        let bytes ← string place
        expect (if bytes.size = text.len then some () else none)
        release place

/-- `hopper_svm_new`. -/
def hopperSvmNew : Ffi ε Handle := do
  let context ← environment
  let place ←
    allocate context.allocator
      (.harness
        { svm := .new context.links.crates
          accounts := [] })
  pure (some place)

/-- `hopper_svm_with_solana_runtime`. -/
def hopperSvmWithSolanaRuntime (handle : Handle) : Ffi ε Unit :=
  match handle with
  | none => pure ()
  | some place => do
      let guard ← harness place
      let context ← environment
      overwrite place
        (.harness
          { guard with svm := guard.svm.withSolanaRuntime context.links })

/-- `hopper_svm_set_compute_budget`. -/
def hopperSvmSetComputeBudget (handle : Handle) (units : UInt64) :
    Ffi ε Unit :=
  match handle with
  | none => pure ()
  | some place => do
      let guard ← harness place
      overwrite place
        (.harness { guard with svm := guard.svm.setComputeBudget units })

/-- `hopper_svm_free`. -/
def hopperSvmFree (handle : Handle) : Ffi ε Unit :=
  match handle with
  | none => pure ()
  | some place => do
      let _ ← harness place
      release place

/-- `hopper_svm_set_account`. -/
def hopperSvmSetAccount (handle : Handle) (addressPtr : Pointer)
    (lamports : UInt64) (ownerPtr dataPtr : Pointer) (dataLen : ℕ)
    (executable : Bool) : Ffi ε Bool :=
  match handle, addressPtr, ownerPtr with
  | some place, some _, some _ => do
      let address ← readArray32 addressPtr
      let owner ← readArray32 ownerPtr
      let data ← readSlice dataPtr dataLen
      let account := KeyedAccount.new address lamports owner data executable
      let guard ← harness place
      overwrite place
        (.harness
          { guard with
            accounts :=
              KeyedList.upsert KeyedAccount.address account
                guard.accounts })
      pure true
  | _, _, _ => pure false

/-- `hopper_svm_get_lamports`. -/
def hopperSvmGetLamports (handle : Handle) (addressPtr : Pointer) :
    Ffi ε ℕ :=
  match handle, addressPtr with
  | some place, some _ => do
      let address ← readArray32 addressPtr
      let guard ← harness place
      pure
        (((findAccount address guard.accounts).map fun account =>
          account.lamports.toNat).getD unknown)
  | _, _ => pure unknown

/-- `hopper_svm_get_account_data`, with what it leaves in the buffer. -/
def hopperSvmGetAccountData (handle : Handle)
    (addressPtr outPtr : Pointer) (outLen : ℕ) : Ffi ε (ℕ × Pointer) :=
  match handle, addressPtr with
  | some place, some _ => do
      let address ← readArray32 addressPtr
      let guard ← harness place
      match findAccount address guard.accounts with
      | none => pure (unknown, outPtr)
      | some account => do
          let buffer ← copyOut account.data outPtr outLen
          pure (min account.data.length outLen, buffer)
  | _, _ => pure (unknown, outPtr)

/-- `raw.iter().map(..).collect()`. -/
def readMetas : List FfiAccountMeta → Ffi ε (List AccountMeta)
  | [] => pure []
  | raw :: rest => do
      let pubkey ← readArray32 raw.pubkeyPtr
      let later ← readMetas rest
      pure
        ({ pubkey
           isSigner := raw.isSigner
           isWritable := raw.isWritable } :: later)

/-- `Instruction { program_id, accounts, data }`.  No vector holds `2 ^ 64`
metas. -/
def instruction (programId : Pubkey) (metas : List AccountMeta)
    (data : List UInt8) : Ffi ε Instruction :=
  expect
    (if fits : metas.length < 2 ^ 64 then
      some
        { programId
          accounts := metas
          data
          accounts_length := fits }
    else
      none)

/-- `hopper_svm_dispatch`. -/
def hopperSvmDispatch (handle : Handle) (programIdPtr : Pointer)
    (accountsPtr : Option (List FfiAccountMeta)) (accountsLen : ℕ)
    (dataPtr : Pointer) (dataLen : ℕ) : Ffi ε Handle :=
  match handle, programIdPtr with
  | some place, some _ => do
      let programId ← readArray32 programIdPtr
      if accountsLen ≠ 0 ∧ accountsPtr.isNone then
        pure none
      else do
        let raw ← readSlice accountsPtr accountsLen
        let metas ← readMetas raw
        let data ← readSlice dataPtr dataLen
        let ix ← instruction programId metas data
        let guard ← harness place
        let (result, svm) ←
          expect (guard.svm.processInstruction ix guard.accounts)
        overwrite place
          (.harness
            { svm
              accounts := result.outcome.resultingAccounts })
        let context ← environment
        let outcome ←
          allocate context.allocator (.outcome (.ofResult result))
        pure (some outcome)
  | _, _ => pure none

/-- The accessors of an outcome answer for a null handle as for none. -/
def readOutcome {α : Type} (handle : Handle) (whenNull : α)
    (read : ℕ → FfiOutcome → Ffi ε α) : Ffi ε α :=
  match handle with
  | none => pure whenNull
  | some place => do
      let outcome ← outcome place
      read place outcome

/-- `hopper_svm_outcome_is_error`. -/
def hopperSvmOutcomeIsError (handle : Handle) : Ffi ε Bool :=
  readOutcome handle false fun _ outcome =>
    pure outcome.errorMessage.isSome

/-- `hopper_svm_outcome_error_message`. -/
def hopperSvmOutcomeErrorMessage (handle : Handle) :
    Ffi ε HopperFfiString :=
  readOutcome handle { ptr := none, len := 0 } fun _ outcome =>
    fromString (outcome.errorMessage.getD "")

/-- `hopper_svm_outcome_consumed_units`. -/
def hopperSvmOutcomeConsumedUnits (handle : Handle) : Ffi ε UInt64 :=
  readOutcome handle 0 fun _ outcome => pure outcome.consumedUnits

/-- `hopper_svm_outcome_transaction_fee_paid`. -/
def hopperSvmOutcomeTransactionFeePaid (handle : Handle) :
    Ffi ε UInt64 :=
  readOutcome handle 0 fun _ outcome => pure outcome.transactionFeePaid

/-- `hopper_svm_outcome_log_count`. -/
def hopperSvmOutcomeLogCount (handle : Handle) : Ffi ε ℕ :=
  readOutcome handle 0 fun _ outcome => pure outcome.logs.length

/-- `hopper_svm_outcome_log_at`. -/
def hopperSvmOutcomeLogAt (handle : Handle) (index : ℕ) :
    Ffi ε HopperFfiString :=
  readOutcome handle { ptr := none, len := 0 } fun _ outcome =>
    fromString (outcome.logs[index]?.getD "")

/-- `hopper_svm_outcome_account_count`. -/
def hopperSvmOutcomeAccountCount (handle : Handle) : Ffi ε ℕ :=
  readOutcome handle 0 fun _ outcome => pure outcome.postAccounts.length

/-- The zeroed `FfiAccount`. -/
def zeroAccount : FfiAccount :=
  { address := List.replicate 32 0
    owner := List.replicate 32 0
    lamports := 0
    dataPtr := none
    dataLen := 0
    executable := false
    rentEpoch := 0 }

/-- `hopper_svm_outcome_account_at`. -/
def hopperSvmOutcomeAccountAt (handle : Handle) (index : ℕ) :
    Ffi ε FfiAccount :=
  readOutcome handle zeroAccount fun place outcome =>
    match outcome.postAccounts[index]? with
    | none => pure zeroAccount
    | some account =>
        pure
          { address := account.address.bytes
            owner := account.owner.bytes
            lamports := account.lamports
            dataPtr := some { place, index }
            dataLen := account.data.length
            executable := account.executable
            rentEpoch := account.rentEpoch }

/-- `hopper_svm_outcome_return_data`, with what it leaves in the buffer. -/
def hopperSvmOutcomeReturnData (handle : Handle) (outPtr : Pointer)
    (outLen : ℕ) : Ffi ε (ℕ × Pointer) :=
  readOutcome handle (0, outPtr) fun _ outcome =>
    if outcome.returnData = [] then
      pure (0, outPtr)
    else do
      let buffer ← copyOut outcome.returnData outPtr outLen
      pure (outcome.returnData.length, buffer)

/-- `hopper_svm_outcome_free`. -/
def hopperSvmOutcomeFree (handle : Handle) : Ffi ε Unit :=
  match handle with
  | none => pure ()
  | some place => do
      let _ ← outcome place
      release place

/-- The bytes behind a string of the library. -/
def stringBytes (place len : ℕ) : Ffi ε ByteArray := do
  let bytes ← string place
  expect (if len ≤ bytes.size then some (bytes.extract 0 len) else none)

/-- The bytes behind the data pointer of an account. -/
def dataBytes (ptr : DataPointer) (len : ℕ) : Ffi ε (List UInt8) := do
  let outcome ← outcome ptr.place
  let account ← expect outcome.postAccounts[ptr.index]?
  fromRawParts (some account.data) len

end Ffi

end Hopper
