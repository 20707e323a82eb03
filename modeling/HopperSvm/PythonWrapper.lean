import HopperSvm.BindingAddresses
import HopperSvm.Ffi

/-!
`HopperSvm` and `ExecutionResult` each wrap one handle.  A method is a
function of the handle its object holds; `World` holds the handles of all
objects of a program and the library's memory, and `World.call` runs one
call of the program.  Object lifetimes are the program's: a destructor and
the end of a `with` block are calls of `close` like any other.
-/

namespace Hopper

open Boxes Procedure

namespace PythonBinding

inductive PythonError where
  | runtimeError (message : String)
  | valueError (message : String)
  | overflowError (number : ℤ)
  deriving DecidableEq

/-- `Union[Pubkey, bytes]`. -/
inductive PubkeyLike where
  | pubkey (address : Pubkey)
  | bytes (raw : List UInt8)

/-- `_to_pubkey_bytes`. -/
def toPubkeyBytes : PubkeyLike → Except PythonError (List UInt8)
  | .pubkey address => .ok address.bytes
  | .bytes raw =>
      if raw.length ≠ 32 then
        .error
          (.valueError s!"pubkey: expected 32 bytes, got {raw.length}")
      else
        .ok raw

/-- `Pubkey(raw)`. -/
def newPubkey (raw : List UInt8) : Except PythonError Pubkey :=
  (pubkey raw).mapError fun _ =>
    .valueError s!"Pubkey: expected 32 bytes, got {raw.length}"

/-- A Python integer as a `uint64_t` argument. -/
def toUint64 (number : ℤ) : Except PythonError UInt64 :=
  if 0 ≤ number ∧ number < 2 ^ 64 then
    .ok (UInt64.ofNat number.toNat)
  else
    .error (.overflowError number)

/-- The dataclass `AccountMeta`. -/
structure MetaLike where
  pubkey : PubkeyLike
  isSigner : Bool
  isWritable : Bool

/-- The dataclass `Instruction`; its lists are no longer than a list can
be. -/
structure InstructionLike where
  programId : PubkeyLike
  accounts : List MetaLike
  data : List UInt8
  accounts_length : accounts.length < 2 ^ 64 := by simp

/-- The loop that fills the array of metas. -/
def fillMetas : List MetaLike → Except PythonError (List FfiAccountMeta)
  | [] => .ok []
  | listed :: rest => do
      let buf ← toPubkeyBytes listed.pubkey
      let later ← fillMetas rest
      .ok
        ({ pubkeyPtr := some buf
           isSigner := listed.isSigner
           isWritable := listed.isWritable } :: later)

/-- `ffi.new("uint8_t[]", data) if data else ffi.NULL`. -/
def dataBuf (data : List UInt8) : Pointer :=
  if data = [] then none else some data

/-- `_read_ffi_string`.  The decoder's replacement of malformed bytes is
left out: the library's strings are well formed. -/
def readFfiString (text : HopperFfiString) : Ffi PythonError String :=
  match text.ptr with
  | none => pure ""
  | some place =>
      if text.len = 0 then
        pure ""
      else do
        let raw ← Ffi.stringBytes place text.len
        let decoded ← expect (String.fromUTF8? raw)
        Ffi.hopperSvmStringFree text
        pure decoded

/-- `_require_open`. -/
def requireOpen (handle : Handle) (message : String) :
    Ffi PythonError Unit :=
  rejectIf (handle = none) (.runtimeError message)

namespace Svm

def closedMessage : String := "hopper-svm: handle closed"

/-- `HopperSvm.__init__`. -/
def init : Ffi PythonError Handle := do
  let handle ← Ffi.hopperSvmNew
  rejectIf (handle = none)
    (.runtimeError "hopper-svm: hopper_svm_new returned NULL")
  pure handle

/-- `HopperSvm.with_solana_runtime`. -/
def withSolanaRuntime : Ffi PythonError Handle := do
  let handle ← init
  Ffi.hopperSvmWithSolanaRuntime handle
  pure handle

/-- `HopperSvm.close`. -/
def close (handle : Handle) : Ffi PythonError Handle :=
  if handle = none then
    pure none
  else do
    Ffi.hopperSvmFree handle
    pure none

/-- `HopperSvm.set_compute_budget`. -/
def setComputeBudget (handle : Handle) (units : ℤ) :
    Ffi PythonError Unit := do
  requireOpen handle closedMessage
  let units ← ofExcept (toUint64 units)
  Ffi.hopperSvmSetComputeBudget handle units

/-- `HopperSvm.set_account`. -/
def setAccount (handle : Handle) (address : PubkeyLike) (lamports : ℤ)
    (owner : PubkeyLike) (data : List UInt8) (executable : Bool) :
    Ffi PythonError Unit := do
  requireOpen handle closedMessage
  let addrBytes ← ofExcept (toPubkeyBytes address)
  let ownerBytes ← ofExcept (toPubkeyBytes owner)
  let lamports ← ofExcept (toUint64 lamports)
  let ok ←
    Ffi.hopperSvmSetAccount handle (some addrBytes) lamports
      (some ownerBytes) (dataBuf data) data.length executable
  rejectIf (ok = false) (.runtimeError "hopper-svm: set_account failed")

/-- `HopperSvm.get_lamports`. -/
def getLamports (handle : Handle) (address : PubkeyLike) :
    Ffi PythonError (Option ℕ) := do
  requireOpen handle closedMessage
  let addrBytes ← ofExcept (toPubkeyBytes address)
  let value ← Ffi.hopperSvmGetLamports handle (some addrBytes)
  pure (if value = 0xFFFFFFFFFFFFFFFF then none else some value)

/-- `HopperSvm.dispatch`: the handle that the result wraps. -/
def dispatch (handle : Handle) (ix : InstructionLike) :
    Ffi PythonError Handle := do
  requireOpen handle closedMessage
  let programIdBuf ← ofExcept (toPubkeyBytes ix.programId)
  let metas ← ofExcept (fillMetas ix.accounts)
  let outcomeHandle ←
    Ffi.hopperSvmDispatch handle (some programIdBuf) (some metas)
      ix.accounts.length (dataBuf ix.data) ix.data.length
  rejectIf (outcomeHandle = none)
    (.runtimeError "hopper-svm: dispatch returned NULL")
  pure outcomeHandle

end Svm

namespace ExecutionResult

def closedMessage : String := "hopper-svm: outcome closed"

/-- `ExecutionResult.close`. -/
def close (handle : Handle) : Ffi PythonError Handle :=
  if handle = none then
    pure none
  else do
    Ffi.hopperSvmOutcomeFree handle
    pure none

/-- `ExecutionResult.is_error`. -/
def isError (handle : Handle) : Ffi PythonError Bool := do
  requireOpen handle closedMessage
  Ffi.hopperSvmOutcomeIsError handle

/-- `ExecutionResult.is_success`. -/
def isSuccess (handle : Handle) : Ffi PythonError Bool := do
  let failed ← isError handle
  pure !failed

/-- `ExecutionResult.error_message`. -/
def errorMessage (handle : Handle) : Ffi PythonError String := do
  requireOpen handle closedMessage
  let text ← Ffi.hopperSvmOutcomeErrorMessage handle
  readFfiString text

/-- `ExecutionResult.consumed_units`. -/
def consumedUnits (handle : Handle) : Ffi PythonError ℕ := do
  requireOpen handle closedMessage
  let units ← Ffi.hopperSvmOutcomeConsumedUnits handle
  pure units.toNat

/-- `ExecutionResult.transaction_fee_paid`. -/
def transactionFeePaid (handle : Handle) : Ffi PythonError ℕ := do
  requireOpen handle closedMessage
  let fee ← Ffi.hopperSvmOutcomeTransactionFeePaid handle
  pure fee.toNat

/-- `[.. for i in range(n)]` in `logs`, from an index on. -/
def logsFrom (handle : Handle) (index : ℕ) :
    ℕ → Ffi PythonError (List String)
  | 0 => pure []
  | count + 1 => do
      let raw ← Ffi.hopperSvmOutcomeLogAt handle index
      let text ← readFfiString raw
      let later ← logsFrom handle (index + 1) count
      pure (text :: later)

/-- `ExecutionResult.logs`. -/
def logs (handle : Handle) : Ffi PythonError (List String) := do
  requireOpen handle closedMessage
  let count ← Ffi.hopperSvmOutcomeLogCount handle
  logsFrom handle 0 count

/-- `bytes(ffi.buffer(..)[:]) if a.data_len > 0 else b""`. -/
def readData (raw : FfiAccount) : Ffi PythonError (List UInt8) :=
  if 0 < raw.dataLen then do
    let ptr ← expect raw.dataPtr
    Ffi.dataBytes ptr raw.dataLen
  else
    pure []

/-- The body of the loop in `accounts`. -/
def readAccount (raw : FfiAccount) : Ffi PythonError KeyedAccount := do
  let data ← readData raw
  let address ← ofExcept (newPubkey raw.address)
  let owner ← ofExcept (newPubkey raw.owner)
  pure
    { address
      lamports := raw.lamports
      data
      owner
      executable := raw.executable
      rentEpoch := raw.rentEpoch }

/-- The loop in `accounts`, from an index on. -/
def accountsFrom (handle : Handle) (index : ℕ) :
    ℕ → Ffi PythonError (List KeyedAccount)
  | 0 => pure []
  | count + 1 => do
      let raw ← Ffi.hopperSvmOutcomeAccountAt handle index
      let account ← readAccount raw
      let later ← accountsFrom handle (index + 1) count
      pure (account :: later)

/-- `ExecutionResult.accounts`. -/
def accounts (handle : Handle) : Ffi PythonError (List KeyedAccount) := do
  requireOpen handle closedMessage
  let count ← Ffi.hopperSvmOutcomeAccountCount handle
  accountsFrom handle 0 count

/-- `ExecutionResult.return_data`: probe the length, then fill a buffer. -/
def returnData (handle : Handle) : Ffi PythonError (List UInt8) := do
  requireOpen handle closedMessage
  let probe ← Ffi.hopperSvmOutcomeReturnData handle none 0
  if probe.1 = 0 then
    pure []
  else do
    let filled ←
      Ffi.hopperSvmOutcomeReturnData handle
        (some (List.replicate probe.1 0)) probe.1
    Ffi.fromRawParts filled.2 probe.1

end ExecutionResult

/-! ## Programs -/

inductive Kind where
  | svm
  | result
  deriving DecidableEq

/-- An object of the program: its class, and its place among the objects of
that class. -/
structure ObjectId where
  kind : Kind
  number : ℕ
  deriving DecidableEq

/-- A reading method of `ExecutionResult`. -/
inductive Question where
  | isError
  | isSuccess
  | errorMessage
  | consumedUnits
  | transactionFeePaid
  | logs
  | accounts
  | returnData

/-- A call that a program makes on one of its objects. -/
inductive Call where
  | newSvm
  | newWithSolanaRuntime
  | setComputeBudget (svm : ℕ) (units : ℤ)
  | setAccount (svm : ℕ) (address : PubkeyLike) (lamports : ℤ)
      (owner : PubkeyLike) (data : List UInt8) (executable : Bool)
  | getLamports (svm : ℕ) (address : PubkeyLike)
  | dispatch (svm : ℕ) (ix : InstructionLike)
  | ask (result : ℕ) (question : Question)
  | close (object : ObjectId)

/-- What a call returns. -/
inductive Reply where
  | done
  | object (object : ObjectId)
  | flag (value : Bool)
  | number (value : ℕ)
  | balance (value : Option ℕ)
  | text (value : String)
  | texts (values : List String)
  | accounts (values : List KeyedAccount)
  | bytes (values : List UInt8)

/-- The answer of an `ExecutionResult` with a handle. -/
def Question.method (handle : Handle) : Question → Ffi PythonError Reply
  | .isError => do
      let value ← ExecutionResult.isError handle
      pure (.flag value)
  | .isSuccess => do
      let value ← ExecutionResult.isSuccess handle
      pure (.flag value)
  | .errorMessage => do
      let value ← ExecutionResult.errorMessage handle
      pure (.text value)
  | .consumedUnits => do
      let value ← ExecutionResult.consumedUnits handle
      pure (.number value)
  | .transactionFeePaid => do
      let value ← ExecutionResult.transactionFeePaid handle
      pure (.number value)
  | .logs => do
      let values ← ExecutionResult.logs handle
      pure (.texts values)
  | .accounts => do
      let values ← ExecutionResult.accounts handle
      pure (.accounts values)
  | .returnData => do
      let values ← ExecutionResult.returnData handle
      pure (.bytes values)

/-- The memory of the library, the handles the objects hold, and how many
objects of each class were created. -/
structure World where
  memory : Memory Cell
  handles : ObjectId → Handle
  created : Kind → ℕ

def World.start : World :=
  { memory := .empty Cell
    handles := fun _ => none
    created := fun _ => 0 }

namespace World

variable (context : FfiEnvironment) (world : World)

/-- A method that leaves the handles. -/
def answer (method : Ffi PythonError Reply) :
    Option (Except PythonError Reply × World) :=
  (method context world.memory).map fun ended =>
    (ended.1, { world with memory := ended.2 })

/-- A method whose handle is stored in an object. -/
def assign (object : ObjectId) (reply : Reply)
    (method : Ffi PythonError Handle) :
    Option (Except PythonError Reply × World) :=
  (method context world.memory).map fun
    | (.ok handle, memory) =>
        (.ok reply,
          { world with
            memory
            handles := Function.update world.handles object handle })
    | (.error err, memory) => (.error err, { world with memory })

/-- The next object of a class. -/
def next (kind : Kind) : ObjectId :=
  { kind
    number := world.created kind }

/-- A method whose handle a new object wraps. -/
def wrap (kind : Kind) (method : Ffi PythonError Handle) :
    Option (Except PythonError Reply × World) :=
  (world.assign context (world.next kind) (.object (world.next kind))
    method).map fun
    | (.ok reply, world') =>
        (.ok reply,
          { world' with
            created :=
              Function.update world.created kind
                (world.created kind + 1) })
    | (.error err, world') => (.error err, world')

/-- The handle of a harness object. -/
def svmHandle (svm : ℕ) : Handle :=
  world.handles
    { kind := .svm
      number := svm }

/-- Run a call. -/
def call : Call → Option (Except PythonError Reply × World)
  | .newSvm => world.wrap context .svm Svm.init
  | .newWithSolanaRuntime => world.wrap context .svm Svm.withSolanaRuntime
  | .setComputeBudget svm units =>
      world.answer context do
        Svm.setComputeBudget (world.svmHandle svm) units
        pure .done
  | .setAccount svm address lamports owner data executable =>
      world.answer context do
        Svm.setAccount (world.svmHandle svm) address lamports owner data
          executable
        pure .done
  | .getLamports svm address =>
      world.answer context do
        let value ← Svm.getLamports (world.svmHandle svm) address
        pure (.balance value)
  | .dispatch svm ix =>
      world.wrap context .result (Svm.dispatch (world.svmHandle svm) ix)
  | .ask result question =>
      world.answer context
        (question.method
          (world.handles
            { kind := .result
              number := result }))
  | .close object =>
      world.assign context object .done
        (match object.kind with
        | .svm => Svm.close (world.handles object)
        | .result => ExecutionResult.close (world.handles object))

/-- Run the calls of a program, with what each returns or raises. -/
def run (context : FfiEnvironment) : World → List Call →
    Option (List (Except PythonError Reply) × World)
  | world, [] => some ([], world)
  | world, call :: rest => do
      let (reply, world) ← world.call context call
      let (replies, world) ← run context world rest
      some (reply :: replies, world)

end World

end PythonBinding

end Hopper
