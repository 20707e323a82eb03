import HopperSvm.Engine

/-!
How an instruction and an account list are translated for the runtime, and
how its answer is translated back.  The runtime itself (with the program
cache and feature set an engine carries) is linked code outside this
repository and enters as a function of the request it is handed.
-/

namespace Hopper

/-- `bpf_loader::id()`. -/
def bpfLoaderId : Pubkey :=
  ⟨[2, 168, 246, 145, 78, 136, 161, 110, 57, 90, 225, 40, 148, 143, 250,
      105, 86, 147, 55, 104, 24, 221, 71, 67, 82, 33, 243, 198, 0, 0, 0,
      0], rfl⟩

/-- `bpf_loader_upgradeable::id()`. -/
def bpfLoaderUpgradeableId : Pubkey :=
  ⟨[2, 168, 246, 145, 78, 136, 161, 176, 226, 16, 21, 62, 247, 99, 174, 43,
      0, 194, 185, 61, 22, 193, 36, 210, 192, 83, 122, 16, 4, 128, 0,
      0], rfl⟩

/-- `native_loader::id()`. -/
def nativeLoaderId : Pubkey :=
  ⟨[5, 135, 132, 191, 20, 139, 164, 40, 47, 176, 18, 87, 72, 136, 169, 241,
      83, 160, 125, 173, 247, 101, 192, 69, 92, 154, 151, 3, 128, 0, 0,
      0], rfl⟩

/-- An account without its address. -/
structure SolanaAccount where
  lamports : UInt64
  data : List UInt8
  owner : Pubkey
  executable : Bool
  rentEpoch : UInt64
  deriving DecidableEq

/-- `SolanaAccount::default()`. -/
def SolanaAccount.default : SolanaAccount :=
  { lamports := 0
    data := []
    owner := .default
    executable := false
    rentEpoch := 0 }

def KeyedAccount.toTransaction (account : KeyedAccount) :
    Pubkey × SolanaAccount :=
  (account.address,
    { lamports := account.lamports
      data := account.data
      owner := account.owner
      executable := account.executable
      rentEpoch := account.rentEpoch })

def KeyedAccount.ofTransaction (entry : Pubkey × SolanaAccount) :
    KeyedAccount :=
  { address := entry.1
    lamports := entry.2.lamports
    data := entry.2.data
    owner := entry.2.owner
    executable := entry.2.executable
    rentEpoch := entry.2.rentEpoch }

/-- `keys.iter().position(|k| k == key)`. -/
def positionOf (key : Pubkey) (keys : List Pubkey) : Option Nat :=
  keys.findIdx? fun other => other = key

/-- The transaction's accounts with the program's index, a stub appended
when the program account was not supplied. -/
def withProgramAccount (programId stubOwner : Pubkey)
    (accounts : List KeyedAccount) :
    List (Pubkey × SolanaAccount) × UInt16 :=
  let txAccounts := accounts.map KeyedAccount.toTransaction
  match positionOf programId (txAccounts.map Prod.fst) with
  | some index => (txAccounts, UInt16.ofNat index)
  | none =>
      let stub : SolanaAccount :=
        { SolanaAccount.default with
          executable := true
          owner := stubOwner }
      (txAccounts ++ [(programId, stub)],
        UInt16.ofNat txAccounts.length)

inductive AgaveProgramKind where
  | builtin
  | bpfV2
  | bpfV3
  deriving DecidableEq

structure InstructionAccount where
  indexInTransaction : UInt16
  indexInCaller : UInt16
  indexInCallee : UInt16
  isSigner : Bool
  isWritable : Bool
  deriving DecidableEq

/-- What the runtime is handed for one instruction. -/
structure AgaveRequest where
  accounts : List (Pubkey × SolanaAccount)
  instructionAccounts : List InstructionAccount
  programIndices : List UInt16
  data : List UInt8
  sysvars : Sysvars
  computeUnitLimit : UInt64
  lamportsPerSignature : UInt64

/-- Errors of an engine; the runtime's own error is kept as its text. -/
inductive AgaveEngineError where
  | unknownAccount (address : Pubkey)
  | instruction (err : String)
  | context (message : String)
  deriving DecidableEq

def AgaveEngineError.display : AgaveEngineError → String
  | .unknownAccount address =>
      s!"agave-engine: unknown account in instruction meta: {address}"
  | .instruction err => s!"agave-engine: instruction failed: {err}"
  | .context message => s!"agave-engine: {message}"

instance : ToString AgaveEngineError := ⟨AgaveEngineError.display⟩

/-- An engine; `runtime` is the linked code, `none` when it panics. -/
structure AgaveEngine where
  lamportsPerSignature : UInt64
  kinds : Pubkey → Option AgaveProgramKind
  runtime : AgaveRequest →
    Option (Except String (UInt64 × List (Pubkey × SolanaAccount)))

namespace AgaveEngine

def kindFor (engine : AgaveEngine) (id : Pubkey) :
    Option AgaveProgramKind :=
  engine.kinds id

def isRegistered (engine : AgaveEngine) (id : Pubkey) : Bool :=
  (engine.kinds id).isSome

def invocationOwnerFor (engine : AgaveEngine) (id : Pubkey) : Pubkey :=
  match engine.kindFor id with
  | some .bpfV2 => bpfLoaderId
  | some .bpfV3 => bpfLoaderUpgradeableId
  | some .builtin => nativeLoaderId
  | none => nativeLoaderId

/-- Each meta with the index of its account, from slot `index` on. -/
def instructionAccounts (keys : List Pubkey) :
    Nat → List AccountMeta →
      Except AgaveEngineError (List InstructionAccount)
  | _, [] => .ok []
  | index, accountMeta :: rest =>
      match positionOf accountMeta.pubkey keys with
      | none => .error (.unknownAccount accountMeta.pubkey)
      | some position =>
          (instructionAccounts keys (index + 1) rest).map fun later =>
            { indexInTransaction := UInt16.ofNat position
              indexInCaller := UInt16.ofNat position
              indexInCallee := UInt16.ofNat index
              isSigner := accountMeta.isSigner
              isWritable := accountMeta.isWritable } :: later

def processInstructionRaw (engine : AgaveEngine) (ix : Instruction)
    (accounts : List (Pubkey × SolanaAccount))
    (programIndices : List UInt16) (sysvars : Sysvars)
    (computeUnitLimit : UInt64) :
    Option
      (Except AgaveEngineError
        (UInt64 × List (Pubkey × SolanaAccount))) :=
  match instructionAccounts (accounts.map Prod.fst) 0 ix.accounts with
  | .error err => some (.error err)
  | .ok instructionAccounts =>
      (engine.runtime
        { accounts
          instructionAccounts
          programIndices
          data := ix.data
          sysvars
          computeUnitLimit
          lamportsPerSignature := engine.lamportsPerSignature }).map
        (Except.mapError .instruction)

end AgaveEngine

/-- The outcome of a run that a linked engine reports as failed. -/
def linkedFailure (ix : Instruction) (accounts : List KeyedAccount)
    (message : String) : ExecutionOutcome :=
  { resultingAccounts := accounts
    computeUnitsConsumed := 0
    returnData := []
    innerInstructions := []
    error := some (.builtinError ix.programId message) }

/-- The outcome of a run that a linked engine reports as successful: the
accounts whose address the caller knows. -/
def linkedSuccess (known : List Pubkey) (consumed : UInt64)
    (post : List (Pubkey × SolanaAccount)) : ExecutionOutcome :=
  { resultingAccounts :=
      (post.filter fun entry => entry.1 ∈ known).map
        KeyedAccount.ofTransaction
    computeUnitsConsumed := consumed
    returnData := []
    innerInstructions := []
    error := none }

inductive LoaderKind where
  | v2
  | v3
  deriving DecidableEq

def loaderKey : LoaderKind → Pubkey
  | .v2 => bpfLoaderId
  | .v3 => bpfLoaderUpgradeableId

/-- A registered program, with the error its registration ended in. -/
structure LoadedProgram where
  loader : LoaderKind
  loadError : Option String

structure BpfEngine where
  programs : Pubkey → Option LoadedProgram
  agave : AgaveEngine

/-- Run an instruction of a program this engine has registered.  The outer
`none` says that it has not; the inner one is a panic of the runtime. -/
def BpfEngine.tryExecute (engine : BpfEngine) (ix : Instruction)
    (accounts : List KeyedAccount) (budget : ComputeBudget)
    (sysvars : Sysvars) (logs : LogCapture) :
    Option (Option (ExecutionOutcome × LogCapture)) :=
  (engine.programs ix.programId).map fun loaded =>
    let logs := logs.invoke ix.programId
    match loaded.loadError with
    | some loadError =>
        some
          (linkedFailure ix accounts
              s!"bpf-execution compatibility load failed through Agave: {loadError}",
            logs.line s!"Agave BPF loader failed: {loadError}")
    | none =>
        let (txAccounts, programIndex) :=
          withProgramAccount ix.programId (loaderKey loaded.loader)
            accounts
        (engine.agave.processInstructionRaw ix txAccounts [programIndex]
          sysvars budget.limit).map
          fun
          | .ok (cu, post) =>
              (linkedSuccess (addresses accounts) cu post,
                logs.line
                  s!"Program {ix.programId} consumed {cu} compute units (agave-bpf)")
          | .error err =>
              (linkedFailure ix accounts (toString err),
                logs.line s!"agave-bpf: {err}")

end Hopper
