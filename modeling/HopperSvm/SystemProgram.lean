import HopperSvm.Nonce

namespace Hopper

def systemProgramCost : UInt64 := 150

namespace SystemProgram

open Bytes Routine Words

/-- Body: lamports, space, owner.  Slot 0 funds the new account in slot 1. -/
def createAccount (body : List UInt8) : Routine Unit := do
  rejectBuiltin (body.length < 48)
    s!"system::CreateAccount: body too short ({body.length} bytes, need 48)"
  let lamports ← readU64 body 0
  let space ← readU64 body 8
  let owner ← readPubkey body 16
  requireSlots 2
  let funder ← slot 0
  let target ← slot 1
  requireSigner funder.address
  requireSigner target.address
  requireWritable funder.address
  requireWritable target.address
  requireFunds funder lamports
  rejectBuiltin (target.lamports ≠ 0 ∨ target.data ≠ [])
    "system::CreateAccount: target already initialised"
  let data ← zeroed space
  writeSlot 0 fun account =>
    { account with lamports := account.lamports - lamports }
  writeSlot 1 fun account =>
    { account with lamports, data, owner, executable := false }
  log
    s!"system::CreateAccount: {funder.address} -> {target.address} ({lamports} lamports, {space} bytes, owner {owner})"

/-- Body: owner. -/
def assign (body : List UInt8) : Routine Unit := do
  rejectBuiltin (body.length < 32) "system::Assign: body too short"
  let newOwner ← readPubkey body 0
  requireSlots 1
  let account ← slot 0
  requireSigner account.address
  requireWritable account.address
  writeSlot 0 fun account => { account with owner := newOwner }
  log s!"system::Assign: {account.address} -> owner {newOwner}"

/-- Body: lamports.  From slot 0 to slot 1. -/
def transfer (body : List UInt8) : Routine Unit := do
  rejectBuiltin (body.length < 8) "system::Transfer: body too short"
  let lamports ← readU64 body 0
  requireSlots 2
  let source ← slot 0
  let destination ← slot 1
  requireSigner source.address
  requireWritable source.address
  requireWritable destination.address
  rejectBuiltin (source.owner ≠ systemProgramId)
    s!"system::Transfer: source {source.address} not owned by system program (owner={source.owner})"
  requireFunds source lamports
  writeSlot 0 fun account =>
    { account with lamports := account.lamports - lamports }
  writeSlot 1 fun account =>
    { account with lamports := saturatingAdd account.lamports lamports }
  log
    s!"system::Transfer: {source.address} -> {destination.address} ({lamports} lamports)"

/-- Body: space. -/
def allocate (body : List UInt8) : Routine Unit := do
  rejectBuiltin (body.length < 8) "system::Allocate: body too short"
  let space ← readU64 body 0
  requireSlots 1
  let account ← slot 0
  requireSigner account.address
  requireWritable account.address
  rejectBuiltin (account.data ≠ [])
    "system::Allocate: account already has data"
  let data ← zeroed space
  writeSlot 0 fun account => { account with data }
  log s!"system::Allocate: {account.address} -> {space} bytes"

/-- Body: base, seed length, seed, lamports, space, owner.  Slot 0 funds the
account in slot 1, whose address the base, seed and owner derive. -/
def createAccountWithSeed (crates : Crates) (body : List UInt8) :
    Routine Unit := do
  rejectBuiltin (body.length < 40)
    s!"system::CreateAccountWithSeed: body too short ({body.length} bytes)"
  let base ← readPubkey body 0
  let seedLen ← readU64 body 32
  let afterSeed ← addUsize 40 seedLen.toNat
  let needed ← addUsize afterSeed 48
  rejectBuiltin (body.length < needed)
    s!"system::CreateAccountWithSeed: body too short for seed_len={seedLen} ({body.length} bytes)"
  let seedBytes ← slice body 40 afterSeed
  let seed ← orBuiltin (strFromUtf8 seedBytes) fun err =>
    s!"system::CreateAccountWithSeed: seed not valid UTF-8: {err}"
  let lamports ← readU64 body afterSeed
  let space ← readU64 body (afterSeed + 8)
  let owner ← readPubkey body (afterSeed + 16)
  requireSlots 2
  let funder ← slot 0
  let target ← slot 1
  let derived ← orBuiltin (crates.createWithSeed base seed owner) fun err =>
    s!"system::CreateAccountWithSeed: derive failed: {err}"
  rejectBuiltin (derived ≠ target.address)
    s!"system::CreateAccountWithSeed: address mismatch (got {target.address}, derived {derived})"
  requireSigner funder.address
  requireWritable funder.address
  requireWritable target.address
  if base ≠ funder.address then
    requireSigner base
  requireFunds funder lamports
  rejectBuiltin (target.lamports ≠ 0 ∨ target.data ≠ [])
    "system::CreateAccountWithSeed: target already initialised"
  let data ← zeroed space
  writeSlot 0 fun account =>
    { account with lamports := account.lamports - lamports }
  writeSlot 1 fun account =>
    { account with lamports, data, owner, executable := false }
  log
    s!"system::CreateAccountWithSeed: {target.address} from base {base} seed {crates.debugStr seed} ({lamports} lamports, {space} bytes, owner {owner})"

/-- Body: base, seed length, seed, owner. -/
def assignWithSeed (crates : Crates) (body : List UInt8) :
    Routine Unit := do
  rejectBuiltin (body.length < 40)
    "system::AssignWithSeed: body too short"
  let base ← readPubkey body 0
  let seedLen ← readU64 body 32
  let afterSeed ← addUsize 40 seedLen.toNat
  let needed ← addUsize afterSeed 32
  rejectBuiltin (body.length < needed)
    "system::AssignWithSeed: body too short for seed"
  let seedBytes ← slice body 40 afterSeed
  let seed ← orBuiltin (strFromUtf8 seedBytes) fun err =>
    s!"system::AssignWithSeed: seed not UTF-8: {err}"
  let owner ← readPubkey body afterSeed
  requireSlots 2
  let target ← slot 0
  requireWritable target.address
  requireSigner base
  let derived ← orBuiltin (crates.createWithSeed base seed owner) fun err =>
    s!"system::AssignWithSeed: derive failed: {err}"
  rejectBuiltin (derived ≠ target.address)
    s!"system::AssignWithSeed: address mismatch (got {target.address}, derived {derived})"
  writeSlot 0 fun account => { account with owner }
  log s!"system::AssignWithSeed: {target.address} -> owner {owner}"

/-- Body: lamports, seed length, seed, owner.  From slot 0, which the base
in slot 1 derives, to slot 2. -/
def transferWithSeed (crates : Crates) (body : List UInt8) :
    Routine Unit := do
  rejectBuiltin (body.length < 16)
    "system::TransferWithSeed: body too short"
  let lamports ← readU64 body 0
  let seedLen ← readU64 body 8
  let afterSeed ← addUsize 16 seedLen.toNat
  let needed ← addUsize afterSeed 32
  rejectBuiltin (body.length < needed)
    "system::TransferWithSeed: body too short for seed"
  let seedBytes ← slice body 16 afterSeed
  let seed ← orBuiltin (strFromUtf8 seedBytes) fun err =>
    s!"system::TransferWithSeed: seed not UTF-8: {err}"
  let fromOwner ← readPubkey body afterSeed
  requireSlots 3
  let source ← slot 0
  let fromBase ← slot 1
  let destination ← slot 2
  requireWritable source.address
  requireWritable destination.address
  requireSigner fromBase.address
  let derived ←
    orBuiltin (crates.createWithSeed fromBase.address seed fromOwner)
      fun err => s!"system::TransferWithSeed: derive failed: {err}"
  rejectBuiltin (derived ≠ source.address)
    s!"system::TransferWithSeed: address mismatch (got {source.address}, derived {derived})"
  requireFunds source lamports
  writeSlot 0 fun account =>
    { account with lamports := account.lamports - lamports }
  writeSlot 2 fun account =>
    { account with lamports := saturatingAdd account.lamports lamports }
  log
    s!"system::TransferWithSeed: {source.address} -> {destination.address} ({lamports} lamports, base {fromBase.address})"

/-- `ctx.sysvars.clock.slot`. -/
def clockSlot : Routine UInt64 := do
  let context ← environment
  pure context.sysvars.clock.slot

/-- Body: authority. -/
def initializeNonceAccount (crates : Crates) (body : List UInt8) :
    Routine Unit := do
  rejectBuiltin (body.length < 32)
    "system::InitializeNonceAccount: body too short"
  let authority ← readPubkey body 0
  requireSlots 1
  let nonce ← slot 0
  requireWritable nonce.address
  rejectBuiltin (nonce.data.length < nonceStateBytes)
    s!"system::InitializeNonceAccount: account data {nonce.data.length} bytes < required {nonceStateBytes}"
  let stored ← readNonceState nonce.data
  rejectBuiltin (stored.initialized = true)
    s!"system::InitializeNonceAccount: {nonce.address} already initialised"
  let now ← clockSlot
  writeSlot 0 fun account =>
    { account with
      data :=
        writeNonceState account.data
          { initialized := true
            authority
            durableNonce := synthesiseNonceFromSlot crates now
            lamportsPerSignature := nonceDefaultFee }
      owner := systemProgramId }
  log
    s!"system::InitializeNonceAccount: {nonce.address} authority={authority}"

/-- Slot 2 is the authority; the body is not read. -/
def advanceNonceAccount (crates : Crates) : Routine Unit := do
  requireSlots 3
  let nonce ← slot 0
  let authority ← slot 2
  requireWritable nonce.address
  requireSigner authority.address
  let stored ← readNonceState nonce.data
  rejectBuiltin (stored.initialized = false)
    s!"system::AdvanceNonceAccount: {nonce.address} not initialised"
  rejectBuiltin (stored.authority ≠ authority.address)
    s!"system::AdvanceNonceAccount: signer {authority.address} != stored authority {stored.authority}"
  let now ← clockSlot
  writeSlot 0 fun account =>
    { account with
      data :=
        writeNonceState account.data
          { stored with
            initialized := true
            durableNonce := synthesiseNonceFromSlot crates now } }
  log s!"system::AdvanceNonceAccount: {nonce.address} (slot {now})"

/-- Body: lamports.  From slot 0 to slot 1; slot 4 is the authority, which
an uninitialised account does not check. -/
def withdrawNonceAccount (body : List UInt8) : Routine Unit := do
  rejectBuiltin (body.length < 8)
    "system::WithdrawNonceAccount: body too short"
  let lamports ← readU64 body 0
  requireSlots 5
  let nonce ← slot 0
  let destination ← slot 1
  let authority ← slot 4
  requireWritable nonce.address
  requireWritable destination.address
  requireSigner authority.address
  let stored ← readNonceState nonce.data
  rejectBuiltin
    (stored.initialized = true ∧ stored.authority ≠ authority.address)
    s!"system::WithdrawNonceAccount: signer {authority.address} != stored authority {stored.authority}"
  requireFunds nonce lamports
  writeSlot 0 fun account =>
    { account with lamports := account.lamports - lamports }
  writeSlot 1 fun account =>
    { account with lamports := saturatingAdd account.lamports lamports }
  log
    s!"system::WithdrawNonceAccount: {nonce.address} -> {destination.address} ({lamports} lamports)"

/-- Body: the new authority.  Slot 1 is the stored one. -/
def authorizeNonceAccount (body : List UInt8) : Routine Unit := do
  rejectBuiltin (body.length < 32)
    "system::AuthorizeNonceAccount: body too short"
  let newAuthority ← readPubkey body 0
  requireSlots 2
  let nonce ← slot 0
  let authority ← slot 1
  requireWritable nonce.address
  requireSigner authority.address
  let stored ← readNonceState nonce.data
  rejectBuiltin (stored.initialized = false)
    s!"system::AuthorizeNonceAccount: {nonce.address} not initialised"
  rejectBuiltin (stored.authority ≠ authority.address)
    s!"system::AuthorizeNonceAccount: signer {authority.address} != stored authority {stored.authority}"
  writeSlot 0 fun account =>
    { account with
      data :=
        writeNonceState account.data
          { stored with
            initialized := true
            authority := newAuthority } }
  log
    s!"system::AuthorizeNonceAccount: {nonce.address} -> authority {newAuthority}"

/-- Rewrite the version tag; the body is not read. -/
def upgradeNonceAccount : Routine Unit := do
  requireSlots 1
  let nonce ← slot 0
  requireWritable nonce.address
  if 4 ≤ nonce.data.length then
    writeSlot 0 fun account =>
      { account with
        data := copyInto account.data 0 (leBytes 4 nonceTagVersions) }
  log
    s!"system::UpgradeNonceAccount: {nonce.address} (already current; no-op)"

/-- `SystemProgram::invoke`. -/
def invoke (crates : Crates) (data : List UInt8) : Routine Unit := do
  rejectBuiltin (data.length < 4)
    s!"system: instruction data too short ({data.length} bytes, need ≥ 4 for tag)"
  let tag ← readU32 data 0
  let body := data.drop 4
  match tag.toNat with
  | 0 => createAccount body
  | 1 => assign body
  | 2 => transfer body
  | 3 => createAccountWithSeed crates body
  | 4 => advanceNonceAccount crates
  | 5 => withdrawNonceAccount body
  | 6 => initializeNonceAccount crates body
  | 7 => authorizeNonceAccount body
  | 8 => allocate body
  | 9 => assignWithSeed crates body
  | 10 => transferWithSeed crates body
  | 11 => upgradeNonceAccount
  | other =>
      rejectBuiltin True
        s!"system: variant tag {other} not recognised (supported: 0/CreateAccount, 1/Assign, 2/Transfer, 3/CreateAccountWithSeed, 4/AdvanceNonceAccount, 5/WithdrawNonceAccount, 6/InitializeNonceAccount, 7/AuthorizeNonceAccount, 8/Allocate, 9/AssignWithSeed, 10/TransferWithSeed, 11/UpgradeNonceAccount)"

end SystemProgram

/-- `SystemProgram`. -/
def systemProgram (crates : Crates) : BuiltinProgram :=
  .ofRoutine "system" (fun _ => systemProgramCost)
    (SystemProgram.invoke crates)

end Hopper
