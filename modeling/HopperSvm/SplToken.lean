import HopperSvm.Bundled
import HopperSvm.TokenState

namespace Hopper

def tokenInstructionCu : UInt64 := 4000

/-- Tag, decimals, mint authority and freeze-authority flag. -/
def initializeMintMinLen : ℕ := 1 + 1 + 32 + 1

/-- The delegate has used `amount` of its allowance, and is dropped when
nothing is left. -/
def TokenAccount.spendAllowance (token : TokenAccount)
    (amount : UInt64) : TokenAccount :=
  let delegatedAmount := Words.saturatingSub token.delegatedAmount amount
  { token with
    delegatedAmount
    delegate := if delegatedAmount = 0 then none else token.delegate }

namespace SplToken

open Routine Words

section Records

variable {α : Type} {len : ℕ}

/-- Unpack an account of the running program.  `read_mint` and
`read_token_account` differ in the names they report. -/
def readRecord (pack : Pack α len) (noun record : String)
    (account : KeyedAccount) : Routine α := do
  let context ← environment
  rejectBuiltin (account.owner ≠ context.programId)
    s!"spl-token: {noun} {account.address} is owned by {account.owner} (expected token program)"
  orBuiltin (pack.unpack account.data) fun err =>
    s!"spl-token: {record}::unpack({account.address}): {err}"

/-- Pack over an account's data, over zeros when it has another length. -/
def writeRecord (pack : Pack α len) (index : ℕ) (record : α) :
    Routine Unit := do
  let account ← slot index
  let buffer :=
    if account.data.length = len then
      account.data
    else
      List.replicate len 0
  let packed ← expect (pack.pack record buffer).toOption
  writeSlot index fun account => { account with data := packed }

end Records

variable (codec : TokenCodec)

def readMint (account : KeyedAccount) : Routine Mint :=
  readRecord codec.mint "mint account" "Mint" account

def readTokenAccount (account : KeyedAccount) : Routine TokenAccount :=
  readRecord codec.account "token account" "TokenAccount" account

def writeMint (index : ℕ) (mint : Mint) : Routine Unit :=
  writeRecord codec.mint index mint

def writeTokenAccount (index : ℕ) (token : TokenAccount) : Routine Unit :=
  writeRecord codec.account index token

/-- The freeze authority behind a flag of one, in a body long enough for
it. -/
def readFreezeAuthority (body : List UInt8) : Routine (Option Pubkey) :=
  if 1 + 32 + 1 + 32 ≤ body.length ∧ body[33]? = some 1 then do
    let authority ← readPubkey body 34
    pure (some authority)
  else
    pure none

/-- Body: decimals, mint authority, flag, freeze authority if the flag is
one.  Slot 0 becomes the mint. -/
def initializeMint (body : List UInt8) : Routine Unit := do
  rejectBuiltin (body.length < initializeMintMinLen - 1)
    s!"spl-token::InitializeMint: body too short ({body.length} bytes)"
  requireSlots 1
  let account ← slot 0
  requireWritable account.address
  let decimals ← expect body[0]?
  let mintAuthority ← readPubkey body 1
  let freezeAuthority ← readFreezeAuthority body
  rejectBuiltin (account.data.length < mintLen)
    s!"spl-token::InitializeMint: account data too small ({account.data.length} < {mintLen})"
  rejectBuiltin
    ((codec.mint.unpack account.data).toOption.any Mint.isInitialized)
    s!"spl-token::InitializeMint: {account.address} already initialised"
  writeMint codec 0
    { mintAuthority := some mintAuthority
      supply := 0
      decimals
      isInitialized := true
      freezeAuthority }
  let context ← environment
  writeSlot 0 fun account => { account with owner := context.programId }
  log
    s!"spl-token::InitializeMint: {account.address} (decimals={decimals})"

/-- Slot 0 becomes an account of the mint in slot 1, owned by slot 2; the
body is not read. -/
def initializeAccount : Routine Unit := do
  requireSlots 3
  let account ← slot 0
  requireWritable account.address
  let mintAccount ← slot 1
  let owner ← slot 2
  let mint ← readMint codec mintAccount
  rejectBuiltin (mint.isInitialized = false)
    s!"spl-token::InitializeAccount: mint {mintAccount.address} not initialised"
  rejectBuiltin (account.data.length < tokenAccountLen)
    s!"spl-token::InitializeAccount: account data too small ({account.data.length} < {tokenAccountLen})"
  rejectBuiltin
    ((codec.account.unpack account.data).toOption.any fun existing =>
      existing.state = .initialized)
    s!"spl-token::InitializeAccount: {account.address} already initialised"
  writeTokenAccount codec 0
    { mint := mintAccount.address
      owner := owner.address
      amount := 0
      delegate := none
      state := .initialized
      isNative := none
      delegatedAmount := 0
      closeAuthority := none }
  let context ← environment
  writeSlot 0 fun account => { account with owner := context.programId }
  log
    s!"spl-token::InitializeAccount: {account.address} owner={owner.address} mint={mintAccount.address}"

/-- The owner, or a delegate with enough allowance, signs a transfer. -/
def authorizeTransfer (authority : Pubkey) (amount : UInt64)
    (source : TokenAccount) : Routine TokenAccount :=
  if source.owner = authority then
    pure source
  else
    match source.delegate with
    | some delegate => do
        rejectBuiltin (delegate ≠ authority)
          s!"spl-token::Transfer: signer {authority} is neither owner ({source.owner}) nor delegate ({delegate})"
        rejectBuiltin (source.delegatedAmount < amount)
          s!"spl-token::Transfer: delegated amount {source.delegatedAmount} < requested {amount}"
        pure (source.spendAllowance amount)
    | none => do
        rejectBuiltin True
          s!"spl-token::Transfer: signer {authority} is not the owner ({source.owner}) and no delegate is set"
        pure source

/-- Body: amount.  From slot 0 to slot 1, signed by slot 2. -/
def transfer (body : List UInt8) : Routine Unit := do
  rejectBuiltin (body.length < 8) "spl-token::Transfer: body < 8 bytes"
  let amount ← readU64 body 0
  requireSlots 3
  let sourceAccount ← slot 0
  let destinationAccount ← slot 1
  let authority ← slot 2
  requireWritable sourceAccount.address
  requireWritable destinationAccount.address
  requireSigner authority.address
  let source ← readTokenAccount codec sourceAccount
  let destination ← readTokenAccount codec destinationAccount
  rejectBuiltin (source.state ≠ .initialized)
    s!"spl-token::Transfer: source {sourceAccount.address} not initialised"
  rejectBuiltin (destination.state ≠ .initialized)
    s!"spl-token::Transfer: destination {destinationAccount.address} not initialised"
  rejectBuiltin (source.mint ≠ destination.mint)
    s!"spl-token::Transfer: mint mismatch (src={source.mint} dst={destination.mint})"
  let source ← authorizeTransfer authority.address amount source
  rejectIf (source.amount < amount)
    (.insufficientFunds sourceAccount.address source.amount amount)
  let received ←
    okOrBuiltin (checkedAdd destination.amount amount)
      "spl-token::Transfer: destination amount overflow"
  writeTokenAccount codec 0 { source with amount := source.amount - amount }
  writeTokenAccount codec 1 { destination with amount := received }
  log
    s!"spl-token::Transfer: {sourceAccount.address} -> {destinationAccount.address} amount={amount}"

/-- Body: amount.  Slot 1 may spend it from slot 0, whose owner signs in
slot 2. -/
def approve (body : List UInt8) : Routine Unit := do
  rejectBuiltin (body.length < 8) "spl-token::Approve: body < 8 bytes"
  let amount ← readU64 body 0
  requireSlots 3
  let sourceAccount ← slot 0
  let delegate ← slot 1
  let owner ← slot 2
  requireWritable sourceAccount.address
  requireSigner owner.address
  let source ← readTokenAccount codec sourceAccount
  rejectBuiltin (source.owner ≠ owner.address)
    s!"spl-token::Approve: signer {owner.address} is not the owner ({source.owner}) of {sourceAccount.address}"
  writeTokenAccount codec 0
    { source with
      delegate := some delegate.address
      delegatedAmount := amount }
  log
    s!"spl-token::Approve: {sourceAccount.address} delegate={delegate.address} amount={amount}"

/-- Slot 0's owner signs in slot 1. -/
def revoke : Routine Unit := do
  requireSlots 2
  let sourceAccount ← slot 0
  let owner ← slot 1
  requireWritable sourceAccount.address
  requireSigner owner.address
  let source ← readTokenAccount codec sourceAccount
  rejectBuiltin (source.owner ≠ owner.address)
    s!"spl-token::Revoke: signer {owner.address} is not the owner ({source.owner})"
  writeTokenAccount codec 0
    { source with
      delegate := none
      delegatedAmount := 0 }
  log s!"spl-token::Revoke: {sourceAccount.address}"

/-- Body: amount.  From the mint in slot 0 to slot 1, signed by slot 2. -/
def mintTo (body : List UInt8) : Routine Unit := do
  rejectBuiltin (body.length < 8) "spl-token::MintTo: body < 8 bytes"
  let amount ← readU64 body 0
  requireSlots 3
  let mintAccount ← slot 0
  let destinationAccount ← slot 1
  let authority ← slot 2
  requireWritable mintAccount.address
  requireWritable destinationAccount.address
  requireSigner authority.address
  let mint ← readMint codec mintAccount
  let destination ← readTokenAccount codec destinationAccount
  rejectBuiltin (destination.mint ≠ mintAccount.address)
    s!"spl-token::MintTo: destination mint mismatch (dst.mint={destination.mint} expected={mintAccount.address})"
  let mintAuthority ←
    okOrBuiltin mint.mintAuthority
      s!"spl-token::MintTo: mint {mintAccount.address} has no mint authority"
  rejectBuiltin (mintAuthority ≠ authority.address)
    s!"spl-token::MintTo: signer {authority.address} is not the mint authority ({mintAuthority})"
  let supply ←
    okOrBuiltin (checkedAdd mint.supply amount)
      "spl-token::MintTo: supply overflow"
  let received ←
    okOrBuiltin (checkedAdd destination.amount amount)
      "spl-token::MintTo: destination amount overflow"
  writeMint codec 0 { mint with supply }
  writeTokenAccount codec 1 { destination with amount := received }
  log
    s!"spl-token::MintTo: {mintAccount.address} -> {destinationAccount.address} amount={amount}"

/-- As for a transfer, with one message for both refusals of the
signer. -/
def authorizeBurn (authority : Pubkey) (amount : UInt64)
    (source : TokenAccount) : Routine TokenAccount :=
  if source.owner = authority then
    pure source
  else if source.delegate = some authority then do
    rejectBuiltin (source.delegatedAmount < amount)
      s!"spl-token::Burn: delegated amount {source.delegatedAmount} < requested {amount}"
    pure (source.spendAllowance amount)
  else do
    rejectBuiltin True
      s!"spl-token::Burn: signer {authority} is neither owner nor delegate"
    pure source

/-- Body: amount.  From slot 0, of the mint in slot 1, signed by slot 2. -/
def burn (body : List UInt8) : Routine Unit := do
  rejectBuiltin (body.length < 8) "spl-token::Burn: body < 8 bytes"
  let amount ← readU64 body 0
  requireSlots 3
  let sourceAccount ← slot 0
  let mintAccount ← slot 1
  let authority ← slot 2
  requireWritable sourceAccount.address
  requireWritable mintAccount.address
  requireSigner authority.address
  let source ← readTokenAccount codec sourceAccount
  let mint ← readMint codec mintAccount
  rejectBuiltin (source.mint ≠ mintAccount.address)
    s!"spl-token::Burn: source mint mismatch (src.mint={source.mint} expected={mintAccount.address})"
  let source ← authorizeBurn authority.address amount source
  rejectIf (source.amount < amount)
    (.insufficientFunds sourceAccount.address source.amount amount)
  writeTokenAccount codec 0 { source with amount := source.amount - amount }
  writeMint codec 1 { mint with supply := saturatingSub mint.supply amount }
  log s!"spl-token::Burn: {sourceAccount.address} amount={amount}"

/-- The lamports of the empty account in slot 0 go to slot 1, signed by
slot 2. -/
def closeAccount : Routine Unit := do
  requireSlots 3
  let account ← slot 0
  let destination ← slot 1
  let authority ← slot 2
  requireWritable account.address
  requireWritable destination.address
  requireSigner authority.address
  let token ← readTokenAccount codec account
  rejectBuiltin (token.amount ≠ 0)
    s!"spl-token::CloseAccount: {account.address} non-empty (amount={token.amount})"
  rejectBuiltin
    (token.owner ≠ authority.address ∧
      token.closeAuthority ≠ some authority.address)
    s!"spl-token::CloseAccount: signer {authority.address} is neither owner ({token.owner}) nor close_authority"
  writeSlot 1 fun target =>
    { target with
      lamports := saturatingAdd target.lamports account.lamports }
  writeSlot 0 fun closed =>
    { closed with
      lamports := 0
      data := List.replicate tokenAccountLen 0
      owner := systemProgramId }
  log
    s!"spl-token::CloseAccount: {account.address} -> {destination.address} ({account.lamports} lamports)"

/-- `SplTokenSimulator::invoke`. -/
def invoke (data : List UInt8) : Routine Unit :=
  match data with
  | [] => rejectBuiltin True "spl-token: empty instruction data"
  | tag :: body =>
      match tag.toNat with
      | 0 => initializeMint codec body
      | 1 => initializeAccount codec
      | 3 => transfer codec body
      | 4 => approve codec body
      | 5 => revoke codec
      | 7 => mintTo codec body
      | 8 => burn codec body
      | 9 => closeAccount codec
      | other =>
          rejectBuiltin True
            s!"spl-token: instruction tag {other} not supported by the bundled simulator yet (supported tags: 0/InitializeMint, 1/InitializeAccount, 3/Transfer, 4/Approve, 5/Revoke, 7/MintTo, 8/Burn, 9/CloseAccount)"

end SplToken

/-- `SplTokenSimulator`. -/
def splTokenSimulator (codec : TokenCodec) : BuiltinProgram :=
  .ofRoutine "spl-token (simulated)" (fun _ => tokenInstructionCu)
    (SplToken.invoke codec)

end Hopper
