import HopperSvm.Token2022

namespace Hopper

/-- `ATA_PROGRAM_ID`. -/
def ataProgramId : Pubkey :=
  ⟨[140, 151, 37, 143, 78, 36, 137, 241, 187, 61, 16, 41, 20, 142, 13, 131,
      11, 90, 19, 153, 218, 255, 16, 132, 4, 142, 123, 216, 219, 233, 248,
      89], rfl⟩

def ataInstructionCu : UInt64 := 25000

def ataDefaultLamports : UInt64 := 2039280

/-- `Pubkey::find_program_address`: the address and its bump. -/
abbrev FindProgramAddress : Type :=
  List (List UInt8) → Pubkey → Pubkey × UInt8

namespace AtaProgram

open Routine

/-- `get_associated_token_address_with_program_id`. -/
def associatedTokenAddress (findProgramAddress : FindProgramAddress)
    (wallet mint tokenProgram : Pubkey) : Pubkey :=
  (findProgramAddress [wallet.bytes, tokenProgram.bytes, mint.bytes]
    ataProgramId).1

/-- `let (idempotent, body) = ..`; the body is not read. -/
def readTag : List UInt8 → Routine Bool
  | [] => pure false
  | tag :: _ =>
      if tag = 0 then
        pure false
      else if tag = 1 then
        pure true
      else
        okOrBuiltin none
          s!"spl-ata: unknown tag {tag} (supported: 0/Create, 1/CreateIdempotent)"

/-- The ATA exists: accept it when the instruction is idempotent and the
account is the expected one. -/
def acceptExisting (codec : TokenCodec) (idempotent : Bool)
    (ata : KeyedAccount) (wallet mint tokenProgram : Pubkey) :
    Routine Unit := do
  rejectBuiltin (idempotent = false)
    s!"spl-ata::Create: ATA {ata.address} already exists (use CreateIdempotent if that's expected)"
  rejectBuiltin (ata.owner ≠ tokenProgram)
    s!"spl-ata::CreateIdempotent: ATA {ata.address} exists but is owned by {ata.owner} (expected {tokenProgram})"
  match codec.account.unpack ata.data with
  | .ok token =>
      rejectBuiltin (token.mint ≠ mint ∨ token.owner ≠ wallet)
        s!"spl-ata::CreateIdempotent: existing ATA mismatch (mint={token.mint} expected={mint}, owner={token.owner} expected={wallet})"
  | .error _ => pure ()
  log
    s!"spl-ata::CreateIdempotent: {ata.address} already exists, no-op"

/-- The ATA does not exist: slot 0 funds it, and it becomes a token account
of the wallet. -/
def create (codec : TokenCodec) (funding ata : KeyedAccount)
    (wallet mint tokenProgram : Pubkey) : Routine Unit := do
  requireFunds funding ataDefaultLamports
  let packed ←
    expect
      (codec.account.pack
        { mint
          owner := wallet
          amount := 0
          delegate := none
          state := .initialized
          isNative := none
          delegatedAmount := 0
          closeAuthority := none }
        (List.replicate tokenAccountLen 0)).toOption
  writeSlot 0 fun account =>
    { account with lamports := account.lamports - ataDefaultLamports }
  writeSlot 1 fun account =>
    { account with
      lamports := ataDefaultLamports
      data := packed
      owner := tokenProgram
      executable := false }
  log
    s!"spl-ata::Create: {ata.address} (wallet={wallet}, mint={mint}, token_program={tokenProgram})"

/-- `SplAtaSimulator::invoke`.  Slot 0 funds, slot 1 is the ATA, then come
the wallet, the mint, the system program and the token program. -/
def invoke (codec : TokenCodec) (findProgramAddress : FindProgramAddress)
    (data : List UInt8) : Routine Unit := do
  let idempotent ← readTag data
  requireSlots 6
  let funding ← slot 0
  let ata ← slot 1
  let wallet ← slot 2
  let mint ← slot 3
  let system ← slot 4
  let tokenProgram ← slot 5
  requireSigner funding.address
  requireWritable funding.address
  requireWritable ata.address
  rejectBuiltin (system.address ≠ systemProgramId)
    s!"spl-ata: system program slot is {system.address} (expected {systemProgramId})"
  rejectBuiltin
    (tokenProgram.address ≠ splTokenId ∧
      tokenProgram.address ≠ splToken2022Id)
    s!"spl-ata: token program slot is {tokenProgram.address} (expected spl-token or spl-token-2022)"
  let expected :=
    associatedTokenAddress findProgramAddress wallet.address mint.address
      tokenProgram.address
  rejectBuiltin (ata.address ≠ expected)
    s!"spl-ata: ATA address mismatch (got {ata.address}, derived {expected} from wallet={wallet.address} mint={mint.address} token_program={tokenProgram.address})"
  rejectBuiltin (mint.owner ≠ tokenProgram.address)
    s!"spl-ata: mint {mint.address} is owned by {mint.owner} (expected {tokenProgram.address})"
  if ata.lamports ≠ 0 ∨ ata.data ≠ [] ∨ ata.owner ≠ systemProgramId then
    acceptExisting codec idempotent ata wallet.address mint.address
      tokenProgram.address
  else
    create codec funding ata wallet.address mint.address
      tokenProgram.address

end AtaProgram

/-- `SplAtaSimulator`. -/
def splAtaSimulator (codec : TokenCodec)
    (findProgramAddress : FindProgramAddress) : BuiltinProgram :=
  .ofRoutine "spl-associated-token-account (simulated)"
    (fun _ => ataInstructionCu)
    (AtaProgram.invoke codec findProgramAddress)

end Hopper
