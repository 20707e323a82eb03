import HopperSvm.Bundled
import HopperSvm.Fields

/-!
The administrative slice: set up a vote account, rotate its authorities,
withdraw, and update the identity and the commission.  Only setting up
checks the size of the account; the other handlers panic on data too short
for the fields they touch.
-/

namespace Hopper

/-- `vote::program::id()`. -/
def voteProgramId : Pubkey :=
  ⟨[7, 97, 72, 29, 53, 116, 116, 187, 124, 77, 118, 36, 235, 211, 189, 179,
      216, 53, 94, 115, 209, 16, 67, 252, 13, 163, 83, 128, 0, 0, 0,
      0], rfl⟩

def voteInstructionCu : UInt64 := 3000

def voteStateVersionV3 : UInt32 := 3

def voteAccountHeaderSize : Nat := 112

def authorizedVoterOffset : Nat := 80

namespace VoteProgram

open Bytes Routine Words

/-- `read_version`. -/
def readVersion (data : List UInt8) : UInt32 :=
  if data.length < 4 then 0 else u32At data 0

/-- `require_initialized`. -/
def requireInitialized (data : List UInt8) : Routine Unit :=
  rejectBuiltin (readVersion data = 0) "vote: account not initialized"

/-- `accounts[index].data[start..].copy_from_slice(bytes)` over as many
bytes, panicking out of range. -/
def writeData (index start : Nat) (bytes : List UInt8) :
    Routine Unit := do
  let account ← slot index
  let data ←
    expect <|
      if start + bytes.length ≤ account.data.length then
        some (copyInto account.data start bytes)
      else
        none
  writeSlot index fun account => { account with data }

/-- Body: node, voter, withdrawer, commission.  Slot 0 is the vote
account. -/
def initializeAccount (minimumBalance : Rent → Nat → UInt64)
    (body : List UInt8) : Routine Unit := do
  requireSlots 1
  let vote ← slot 0
  requireWritable vote.address
  rejectBuiltin (vote.data.length < voteAccountHeaderSize)
    s!"vote::InitializeAccount: vote account is {vote.data.length} bytes, need ≥ {voteAccountHeaderSize}"
  rejectBuiltin (readVersion vote.data ≠ 0)
    "vote::InitializeAccount: account already initialized"
  rejectBuiltin (body.length < 97)
    s!"vote::InitializeAccount: body has {body.length} bytes, need 97 (VoteInit)"
  let node ← readPubkey body 0
  let voter ← readPubkey body 32
  let withdrawer ← readPubkey body 64
  let commission := byteAt body 96
  requireSigner node
  let context ← environment
  let rentExempt := minimumBalance context.sysvars.rent vote.data.length
  rejectBuiltin (vote.lamports < rentExempt)
    s!"vote::InitializeAccount: lamports {vote.lamports} < rent-exempt minimum {rentExempt}"
  writeData 0 0 (List.replicate voteAccountHeaderSize 0)
  writeData 0 0 (u32Bytes voteStateVersionV3)
  writeData 0 4 node.bytes
  writeData 0 36 withdrawer.bytes
  writeData 0 68 [commission]
  writeData 0 authorizedVoterOffset voter.bytes
  log
    s!"vote::InitializeAccount: {vote.address} (node={node}, voter={voter}, withdrawer={withdrawer}, commission={commission})"

/-- Body: new authority, role.  Slot 0 is the vote account. -/
def authorize (body : List UInt8) : Routine Unit := do
  requireSlots 1
  let vote ← slot 0
  requireWritable vote.address
  requireInitialized vote.data
  rejectBuiltin (body.length < 36)
    s!"vote::Authorize: body has {body.length} bytes, need 36"
  let newAuth ← readPubkey body 0
  let role ← readU32 body 32
  match role.toNat with
  | 0 =>
      let current ← readPubkey vote.data authorizedVoterOffset
      requireSigner current
      writeData 0 authorizedVoterOffset newAuth.bytes
  | 1 =>
      let current ← readPubkey vote.data 36
      requireSigner current
      writeData 0 36 newAuth.bytes
  | other =>
      rejectBuiltin True
        s!"vote::Authorize: role {other} unrecognised (0=Voter, 1=Withdrawer)"
  log s!"vote::Authorize: {vote.address} role={role} -> {newAuth}"

/-- Body: lamports.  From the vote account in slot 0 to slot 1. -/
def withdraw (minimumBalance : Rent → Nat → UInt64)
    (body : List UInt8) : Routine Unit := do
  requireSlots 1
  requireSlots 2
  let vote ← slot 0
  let recipient ← slot 1
  requireInitialized vote.data
  rejectBuiltin (body.length < 8)
    s!"vote::Withdraw: body has {body.length} bytes, need 8"
  let lamports ← readU64 body 0
  requireWritable vote.address
  requireWritable recipient.address
  let withdrawer ← readPubkey vote.data 36
  requireSigner withdrawer
  let context ← environment
  let rentExempt := minimumBalance context.sysvars.rent vote.data.length
  let available := saturatingSub vote.lamports rentExempt
  rejectBuiltin (lamports > available)
    s!"vote::Withdraw: requested {lamports} > available {available} (lamports={vote.lamports}, rent_exempt={rentExempt})"
  writeSlot 0 fun account =>
    { account with lamports := account.lamports - lamports }
  writeSlot 1 fun account =>
    { account with lamports := saturatingAdd account.lamports lamports }
  -- a drained vote account looks fresh again
  let drained ← slot 0
  if drained.lamports = 0 then
    writeData 0 0 (List.replicate voteAccountHeaderSize 0)
  log
    s!"vote::Withdraw: {vote.address} -> {recipient.address} ({lamports} lamports)"

/-- Slot 0 is the vote account, slot 1 the new node. -/
def updateValidatorIdentity : Routine Unit := do
  requireSlots 1
  requireSlots 2
  let vote ← slot 0
  requireWritable vote.address
  requireInitialized vote.data
  let newNode ← slot 1
  requireSigner newNode.address
  let currentWithdrawer ← readPubkey vote.data 36
  requireSigner currentWithdrawer
  writeData 0 4 newNode.address.bytes
  log
    s!"vote::UpdateValidatorIdentity: {vote.address} -> {newNode.address}"

/-- Body: commission.  Slot 0 is the vote account. -/
def updateCommission (body : List UInt8) : Routine Unit := do
  requireSlots 1
  let vote ← slot 0
  requireWritable vote.address
  requireInitialized vote.data
  rejectBuiltin (body = [])
    "vote::UpdateCommission: body empty (need u8 commission)"
  let newCommission := byteAt body 0
  rejectBuiltin (newCommission > 100)
    s!"vote::UpdateCommission: commission {newCommission} > 100"
  let withdrawer ← readPubkey vote.data 36
  requireSigner withdrawer
  writeData 0 68 [newCommission]
  log s!"vote::UpdateCommission: {vote.address} -> {newCommission}%"

/-- `VoteProgramSimulator::invoke`. -/
def invoke (minimumBalance : Rent → Nat → UInt64) (data : List UInt8) :
    Routine Unit := do
  rejectBuiltin (data.length < 4)
    s!"vote: instruction data too short ({data.length} bytes, need ≥ 4 for tag)"
  let tag ← readU32 data 0
  let body := data.drop 4
  match tag.toNat with
  | 0 => initializeAccount minimumBalance body
  | 1 => authorize body
  | 3 => withdraw minimumBalance body
  | 4 => updateValidatorIdentity
  | 5 => updateCommission body
  | other =>
      rejectBuiltin True
        s!"vote: variant tag {other} not supported by Hopper simulator (supported: 0/InitializeAccount, 1/Authorize, 3/Withdraw, 4/UpdateValidatorIdentity, 5/UpdateCommission)"

end VoteProgram

/-- `VoteProgramSimulator`. -/
def voteProgramSimulator (minimumBalance : Rent → Nat → UInt64) :
    BuiltinProgram :=
  .ofRoutine "vote" (fun _ => voteInstructionCu)
    (VoteProgram.invoke minimumBalance)

end Hopper
