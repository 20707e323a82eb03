import HopperSvm.Bundled
import HopperSvm.StakeState

/-!
Initialise, authorise, delegate, withdraw and deactivate.  The rent-exempt
minimum is a double-precision product of the rent sysvar, and enters as a
function of the sysvar and the size.
-/

namespace Hopper

/-- `stake::program::id()`. -/
def stakeProgramId : Pubkey :=
  ⟨[6, 161, 216, 23, 145, 55, 84, 42, 152, 52, 55, 189, 254, 42, 122, 178,
      85, 127, 83, 92, 138, 120, 114, 43, 104, 164, 157, 192, 0, 0, 0,
      0], rfl⟩

def stakeInstructionCu : UInt64 := 750

namespace StakeProgram

open Bytes Routine Words

/-- `read_state`. -/
def readState (data : List UInt8) : Routine StakeAccountState := do
  rejectBuiltin (data.length < stakeAccountSize)
    s!"stake: account data is {data.length} bytes, need {stakeAccountSize}"
  rejectBuiltin
    (readDiscriminator data ≠ discriminatorUninitialized ∧
      readDiscriminator data ≠ discriminatorInitialized ∧
      readDiscriminator data ≠ discriminatorStake)
    s!"stake: unknown discriminator {readDiscriminator data}"
  expect (decodeState data)

/-- `initialize`.  Body: staker, withdrawer, lockup.  Slot 0 is the stake
account. -/
def initializeStake (minimumBalance : Rent → Nat → UInt64)
    (body : List UInt8) : Routine Unit := do
  requireSlots 1
  let stake ← slot 0
  requireWritable stake.address
  rejectBuiltin (stake.data.length ≠ stakeAccountSize)
    s!"stake::Initialize: stake account is {stake.data.length} bytes, need {stakeAccountSize}"
  rejectBuiltin (readDiscriminator stake.data ≠ discriminatorUninitialized)
    "stake::Initialize: account already initialized"
  rejectBuiltin (body.length < 112)
    s!"stake::Initialize: body has {body.length} bytes, need 112 (Authorized + Lockup)"
  let staker ← readPubkey body 0
  let withdrawer ← readPubkey body 32
  let lockupTs ← readU64 body 64
  let lockupEpoch ← readU64 body 72
  let custodian ← readPubkey body 80
  let context ← environment
  let rentExempt := minimumBalance context.sysvars.rent stakeAccountSize
  rejectBuiltin (stake.lamports < rentExempt)
    s!"stake::Initialize: stake account lamports {stake.lamports} < rent-exempt minimum {rentExempt}"
  writeSlot 0 fun account =>
    { account with
      data :=
        writeState account.data <| .initialized
          { rentExemptReserve := rentExempt
            authorized := { staker, withdrawer }
            lockup :=
              { unixTimestamp := lockupTs.toInt64
                epoch := lockupEpoch
                custodian } } }
  log
    s!"stake::Initialize: {stake.address} (staker={staker}, withdrawer={withdrawer})"

/-- The meta with another authority in the role: 0 for the staker, 1 for the
withdrawer. -/
def reauthorize (stakeMeta : StakeMeta) (newAuth : Pubkey) (role : Nat) :
    Routine StakeMeta := do
  match role with
  | 0 =>
      requireSigner stakeMeta.authorized.staker
      pure
        { stakeMeta with
          authorized := { stakeMeta.authorized with staker := newAuth } }
  | 1 =>
      requireSigner stakeMeta.authorized.withdrawer
      pure
        { stakeMeta with
          authorized :=
            { stakeMeta.authorized with withdrawer := newAuth } }
  | other =>
      okOrBuiltin none
        s!"stake::Authorize: role {other} unrecognised (0=Staker, 1=Withdrawer)"

/-- Body: new authority, role.  Slot 0 is the stake account. -/
def authorize (body : List UInt8) : Routine Unit := do
  requireSlots 1
  let stake ← slot 0
  requireWritable stake.address
  rejectBuiltin (body.length < 36)
    s!"stake::Authorize: body has {body.length} bytes, need 36"
  let newAuth ← readPubkey body 0
  let role ← readU32 body 32
  let state ← readState stake.data
  let stored ←
    okOrBuiltin state.meta? "stake::Authorize: account uninitialized"
  let stakeMeta ← reauthorize stored newAuth role.toNat
  writeSlot 0 fun account =>
    { account with
      data := writeState account.data (state.withMeta stakeMeta) }
  log s!"stake::Authorize: {stake.address} role={role} -> {newAuth}"

/-- The delegated form of a state, with the rate and the credits a first
delegation starts with. -/
def delegated (voteAddr : Pubkey) (stakeLamports activationEpoch : UInt64) :
    StakeAccountState → Option (StakeMeta × StakeAccountState)
  | .uninitialized => none
  | .initialized stakeMeta =>
      some
        (stakeMeta,
          .stake stakeMeta
            { voterPubkey := voteAddr
              stake :=
                saturatingSub stakeLamports stakeMeta.rentExemptReserve
              activationEpoch
              deactivationEpoch := maxU64
              warmupCooldownRate := ⟨0x3FD0000000000000⟩ }
            0)
  | .stake stakeMeta delegation credits =>
      some
        (stakeMeta,
          .stake stakeMeta
            { delegation with
              voterPubkey := voteAddr
              stake :=
                saturatingSub stakeLamports stakeMeta.rentExemptReserve
              activationEpoch
              deactivationEpoch := maxU64 }
            credits)

/-- Slot 0 is the stake account, slot 1 the vote account. -/
def delegateStake : Routine Unit := do
  requireSlots 1
  requireSlots 2
  let stake ← slot 0
  let vote ← slot 1
  requireWritable stake.address
  let context ← environment
  let activationEpoch := context.sysvars.clock.epoch
  let state ← readState stake.data
  let (stakeMeta, newState) ←
    okOrBuiltin
      (delegated vote.address stake.lamports activationEpoch state)
      "stake::DelegateStake: account uninitialized"
  requireSigner stakeMeta.authorized.staker
  writeSlot 0 fun account =>
    { account with data := writeState account.data newState }
  log
    s!"stake::DelegateStake: {stake.address} -> vote {vote.address} epoch={activationEpoch}"

/-- What a withdrawal must leave: the reserve, and the stake while it is
active or in the epoch it was deactivated in. -/
def lockedFloor (stakeMeta : StakeMeta) (epoch : UInt64) :
    StakeAccountState → UInt64
  | .uninitialized => stakeMeta.rentExemptReserve
  | .initialized _ => stakeMeta.rentExemptReserve
  | .stake _ delegation _ =>
      if delegation.deactivationEpoch = maxU64 ∨
          epoch ≤ delegation.deactivationEpoch then
        saturatingAdd stakeMeta.rentExemptReserve delegation.stake
      else
        stakeMeta.rentExemptReserve

/-- Body: lamports.  From the stake account in slot 0 to slot 1. -/
def withdraw (body : List UInt8) : Routine Unit := do
  requireSlots 1
  requireSlots 2
  rejectBuiltin (body.length < 8)
    s!"stake::Withdraw: body has {body.length} bytes, need 8"
  let lamports ← readU64 body 0
  let stake ← slot 0
  let recipient ← slot 1
  requireWritable stake.address
  requireWritable recipient.address
  let state ← readState stake.data
  let stakeMeta ←
    okOrBuiltin state.meta? "stake::Withdraw: account uninitialized"
  requireSigner stakeMeta.authorized.withdrawer
  let context ← environment
  let floor := lockedFloor stakeMeta context.sysvars.clock.epoch state
  let available := saturatingSub stake.lamports floor
  rejectBuiltin (lamports > available)
    s!"stake::Withdraw: requested {lamports} > available {available} (lamports={stake.lamports}, locked_floor={floor})"
  writeSlot 0 fun account =>
    { account with lamports := account.lamports - lamports }
  writeSlot 1 fun account =>
    { account with lamports := saturatingAdd account.lamports lamports }
  -- a drained stake account is reset
  let drained ← slot 0
  if drained.lamports = 0 then
    writeSlot 0 fun account =>
      { account with data := List.replicate account.data.length 0 }
  log
    s!"stake::Withdraw: {stake.address} -> {recipient.address} ({lamports} lamports)"

/-- Slot 0 is the stake account. -/
def deactivate : Routine Unit := do
  requireSlots 1
  let stake ← slot 0
  requireWritable stake.address
  let context ← environment
  let state ← readState stake.data
  match state with
  | .stake stakeMeta delegation credits =>
      requireSigner stakeMeta.authorized.staker
      rejectBuiltin (delegation.deactivationEpoch ≠ maxU64)
        s!"stake::Deactivate: stake already deactivating at epoch {delegation.deactivationEpoch}"
      writeSlot 0 fun account =>
        { account with
          data :=
            writeState account.data <| .stake stakeMeta
              { delegation with
                deactivationEpoch := context.sysvars.clock.epoch }
              credits }
  | _ =>
      rejectBuiltin True "stake::Deactivate: account is not delegated"
  log
    s!"stake::Deactivate: {stake.address} epoch={context.sysvars.clock.epoch}"

/-- `StakeProgramSimulator::invoke`. -/
def invoke (minimumBalance : Rent → Nat → UInt64) (data : List UInt8) :
    Routine Unit := do
  rejectBuiltin (data.length < 4)
    s!"stake: instruction data too short ({data.length} bytes, need ≥ 4 for tag)"
  let tag ← readU32 data 0
  let body := data.drop 4
  match tag.toNat with
  | 0 => initializeStake minimumBalance body
  | 1 => authorize body
  | 2 => delegateStake
  | 4 => withdraw body
  | 5 => deactivate
  | other =>
      rejectBuiltin True
        s!"stake: variant tag {other} not supported by Hopper simulator (supported: 0/Initialize, 1/Authorize, 2/DelegateStake, 4/Withdraw, 5/Deactivate)"

end StakeProgram

/-- `StakeProgramSimulator`. -/
def stakeProgramSimulator (minimumBalance : Rent → Nat → UInt64) :
    BuiltinProgram :=
  .ofRoutine "stake" (fun _ => stakeInstructionCu)
    (StakeProgram.invoke minimumBalance)

end Hopper
