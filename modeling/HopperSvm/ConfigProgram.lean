import HopperSvm.Bundled
import HopperSvm.Fields

namespace Hopper

/-- `config::program::id()`. -/
def configProgramId : Pubkey :=
  ⟨[3, 6, 74, 163, 0, 47, 116, 220, 200, 110, 67, 49, 15, 12, 5, 42, 248,
      197, 218, 39, 246, 16, 64, 25, 163, 35, 239, 160, 0, 0, 0,
      0], rfl⟩

def configInstructionCu : UInt64 := 450

namespace ConfigProgram

open Bytes Routine

/-- Every flagged key from number `index` on must be a signer. -/
def requireKeys (data : List UInt8) : (count index : Nat) → Routine Unit
  | 0, _ => pure ()
  | count + 1, index => do
      let key ← readPubkey data (8 + index * 33)
      if byteAt data (8 + index * 33 + 32) ≠ 0 then
        requireSigner key
      requireKeys data count (index + 1)

/-- `ConfigProgramSimulator::invoke`. -/
def invoke (data : List UInt8) : Routine Unit := do
  requireSlots 1
  let target ← slot 0
  requireWritable target.address
  rejectBuiltin (data.length < 8) "config::Store: body too short"
  let keysLen ← readU64 data 0
  let userStart ← addUsize 8 (keysLen.toNat * 33)
  rejectBuiltin (data.length < userStart)
    s!"config::Store: body has {data.length} bytes, need {userStart} for {keysLen} keys"
  requireKeys data keysLen.toNat 0
  let userData := data.drop userStart
  rejectBuiltin (userData.length > target.data.length)
    s!"config::Store: user data {userData.length} bytes > config account size {target.data.length}"
  writeSlot 0 fun account =>
    { account with
      data :=
        userData ++
          List.replicate (account.data.length - userData.length) 0 }
  log
    s!"config::Store: {target.address} ({keysLen} keys, {userData.length} bytes data)"

end ConfigProgram

/-- `ConfigProgramSimulator`. -/
def configProgramSimulator : BuiltinProgram :=
  .ofRoutine "config" (fun _ => configInstructionCu) ConfigProgram.invoke

end Hopper
