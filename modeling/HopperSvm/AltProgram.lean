import HopperSvm.Bundled
import HopperSvm.LookupTable

namespace Hopper

/-- `address_lookup_table::program::id()`. -/
def altProgramId : Pubkey :=
  ⟨[2, 119, 166, 175, 151, 51, 155, 122, 200, 141, 24, 146, 201, 4, 70,
      245, 0, 2, 48, 146, 102, 246, 46, 83, 193, 24, 36, 73, 130, 0, 0,
      0], rfl⟩

def altInstructionCu : UInt64 := 750

/-- `Pubkey::create_program_address`, failing with the debug text of a
`PubkeyError`. -/
abbrev CreateProgramAddress : Type :=
  List (List UInt8) → Pubkey → Except String Pubkey

namespace AltProgram

open Bytes LookupTable Routine Words

/-- The `initial_lamports` of a table. -/
def initialLamports : UInt64 := 1281360

/-- `match meta.authority`: the stored authority is the signer, or the
instruction fails; a table without one is frozen. -/
def requireStored (verb : String) (stored : Option Pubkey)
    (authAddr tableAddr : Pubkey) (frozen : String) : Routine Unit :=
  match stored with
  | some stored =>
      rejectBuiltin (stored ≠ authAddr)
        s!"alt::{verb}: signer {authAddr} != stored authority {stored}"
  | none => rejectBuiltin True s!"alt::{verb}: {tableAddr} {frozen}"

/-- Body: recent slot, bump seed.  Slot 0 is the table, slot 1 the
authority, slot 2 the payer. -/
def createLookupTable (createProgramAddress : CreateProgramAddress)
    (body : List UInt8) : Routine Unit := do
  rejectBuiltin (body.length < 9)
    "alt::Create: body < 9 bytes (need recent_slot u64 + bump_seed u8)"
  let recentSlot ← readU64 body 0
  let bumpSeed ← slice body 8 9
  requireSlots 4
  let table ← slot 0
  let authority ← slot 1
  let payer ← slot 2
  requireWritable table.address
  requireSigner authority.address
  requireSigner payer.address
  requireWritable payer.address
  let context ← environment
  let seeds := [authority.address.bytes, u64Bytes recentSlot, bumpSeed]
  let derived ←
    orBuiltin (createProgramAddress seeds context.programId) fun err =>
      s!"alt::Create: PDA derivation failed: {err}"
  rejectBuiltin (derived ≠ table.address)
    s!"alt::Create: address mismatch (got {table.address}, derived {derived})"
  rejectBuiltin (table.data ≠ [] ∨ table.lamports ≠ 0)
    s!"alt::Create: {table.address} already initialised"
  requireFunds payer initialLamports
  writeSlot 2 fun account =>
    { account with lamports := account.lamports - initialLamports }
  writeSlot 0 fun account =>
    { account with
      lamports := initialLamports
      data :=
        writeMeta (List.replicate lookupTableMetaSize 0)
          (.new authority.address)
      owner := context.programId
      executable := false }
  log
    s!"alt::CreateLookupTable: {table.address} authority={authority.address} (slot={recentSlot})"

/-- Slot 0 is the table, slot 1 the authority. -/
def freezeLookupTable : Routine Unit := do
  requireSlots 2
  let table ← slot 0
  let auth ← slot 1
  requireWritable table.address
  requireSigner auth.address
  let tableMeta ←
    okOrBuiltin (readMeta table.data)
      s!"alt::Freeze: {table.address} not a valid lookup table"
  requireStored "Freeze" tableMeta.authority auth.address table.address
    "already frozen"
  writeSlot 0 fun account =>
    { account with
      data := writeMeta account.data { tableMeta with authority := none } }
  log s!"alt::FreezeLookupTable: {table.address}"

/-- Body: address count, addresses.  Slot 0 is the table, slot 1 the
authority; slot 2 pays nothing. -/
def extendLookupTable (body : List UInt8) : Routine Unit := do
  rejectBuiltin (body.length < 8)
    "alt::Extend: body too short (need address count u64)"
  let count ← readU64 body 0
  let needed ← addUsize 8 (count.toNat * 32)
  rejectBuiltin (body.length < needed)
    s!"alt::Extend: body has {body.length} bytes, need {needed} for {count} addresses"
  let newAddresses ←
    expect <|
      (List.range count.toNat).mapM fun index =>
        pubkeyAt body (8 + index * 32)
  requireSlots 4
  let table ← slot 0
  let auth ← slot 1
  requireWritable table.address
  requireSigner auth.address
  let tableMeta ←
    okOrBuiltin (readMeta table.data)
      s!"alt::Extend: {table.address} not a valid lookup table"
  requireStored "Extend" tableMeta.authority auth.address table.address
    "is frozen"
  rejectBuiltin tableMeta.IsDeactivated
    s!"alt::Extend: {table.address} is deactivated"
  let prevCount := addressCount table.data
  let (_, data) ←
    orBuiltin (appendAddresses table.data newAddresses) fun err =>
      s!"alt::Extend: {err}"
  let context ← environment
  writeSlot 0 fun account =>
    { account with
      data :=
        writeMeta data
          { tableMeta with
            lastExtendedSlot := context.sysvars.clock.slot
            lastExtendedSlotStartIndex :=
              UInt8.ofNat (min prevCount 255) } }
  log
    s!"alt::ExtendLookupTable: {table.address} +{count} addresses (now {prevCount + count.toNat})"

/-- Slot 0 is the table, slot 1 the authority. -/
def deactivateLookupTable : Routine Unit := do
  requireSlots 2
  let table ← slot 0
  let auth ← slot 1
  requireWritable table.address
  requireSigner auth.address
  let tableMeta ←
    okOrBuiltin (readMeta table.data)
      s!"alt::Deactivate: {table.address} not a valid lookup table"
  requireStored "Deactivate" tableMeta.authority auth.address
    table.address "is frozen"
  rejectBuiltin tableMeta.IsDeactivated
    s!"alt::Deactivate: {table.address} already deactivated"
  let context ← environment
  writeSlot 0 fun account =>
    { account with
      data :=
        writeMeta account.data
          { tableMeta with
            deactivationSlot := context.sysvars.clock.slot } }
  log
    s!"alt::DeactivateLookupTable: {table.address} (slot {context.sysvars.clock.slot})"

/-- Slot 0 is the table, slot 1 the authority, slot 2 the recipient. -/
def closeLookupTable : Routine Unit := do
  requireSlots 3
  let table ← slot 0
  let auth ← slot 1
  let recipient ← slot 2
  requireWritable table.address
  requireSigner auth.address
  requireWritable recipient.address
  let tableMeta ←
    okOrBuiltin (readMeta table.data)
      s!"alt::Close: {table.address} not a valid lookup table"
  requireStored "Close" tableMeta.authority auth.address table.address
    "is frozen and cannot be closed"
  let context ← environment
  let reason :=
    if tableMeta.IsDeactivated then
      "deactivation cooldown has not elapsed"
    else
      "table is still active; call Deactivate first"
  rejectBuiltin (¬ tableMeta.IsCloseable context.sysvars.clock.slot)
    s!"alt::Close: {table.address} not closeable ({reason})"
  writeSlot 2 fun account =>
    { account with
      lamports := saturatingAdd account.lamports table.lamports }
  writeSlot 0 fun account =>
    { account with lamports := 0, data := [], owner := systemProgramId }
  log
    s!"alt::CloseLookupTable: {table.address} -> {recipient.address} ({table.lamports} lamports)"

/-- `AltProgramSimulator::invoke`. -/
def invoke (createProgramAddress : CreateProgramAddress)
    (data : List UInt8) : Routine Unit := do
  rejectBuiltin (data.length < 4)
    "alt: instruction data too short (need 4-byte tag)"
  let tag ← readU32 data 0
  let body := data.drop 4
  match tag.toNat with
  | 0 => createLookupTable createProgramAddress body
  | 1 => freezeLookupTable
  | 2 => extendLookupTable body
  | 3 => deactivateLookupTable
  | 4 => closeLookupTable
  | other =>
      rejectBuiltin True
        s!"alt: variant tag {other} not recognised (supported: 0/Create, 1/Freeze, 2/Extend, 3/Deactivate, 4/Close)"

end AltProgram

/-- `AltProgramSimulator`. -/
def altProgramSimulator (createProgramAddress : CreateProgramAddress) :
    BuiltinProgram :=
  .ofRoutine "address-lookup-table" (fun _ => altInstructionCu)
    (AltProgram.invoke createProgramAddress)

end Hopper
