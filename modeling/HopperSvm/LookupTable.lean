import HopperSvm.Fields
import HopperSvm.Library.Words

namespace Hopper

open Bytes Words

def lookupTableMetaSize : Nat := 56

def lookupTableMaxAddresses : Nat := 256

def deactivationCooldownSlots : UInt64 := 513

def lookupTableDiscriminator : UInt32 := 1

/-- `u64::MAX`: not deactivated. -/
def activeDeactivationSlot : UInt64 := 0xFFFFFFFFFFFFFFFF

structure LookupTableMeta where
  deactivationSlot : UInt64
  lastExtendedSlot : UInt64
  lastExtendedSlotStartIndex : UInt8
  authority : Option Pubkey
  deriving DecidableEq

namespace LookupTableMeta

def new (authority : Pubkey) : LookupTableMeta :=
  { deactivationSlot := activeDeactivationSlot
    lastExtendedSlot := 0
    lastExtendedSlotStartIndex := 0
    authority := some authority }

def IsDeactivated (tableMeta : LookupTableMeta) : Prop :=
  tableMeta.deactivationSlot ≠ activeDeactivationSlot

instance (tableMeta : LookupTableMeta) :
    Decidable tableMeta.IsDeactivated :=
  inferInstanceAs (Decidable (_ ≠ _))

/-- Deactivated, and the cooldown has passed. -/
def IsCloseable (tableMeta : LookupTableMeta) (currentSlot : UInt64) :
    Prop :=
  tableMeta.IsDeactivated ∧
    saturatingSub currentSlot tableMeta.deactivationSlot >
      deactivationCooldownSlots

instance (tableMeta : LookupTableMeta) (currentSlot : UInt64) :
    Decidable (tableMeta.IsCloseable currentSlot) :=
  inferInstanceAs (Decidable (_ ∧ _))

/-- The saturating comparison, in natural numbers. -/
theorem isCloseable_iff {tableMeta : LookupTableMeta}
    {currentSlot : UInt64} :
    tableMeta.IsCloseable currentSlot ↔
      tableMeta.deactivationSlot ≠ activeDeactivationSlot ∧
        tableMeta.deactivationSlot.toNat + 513 < currentSlot.toNat := by
  have cooldown : deactivationCooldownSlots.toNat = 513 := rfl
  rw [IsCloseable, IsDeactivated, gt_iff_lt, UInt64.lt_iff_toNat_lt,
    toNat_saturatingSub, cooldown]
  constructor
  · rintro ⟨deactivated, cooled⟩
    exact ⟨deactivated, by omega⟩
  · rintro ⟨deactivated, cooled⟩
    exact ⟨deactivated, by omega⟩

end LookupTableMeta

namespace LookupTable

/-- `read_meta`. -/
def readMeta (data : List UInt8) : Option LookupTableMeta :=
  if data.length < lookupTableMetaSize then
    none
  else if u32At data 0 ≠ lookupTableDiscriminator then
    none
  else do
    let authority ←
      if byteAt data 21 = 1 then
        (pubkeyAt data 22).map some
      else
        some none
    pure
      { deactivationSlot := u64At data 4
        lastExtendedSlot := u64At data 12
        lastExtendedSlotStartIndex := byteAt data 20
        authority }

/-- What `write_meta` copies, in order. -/
def metaPieces (tableMeta : LookupTableMeta) : List Piece :=
  [(0, u32Bytes lookupTableDiscriminator),
    (4, u64Bytes tableMeta.deactivationSlot),
    (12, u64Bytes tableMeta.lastExtendedSlot),
    (20, [tableMeta.lastExtendedSlotStartIndex])] ++
  (match tableMeta.authority with
    | some authority => [(21, [1]), (22, authority.bytes)]
    | none => [(21, [0]), (22, List.replicate 32 0)]) ++
  [(54, [0]), (55, [0])]

/-- `write_meta`. -/
def writeMeta (data : List UInt8) (tableMeta : LookupTableMeta) :
    List UInt8 :=
  if data.length < lookupTableMetaSize then
    data
  else
    writeAll data (metaPieces tableMeta)

/-- `address_count`. -/
def addressCount (data : List UInt8) : Nat :=
  if data.length < lookupTableMetaSize then
    0
  else
    (data.length - lookupTableMetaSize) / 32

/-- `read_address`. -/
def readAddress (data : List UInt8) (index : Nat) : Option Pubkey :=
  let off := lookupTableMetaSize + index * 32
  if off + 32 > data.length then
    none
  else
    pubkeyAt data off

/-- `append_addresses`: the new count and the longer buffer. -/
def appendAddresses (data : List UInt8) (newAddresses : List Pubkey) :
    Except String (Nat × List UInt8) :=
  let total := addressCount data + newAddresses.length
  if total > lookupTableMaxAddresses then
    .error
      s!"address count {total} exceeds LOOKUP_TABLE_MAX_ADDRESSES ({lookupTableMaxAddresses})"
  else
    .ok (total, data ++ newAddresses.flatMap Pubkey.bytes)

/-- One of the two loops of `resolve_lookup`. -/
def resolveIndexes (kind : String) (tableData : List UInt8) :
    List UInt8 → Except String (List Pubkey)
  | [] => .ok []
  | index :: rest =>
      match readAddress tableData index.toNat with
      | some address =>
          (resolveIndexes kind tableData rest).map fun resolved =>
            address :: resolved
      | none =>
          .error
            s!"{kind} index {index} out of bounds (table has {addressCount tableData} addresses)"

/-- `resolve_lookup`: the writable addresses, then the read-only ones. -/
def resolveLookup (tableData : List UInt8)
    (writableIndexes readonlyIndexes : List UInt8) :
    Except String (List Pubkey × List Pubkey) := do
  let writable ← resolveIndexes "writable" tableData writableIndexes
  let readonly ← resolveIndexes "readonly" tableData readonlyIndexes
  pure (writable, readonly)

section Header

variable {data : List UInt8} {tableMeta : LookupTableMeta}

theorem ascend_metaPieces (tableMeta : LookupTableMeta) :
    Ascend lookupTableMetaSize 0 (metaPieces tableMeta) := by
  cases tableMeta with
  | mk deactivationSlot lastExtendedSlot startIndex authority =>
      cases authority <;>
        simp [metaPieces, Ascend, lookupTableMetaSize]

@[simp]
theorem length_writeMeta :
    (writeMeta data tableMeta).length = data.length := by
  rw [writeMeta]
  split
  · rfl
  · rename_i long
    exact
      length_writeAll (ascend_metaPieces tableMeta) (Nat.le_of_not_lt long)

@[simp]
theorem drop_writeMeta :
    (writeMeta data tableMeta).drop lookupTableMetaSize =
      data.drop lookupTableMetaSize := by
  rw [writeMeta]
  split
  · rfl
  · rename_i long
    exact
      drop_writeAll (ascend_metaPieces tableMeta) (Nat.le_of_not_lt long)

theorem readMeta_writeMeta (fits : lookupTableMetaSize ≤ data.length) :
    readMeta (writeMeta data tableMeta) = some tableMeta := by
  have ascend := ascend_metaPieces tableMeta
  have long : ¬ data.length < lookupTableMetaSize := Nat.not_lt.mpr fits
  have written :
      writeMeta data tableMeta = writeAll data (metaPieces tableMeta) :=
    if_neg long
  rw [readMeta, length_writeMeta, if_neg long, written,
    u32At_writeAll ascend fits
      (by simp [metaPieces] :
        (0, u32Bytes lookupTableDiscriminator) ∈ _),
    if_neg (by simp),
    u64At_writeAll ascend fits
      (by simp [metaPieces] :
        (4, u64Bytes tableMeta.deactivationSlot) ∈ _),
    u64At_writeAll ascend fits
      (by simp [metaPieces] :
        (12, u64Bytes tableMeta.lastExtendedSlot) ∈ _),
    byteAt_writeAll ascend fits
      (by simp [metaPieces] :
        (20, [tableMeta.lastExtendedSlotStartIndex]) ∈ _)]
  cases tableMeta with
  | mk deactivationSlot lastExtendedSlot startIndex authority =>
      cases authority with
      | none =>
          rw [byteAt_writeAll ascend fits
            (by simp [metaPieces] : (21, [(0 : UInt8)]) ∈ _)]
          rfl
      | some authority =>
          rw [byteAt_writeAll ascend fits
              (by simp [metaPieces] : (21, [(1 : UInt8)]) ∈ _),
            pubkeyAt_writeAll ascend fits
              (by simp [metaPieces] : (22, authority.bytes) ∈ _)]
          rfl

theorem length_of_readMeta (read : readMeta data = some tableMeta) :
    lookupTableMetaSize ≤ data.length := by
  by_contra short
  rw [readMeta, if_pos (Nat.lt_of_not_le short)] at read
  cases read

end Header

end LookupTable

end Hopper
