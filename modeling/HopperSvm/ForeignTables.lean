import HopperSvm.StakeState
import HopperSvm.TokenState
import HopperSvm.WarmUp

/-!
Resolving goes by the bytes of the account and never asks who owns it.  The
discriminator of a table is also the tag of an initialised stake account and
of a mint with an authority, so both are resolved where the bytes behind it
read as an open table.
-/

namespace Hopper

open Bytes LookupTable Words

/-- The bytes read as a table that resolves the indexes at this slot. -/
structure ReadsAsTable (now : UInt64) (data : List UInt8)
    (indexes : List UInt8) : Prop where
  header : lookupTableMetaSize ≤ data.length
  discriminator : u32At data 0 = lookupTableDiscriminator
  usable :
    u64At data 4 = activeDeactivationSlot ∨
      now.toNat ≤ (u64At data 4).toNat + 513
  inRange : ∀ index ∈ indexes,
    lookupTableMetaSize + 32 * (index.toNat + 1) ≤ data.length

section Reading

variable {data : List UInt8} {tableMeta : LookupTableMeta}
  {now : UInt64}

/-- A header is read from every account with the discriminator. -/
theorem readMeta_isSome_iff :
    (∃ tableMeta, readMeta data = some tableMeta) ↔
      lookupTableMetaSize ≤ data.length ∧
        u32At data 0 = lookupTableDiscriminator := by
  simp only [readMeta]
  by_cases short : data.length < lookupTableMetaSize
  · simp only [if_pos short, reduceCtorEq, exists_false, false_iff]
    intro both
    exact absurd both.1 (Nat.not_le.mpr short)
  · have long : lookupTableMetaSize ≤ data.length := Nat.not_lt.mp short
    rw [if_neg short]
    by_cases other : u32At data 0 ≠ lookupTableDiscriminator
    · simp only [if_pos other, reduceCtorEq, exists_false, false_iff]
      intro both
      exact other both.2
    · have same : u32At data 0 = lookupTableDiscriminator :=
        not_not.mp other
      obtain ⟨authority, stored⟩ :=
        pubkeyAt_isSome
          (by unfold lookupTableMetaSize at long; omega :
            22 + 32 ≤ data.length)
      rw [if_neg other]
      refine iff_of_true ?_ ⟨long, same⟩
      by_cases held : byteAt data 21 = 1
      · simp [held, stored]
      · simp [held]

theorem readMeta_deactivationSlot (read : readMeta data = some tableMeta) :
    tableMeta.deactivationSlot = u64At data 4 := by
  simp only [readMeta] at read
  split at read
  · cases read
  · split at read
    · cases read
    · by_cases held : byteAt data 21 = 1
      · simp only [if_pos held] at read
        obtain ⟨authority, _, made⟩ := Option.bind_eq_some_iff.mp read
        cases made
        rfl
      · simp only [if_neg held] at read
        cases read
        rfl

/-- A table is not yet closed to lookups. -/
theorem not_isCloseable_iff (read : readMeta data = some tableMeta) :
    ¬ tableMeta.IsCloseable now ↔
      u64At data 4 = activeDeactivationSlot ∨
        now.toNat ≤ (u64At data 4).toNat + 513 := by
  rw [LookupTableMeta.isCloseable_iff, readMeta_deactivationSlot read,
    not_and_or, not_not, Nat.not_lt]

theorem readAddress_isSome_iff {index : Nat} :
    (∃ address, readAddress data index = some address) ↔
      lookupTableMetaSize + 32 * (index + 1) ≤ data.length := by
  rw [readAddress, lookupTableMetaSize]
  by_cases beyond : 56 + index * 32 + 32 > data.length
  · simp only [if_pos beyond, reduceCtorEq, exists_false, false_iff]
    omega
  · simp only [if_neg beyond]
    exact iff_of_true (pubkeyAt_isSome (Nat.not_lt.mp beyond)) (by omega)

/-- A lookup gets through when every index has its entry. -/
theorem resolveLookup_isOk_iff {writableIndexes readonlyIndexes : List UInt8} :
    (∃ resolved,
        resolveLookup data writableIndexes readonlyIndexes =
          .ok resolved) ↔
      ∀ index ∈ writableIndexes ++ readonlyIndexes,
        lookupTableMetaSize + 32 * (index.toNat + 1) ≤ data.length := by
  simp only [Prod.exists, AltProgram.resolveLookup_eq_ok,
    AltProgram.exists_found_iff, readAddress_isSome_iff]

end Reading

section Resolving

variable {svm : HopperSvm} {accounts : List KeyedAccount}
  {tableAddress : Pubkey} {writableIndexes readonlyIndexes : List UInt8}

/-- What resolves is decided by the bytes of the first account at the
address. -/
theorem resolveAddressTableLookup_isOk_iff :
    (∃ resolved,
        svm.resolveAddressTableLookup accounts tableAddress
          writableIndexes readonlyIndexes = .ok resolved) ↔
      ∃ table, findAccount tableAddress accounts = some table ∧
        ReadsAsTable svm.sysvars.clock.slot table.data
          (writableIndexes ++ readonlyIndexes) := by
  constructor
  · rintro ⟨resolved, answer⟩
    obtain ⟨table, tableMeta, found, read, notCloseable, lookup⟩ :=
      AltProgram.resolveAddressTableLookup_iff.mp answer
    obtain ⟨header, discriminator⟩ :=
      readMeta_isSome_iff.mp ⟨tableMeta, read⟩
    have usable := (not_isCloseable_iff read).mp notCloseable
    have inRange := resolveLookup_isOk_iff.mp ⟨resolved, lookup⟩
    exact ⟨table, found, header, discriminator, usable, inRange⟩
  · rintro ⟨table, found, reads⟩
    obtain ⟨tableMeta, read⟩ :=
      readMeta_isSome_iff.mpr ⟨reads.header, reads.discriminator⟩
    have notCloseable := (not_isCloseable_iff read).mpr reads.usable
    obtain ⟨resolved, lookup⟩ := resolveLookup_isOk_iff.mpr reads.inRange
    exact
      ⟨resolved, AltProgram.resolveAddressTableLookup_iff.mpr
        ⟨table, tableMeta, found, read, notCloseable, lookup⟩⟩

/-- Every table that resolves is an account of the program. -/
def ResolvesOwnTables (svm : HopperSvm) (accounts : List KeyedAccount)
    (tableAddress : Pubkey)
    (writableIndexes readonlyIndexes : List UInt8) : Prop :=
  ∀ resolved,
    svm.resolveAddressTableLookup accounts tableAddress writableIndexes
        readonlyIndexes = .ok resolved →
      ∃ table, findAccount tableAddress accounts = some table ∧
        table.owner = altProgramId

/-- The account at the address is another program's and reads as a table
all the same. -/
def Impersonates (now : UInt64) (accounts : List KeyedAccount)
    (tableAddress : Pubkey) (indexes : List UInt8) : Prop :=
  ∃ table, findAccount tableAddress accounts = some table ∧
    table.owner ≠ altProgramId ∧ ReadsAsTable now table.data indexes

theorem resolvesOwnTables_iff (svm : HopperSvm)
    (accounts : List KeyedAccount) (tableAddress : Pubkey)
    (writableIndexes readonlyIndexes : List UInt8) :
    ResolvesOwnTables svm accounts tableAddress writableIndexes
        readonlyIndexes ↔
      ¬ Impersonates svm.sysvars.clock.slot accounts tableAddress
        (writableIndexes ++ readonlyIndexes) := by
  constructor
  · rintro owned ⟨table, found, other, reads⟩
    obtain ⟨resolved, answer⟩ :=
      resolveAddressTableLookup_isOk_iff.mpr ⟨table, found, reads⟩
    obtain ⟨table', found', owner⟩ := owned resolved answer
    cases found.symm.trans found'
    exact other owner
  · intro genuine resolved answer
    obtain ⟨table, found, reads⟩ :=
      resolveAddressTableLookup_isOk_iff.mp ⟨resolved, answer⟩
    refine ⟨table, found, ?_⟩
    by_contra other
    exact genuine ⟨table, found, other, reads⟩

end Resolving

section Formats

variable {now : UInt64} {data indexes : List UInt8}

/-- The fields of an initialised stake account that a table has too. -/
theorem initialized_fields {stakeMeta : StakeMeta}
    (decoded :
      StakeProgram.decodeState data = some (.initialized stakeMeta)) :
    u32At data 0 = lookupTableDiscriminator ∧
      stakeMeta.rentExemptReserve = u64At data 4 := by
  have long := StakeProgram.length_of_decodeState decoded
  simp only [stakeAccountSize] at long
  have discriminator :
      StakeProgram.readDiscriminator data = u32At data 0 :=
    if_neg (by omega)
  simp only [StakeProgram.decodeState] at decoded
  rw [discriminator] at decoded
  split at decoded
  · cases decoded
  · split at decoded
    · cases decoded
    · split at decoded
      · rename_i tag
        obtain ⟨stored, read, made⟩ := Option.map_eq_some_iff.mp decoded
        cases made
        refine ⟨tag, ?_⟩
        simp only [StakeProgram.readMeta] at read
        obtain ⟨staker, _, read⟩ := Option.bind_eq_some_iff.mp read
        obtain ⟨withdrawer, _, read⟩ := Option.bind_eq_some_iff.mp read
        obtain ⟨custodian, _, read⟩ := Option.bind_eq_some_iff.mp read
        cases read
        rfl
      · split at decoded
        · obtain ⟨stored, _, read⟩ := Option.bind_eq_some_iff.mp decoded
          obtain ⟨delegation, _, read⟩ := Option.bind_eq_some_iff.mp read
          cases read
        · cases decoded

/-- An initialised stake account reads as a table whose deactivation slot is
its rent reserve. -/
theorem readsAsTable_initialized_iff {stakeMeta : StakeMeta}
    (decoded :
      StakeProgram.decodeState data = some (.initialized stakeMeta)) :
    ReadsAsTable now data indexes ↔
      (stakeMeta.rentExemptReserve = activeDeactivationSlot ∨
          now.toNat ≤ stakeMeta.rentExemptReserve.toNat + 513) ∧
        ∀ index ∈ indexes,
          lookupTableMetaSize + 32 * (index.toNat + 1) ≤
            data.length := by
  have long := StakeProgram.length_of_decodeState decoded
  obtain ⟨tag, reserve⟩ := initialized_fields decoded
  rw [reserve]
  constructor
  · intro reads
    exact ⟨reads.usable, reads.inRange⟩
  · rintro ⟨usable, inRange⟩
    exact
      ⟨by unfold stakeAccountSize at long; unfold lookupTableMetaSize; omega,
        tag, usable, inRange⟩

/-- Where a mint holds its authority. -/
theorem authority_of_unpack {mint : Mint} {authority : Pubkey}
    (unpacked : splCodec.mint.unpack data = .ok mint)
    (held : mint.mintAuthority = some authority) :
    (data.take 36).take 4 = leBytes 4 1 ∧
      (data.take 36).drop 4 = authority.bytes := by
  have read : Layout.mint.read data = some mint :=
    @Pack.read_of_unpack _ Layout.mint Mint.isInitialized data mint
      unpacked
  obtain ⟨fields, readFields, rfl⟩ := Option.map_eq_some_iff.mp read
  obtain ⟨left, readLeft, rest⟩ := Option.bind_eq_some_iff.mp readFields
  obtain ⟨right, _, made⟩ := Option.bind_eq_some_iff.mp rest
  cases made
  have same : left = some authority := held
  subst same
  change
    (if (data.take 36).take 4 = leBytes 4 1 then
        (Pubkey.newFromArray ((data.take 36).drop 4)).map some
      else if (data.take 36).take 4 = leBytes 4 0 then
        some none
      else
        none) = some (some authority) at readLeft
  split at readLeft
  · rename_i tag
    obtain ⟨key, made, same⟩ := Option.map_eq_some_iff.mp readLeft
    cases same
    exact ⟨tag, Pubkey.newFromArray_eq_some.mp made⟩
  · split at readLeft
    · cases readLeft
    · cases readLeft

/-- The fields of a mint with an authority that a table has too. -/
theorem mint_fields {mint : Mint} {authority : Pubkey}
    (unpacked : splCodec.mint.unpack data = .ok mint)
    (held : mint.mintAuthority = some authority) :
    u32At data 0 = lookupTableDiscriminator ∧
      u64At authority.bytes 0 = u64At data 4 := by
  obtain ⟨tag, key⟩ := authority_of_unpack unpacked held
  constructor
  · have front : field data 0 4 = leBytes 4 1 := by
      rw [← tag, List.take_take]
      rfl
    rw [u32At, front]
    decide
  · have same : field authority.bytes 0 8 = field data 4 8 := by
      rw [← key, field, field, List.drop_zero, List.drop_take,
        List.take_take]
      rfl
    rw [u64At, u64At, same]

/-- A mint with an authority reads as a table without addresses. -/
theorem readsAsTable_mint_iff {mint : Mint} {authority : Pubkey}
    (unpacked : splCodec.mint.unpack data = .ok mint)
    (held : mint.mintAuthority = some authority) :
    ReadsAsTable now data indexes ↔
      (u64At authority.bytes 0 = activeDeactivationSlot ∨
          now.toNat ≤ (u64At authority.bytes 0).toNat + 513) ∧
        indexes = [] := by
  have sized : data.length = 82 := splCodec.mint.length_of_unpack unpacked
  obtain ⟨tag, front⟩ := mint_fields unpacked held
  rw [front]
  constructor
  · intro reads
    refine ⟨reads.usable, ?_⟩
    cases indexes with
    | nil =>
        rfl
    | cons index rest =>
        have short := reads.inRange index List.mem_cons_self
        simp only [lookupTableMetaSize] at short
        omega
  · rintro ⟨usable, rfl⟩
    refine ⟨?_, tag, usable, List.forall_mem_nil _⟩
    rw [sized]
    decide

end Formats

def impostorMeta : StakeMeta :=
  { rentExemptReserve := 2282880
    authorized := { staker := .filled 3, withdrawer := .filled 4 }
    lockup :=
      { unixTimestamp := 0
        epoch := 0
        custodian := .filled 5 } }

def impostorStake : KeyedAccount :=
  { address := .filled 1
    lamports := 3000000
    data :=
      StakeProgram.writeState (List.replicate stakeAccountSize 0)
        (.initialized impostorMeta)
    owner := stakeProgramId
    executable := false
    rentEpoch := 0 }

def impostorMint : KeyedAccount :=
  { address := .filled 2
    lamports := 3000000
    data :=
      Layout.mint.write
        { mintAuthority := some (.filled 6)
          supply := 10
          decimals := 0
          isInitialized := true
          freezeAuthority := none }
        (List.replicate mintLen 0)
    owner := splTokenId
    executable := false
    rentEpoch := 0 }

/-- A stake account resolves an index, and a mint the empty lookup. -/
theorem impostors_resolve :
    ¬ ResolvesOwnTables (HopperSvm.ofRegistry fun _ => none)
        [impostorStake] impostorStake.address [0] [] ∧
      ¬ ResolvesOwnTables (HopperSvm.ofRegistry fun _ => none)
        [impostorMint] impostorMint.address [] [] := by
  constructor
  · intro owned
    have resolved :
        (HopperSvm.ofRegistry fun _ => none).resolveAddressTableLookup
            [impostorStake] impostorStake.address [0] [] =
          .ok ([⟨field impostorStake.data 56 32, by decide⟩], []) := by
      decide +kernel
    obtain ⟨table, found, owner⟩ := owned _ resolved
    cases found
    exact absurd owner (by decide)
  · intro owned
    have resolved :
        (HopperSvm.ofRegistry fun _ => none).resolveAddressTableLookup
            [impostorMint] impostorMint.address [] [] = .ok ([], []) := by
      decide +kernel
    obtain ⟨table, found, owner⟩ := owned _ resolved
    cases found
    exact absurd owner (by decide)

end Hopper
