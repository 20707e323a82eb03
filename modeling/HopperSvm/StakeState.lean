import HopperSvm.Fields

namespace Hopper

open Bytes

def stakeAccountSize : Nat := 200

def discriminatorUninitialized : UInt32 := 0

def discriminatorInitialized : UInt32 := 1

def discriminatorStake : UInt32 := 2

/-- `u64::MAX`, the deactivation epoch of an active delegation. -/
def maxU64 : UInt64 := 0xFFFFFFFFFFFFFFFF

structure StakeAuthorized where
  staker : Pubkey
  withdrawer : Pubkey
  deriving DecidableEq

structure StakeLockup where
  unixTimestamp : Int64
  epoch : UInt64
  custodian : Pubkey
  deriving DecidableEq

structure StakeMeta where
  rentExemptReserve : UInt64
  authorized : StakeAuthorized
  lockup : StakeLockup
  deriving DecidableEq

structure StakeDelegation where
  voterPubkey : Pubkey
  stake : UInt64
  activationEpoch : UInt64
  deactivationEpoch : UInt64
  warmupCooldownRate : F64
  deriving DecidableEq

/-- The last field is the credits observed. -/
inductive StakeAccountState where
  | uninitialized
  | initialized (stakeMeta : StakeMeta)
  | stake (stakeMeta : StakeMeta) (delegation : StakeDelegation)
      (credits : UInt64)
  deriving DecidableEq

namespace StakeAccountState

/-- The meta of an initialised or delegated account. -/
def meta? : StakeAccountState → Option StakeMeta
  | uninitialized => none
  | initialized stakeMeta => some stakeMeta
  | stake stakeMeta _ _ => some stakeMeta

/-- `*meta_mut = stake_meta`. -/
def withMeta (stakeMeta : StakeMeta) :
    StakeAccountState → StakeAccountState
  | uninitialized => uninitialized
  | initialized _ => initialized stakeMeta
  | stake _ delegation credits => stake stakeMeta delegation credits

def delegation? : StakeAccountState → Option StakeDelegation
  | uninitialized => none
  | initialized _ => none
  | stake _ delegation _ => some delegation

def credits? : StakeAccountState → Option UInt64
  | uninitialized => none
  | initialized _ => none
  | stake _ _ credits => some credits

section WithMeta

variable {state : StakeAccountState} {stakeMeta stored : StakeMeta}

theorem meta?_withMeta (held : state.meta? = some stored) :
    (state.withMeta stakeMeta).meta? = some stakeMeta := by
  cases state with
  | uninitialized =>
      cases held
  | initialized other =>
      rfl
  | stake other delegation credits =>
      rfl

@[simp]
theorem delegation?_withMeta :
    (state.withMeta stakeMeta).delegation? = state.delegation? := by
  cases state <;> rfl

@[simp]
theorem credits?_withMeta :
    (state.withMeta stakeMeta).credits? = state.credits? := by
  cases state <;> rfl

end WithMeta

end StakeAccountState

namespace StakeProgram

/-- `read_discriminator`. -/
def readDiscriminator (data : List UInt8) : UInt32 :=
  if data.length < 4 then discriminatorUninitialized else u32At data 0

/-- `read_meta`. -/
def readMeta (data : List UInt8) : Option StakeMeta := do
  let staker ← pubkeyAt data 12
  let withdrawer ← pubkeyAt data 44
  let custodian ← pubkeyAt data 92
  pure
    { rentExemptReserve := u64At data 4
      authorized := { staker, withdrawer }
      lockup :=
        { unixTimestamp := i64At data 76
          epoch := u64At data 84
          custodian } }

/-- The delegation part of `read_state`. -/
def readDelegation (data : List UInt8) : Option StakeDelegation := do
  let voterPubkey ← pubkeyAt data 124
  pure
    { voterPubkey
      stake := u64At data 156
      activationEpoch := u64At data 164
      deactivationEpoch := u64At data 172
      warmupCooldownRate := f64At data 180 }

/-- The state of account data that holds one. -/
def decodeState (data : List UInt8) : Option StakeAccountState :=
  if data.length < stakeAccountSize then
    none
  else if readDiscriminator data = discriminatorUninitialized then
    some .uninitialized
  else if readDiscriminator data = discriminatorInitialized then
    (readMeta data).map .initialized
  else if readDiscriminator data = discriminatorStake then do
    let stakeMeta ← readMeta data
    let delegation ← readDelegation data
    pure (.stake stakeMeta delegation (u64At data 188))
  else
    none

/-- `write_meta`. -/
def metaPieces (stakeMeta : StakeMeta) : List Piece :=
  [(4, u64Bytes stakeMeta.rentExemptReserve),
    (12, stakeMeta.authorized.staker.bytes),
    (44, stakeMeta.authorized.withdrawer.bytes),
    (76, i64Bytes stakeMeta.lockup.unixTimestamp),
    (84, u64Bytes stakeMeta.lockup.epoch),
    (92, stakeMeta.lockup.custodian.bytes)]

/-- What `write_state` copies, in order. -/
def statePieces : StakeAccountState → List Piece
  | .uninitialized => []
  | .initialized stakeMeta =>
      (0, u32Bytes discriminatorInitialized) :: metaPieces stakeMeta
  | .stake stakeMeta delegation credits =>
      ((0, u32Bytes discriminatorStake) :: metaPieces stakeMeta) ++
        [(124, delegation.voterPubkey.bytes),
          (156, u64Bytes delegation.stake),
          (164, u64Bytes delegation.activationEpoch),
          (172, u64Bytes delegation.deactivationEpoch),
          (180, u64Bytes delegation.warmupCooldownRate.bits),
          (188, u64Bytes credits)]

/-- `write_state`, on a buffer of at least the record's size. -/
def writeState (data : List UInt8) (state : StakeAccountState) :
    List UInt8 :=
  writeAll
    (copyInto data 0 (List.replicate stakeAccountSize 0))
    (statePieces state)

section Write

variable {data : List UInt8}

theorem ascend_statePieces (state : StakeAccountState) :
    Ascend stakeAccountSize 0 (statePieces state) := by
  cases state <;>
    simp [statePieces, metaPieces, Ascend, stakeAccountSize]

theorem length_blanked (fits : stakeAccountSize ≤ data.length) :
    (copyInto data 0 (List.replicate stakeAccountSize 0)).length =
      data.length :=
  length_copyInto (by simpa using fits)

@[simp]
theorem length_writeState (fits : stakeAccountSize ≤ data.length)
    (state : StakeAccountState) :
    (writeState data state).length = data.length := by
  have blanked := length_blanked fits
  rw [writeState,
    length_writeAll (ascend_statePieces state) (fits.trans_eq blanked.symm),
    blanked]

/-- The meta part of a written state. -/
theorem readMeta_writeAll {pieces : List Piece} {stakeMeta : StakeMeta}
    (ascend : Ascend stakeAccountSize 0 pieces)
    (fits : stakeAccountSize ≤ data.length)
    (written : metaPieces stakeMeta ⊆ pieces) :
    readMeta (writeAll data pieces) = some stakeMeta := by
  simp only [metaPieces, List.cons_subset, List.nil_subset, and_true]
    at written
  rcases written with
    ⟨reserve, staker, withdrawer, timestamp, epoch, custodian⟩
  simp only [readMeta, u64At_writeAll ascend fits reserve,
    pubkeyAt_writeAll ascend fits staker,
    pubkeyAt_writeAll ascend fits withdrawer,
    i64At_writeAll ascend fits timestamp,
    u64At_writeAll ascend fits epoch,
    pubkeyAt_writeAll ascend fits custodian]
  rfl

theorem readDelegation_writeAll {stakeMeta : StakeMeta}
    {delegation : StakeDelegation} {credits : UInt64}
    (fits : stakeAccountSize ≤ data.length) :
    readDelegation
        (writeAll data
          (statePieces (.stake stakeMeta delegation credits))) =
      some delegation := by
  have ascend := ascend_statePieces (.stake stakeMeta delegation credits)
  rw [readDelegation,
    pubkeyAt_writeAll ascend fits
      (by simp [statePieces, metaPieces] :
        (124, delegation.voterPubkey.bytes) ∈ _),
    u64At_writeAll ascend fits
      (by simp [statePieces, metaPieces] :
        (156, u64Bytes delegation.stake) ∈ _),
    u64At_writeAll ascend fits
      (by simp [statePieces, metaPieces] :
        (164, u64Bytes delegation.activationEpoch) ∈ _),
    u64At_writeAll ascend fits
      (by simp [statePieces, metaPieces] :
        (172, u64Bytes delegation.deactivationEpoch) ∈ _),
    f64At_writeAll ascend fits
      (by simp [statePieces, metaPieces] :
        (180, u64Bytes delegation.warmupCooldownRate.bits) ∈ _)]
  rfl

/-- The discriminator of a blanked buffer. -/
theorem u32At_zeros {count : Nat} (fits : 4 ≤ count)
    (rest : List UInt8) :
    u32At (List.replicate count 0 ++ rest) 0 =
      discriminatorUninitialized := by
  have zeros : field (List.replicate count (0 : UInt8) ++ rest) 0 4 =
      List.replicate 4 0 := by
    rw [field, List.drop_zero,
      List.take_append_of_le_length (by simpa using fits),
      List.take_replicate, Nat.min_eq_left fits]
  rw [u32At, zeros]
  rfl

/-- Whatever the buffer held, it holds the written state. -/
theorem decodeState_writeState (fits : stakeAccountSize ≤ data.length)
    (state : StakeAccountState) :
    decodeState (writeState data state) = some state := by
  have blanked := length_blanked fits
  have fits' := fits.trans_eq blanked.symm
  have ascend := ascend_statePieces state
  have sized := length_writeState fits state
  have long : ¬ (writeState data state).length < 4 := by
    rw [sized]
    rw [stakeAccountSize] at fits
    omega
  rw [decodeState, if_neg (by rw [sized]; omega), readDiscriminator,
    if_neg long]
  rw [writeState]
  cases state with
  | uninitialized =>
      have tag :
          u32At (copyInto data 0 (List.replicate stakeAccountSize 0)) 0 =
            discriminatorUninitialized :=
        u32At_zeros (by decide) _
      exact if_pos tag
  | initialized stakeMeta =>
      rw [u32At_writeAll ascend fits' (List.mem_cons_self ..),
        if_neg (by decide), if_pos rfl,
        readMeta_writeAll ascend fits' (List.subset_cons_self _ _)]
      rfl
  | stake stakeMeta delegation credits =>
      rw [u32At_writeAll ascend fits' (List.mem_cons_self ..),
        if_neg (by decide), if_neg (by decide), if_pos rfl,
        readMeta_writeAll ascend fits'
          (by simp [statePieces, metaPieces] :
            metaPieces stakeMeta ⊆ _),
        readDelegation_writeAll fits',
        u64At_writeAll ascend fits'
          (by simp [statePieces, metaPieces] :
            (188, u64Bytes credits) ∈ _)]
      rfl

end Write

/-- A record with the discriminator of no state. -/
theorem decodeState_blank {data : List UInt8}
    (sized : data.length = stakeAccountSize)
    (blank : readDiscriminator data = discriminatorUninitialized) :
    decodeState data = some .uninitialized := by
  rw [decodeState, if_neg (by omega), if_pos blank]

/-- An account drained to nothing. -/
theorem decodeState_zeros {count : Nat}
    (fits : stakeAccountSize ≤ count) :
    decodeState (List.replicate count 0) = some .uninitialized := by
  have long : ¬ count < 4 := by
    simp only [stakeAccountSize] at fits
    omega
  have tag : u32At (List.replicate count 0) 0 =
      discriminatorUninitialized := by
    simpa using u32At_zeros (by omega : 4 ≤ count) []
  rw [decodeState, readDiscriminator, List.length_replicate,
    if_neg (by omega), if_neg long, if_pos tag]

theorem length_of_decodeState {data : List UInt8}
    {state : StakeAccountState} (decoded : decodeState data = some state) :
    stakeAccountSize ≤ data.length := by
  by_contra short
  rw [decodeState, if_pos (by omega)] at decoded
  cases decoded

end StakeProgram

end Hopper
