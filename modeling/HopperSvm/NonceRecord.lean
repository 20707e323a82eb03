import HopperSvm.Fields
import HopperSvm.Nonce

namespace Hopper

open Bytes

/-- `data[start..start + 32]` as a `[u8; 32]`. -/
def bytes32At (data : List UInt8) (start : Nat) : Option Bytes32 :=
  if sized : (field data start 32).length = 32 then
    some ⟨field data start 32, sized⟩
  else
    none

theorem bytes32At_eq_some {data : List UInt8} {start : Nat}
    {bytes : Bytes32} :
    bytes32At data start = some bytes ↔
      field data start 32 = bytes.val := by
  unfold bytes32At
  constructor
  · intro found
    split at found
    · cases found
      rfl
    · cases found
  · intro same
    have sized : (field data start 32).length = 32 := by
      rw [same]
      exact bytes.property
    rw [dif_pos sized, Option.some.injEq]
    exact Subtype.ext same

/-- The state in front of a buffer that holds one. -/
def decodeNonce (data : List UInt8) : Option NonceState :=
  if data.length < nonceStateBytes then
    none
  else do
    let authority ← pubkeyAt data 8
    let durableNonce ← bytes32At data 40
    pure
      { initialized := (u32At data 4).toNat = nonceTagInitialized
        authority
        durableNonce
        lamportsPerSignature := u64At data 72 }

/-- The buffer starts with an initialised state. -/
structure HoldsNonce (data : List UInt8) (stored : NonceState) :
    Prop where
  decoded : decodeNonce data = some stored
  initialized : stored.initialized = true

/-- The buffer starts with the tag of the current version. -/
def CurrentVersion (data : List UInt8) : Prop :=
  field data 0 4 = leBytes 4 nonceTagVersions

instance (data : List UInt8) : Decidable (CurrentVersion data) :=
  inferInstanceAs (Decidable (_ = _))

theorem length_of_decodeNonce {data : List UInt8} {stored : NonceState}
    (decoded : decodeNonce data = some stored) :
    nonceStateBytes ≤ data.length := by
  by_contra short
  rw [decodeNonce, if_pos (by omega)] at decoded
  cases decoded

/-- An account without data holds no nonce. -/
theorem HoldsNonce.data_ne_nil {data : List UInt8} {stored : NonceState}
    (nonce : HoldsNonce data stored) : data ≠ [] := by
  intro equal
  subst equal
  have long := length_of_decodeNonce nonce.decoded
  cases long

namespace NonceState

/-- The tag of the state. -/
def tag (state : NonceState) : Nat :=
  if state.initialized then nonceTagInitialized else nonceTagUninitialized

/-- What `write_nonce_state` copies, in order. -/
def pieces (state : NonceState) : List Piece :=
  [(0, leBytes 4 nonceTagVersions),
    (4, leBytes 4 state.tag),
    (8, state.authority.bytes),
    (40, state.durableNonce.val),
    (72, leBytes 8 state.lamportsPerSignature.toNat)]

theorem ascend_pieces (state : NonceState) :
    Ascend nonceStateBytes 0 state.pieces := by
  have sized : state.durableNonce.val.length = 32 :=
    state.durableNonce.property
  simp [pieces, Ascend, nonceStateBytes, sized]

end NonceState

section Write

variable {data : List UInt8}

theorem writeNonceState_eq (fits : nonceStateBytes ≤ data.length)
    (state : NonceState) :
    writeNonceState data state = writeAll data state.pieces := by
  rw [writeNonceState, if_neg (by omega)]
  rfl

@[simp]
theorem length_writeNonceState (state : NonceState) :
    (writeNonceState data state).length = data.length := by
  by_cases fits : nonceStateBytes ≤ data.length
  · rw [writeNonceState_eq fits,
      length_writeAll state.ascend_pieces fits]
  · rw [writeNonceState, if_pos (by omega)]

theorem drop_writeNonceState (fits : nonceStateBytes ≤ data.length)
    (state : NonceState) :
    (writeNonceState data state).drop nonceStateBytes =
      data.drop nonceStateBytes := by
  rw [writeNonceState_eq fits]
  exact drop_writeAll state.ascend_pieces fits

theorem currentVersion_writeNonceState
    (fits : nonceStateBytes ≤ data.length) (state : NonceState) :
    CurrentVersion (writeNonceState data state) := by
  rw [writeNonceState_eq fits]
  exact field_writeAll state.ascend_pieces fits (List.mem_cons_self ..)

/-- Whatever the buffer held, it holds the written state. -/
theorem decodeNonce_writeNonceState
    (fits : nonceStateBytes ≤ data.length) (state : NonceState) :
    decodeNonce (writeNonceState data state) = some state := by
  have ascend := state.ascend_pieces
  have tag := field_writeAll ascend fits
    (by simp [NonceState.pieces] : (4, leBytes 4 state.tag) ∈ _)
  have durable := field_writeAll ascend fits
    (by simp [NonceState.pieces] : (40, state.durableNonce.val) ∈ _)
  have authority :
      pubkeyAt (writeAll data state.pieces) 8 = some state.authority :=
    pubkeyAt_writeAll ascend fits (by simp [NonceState.pieces])
  have fee : u64At (writeAll data state.pieces) 72 =
      state.lamportsPerSignature :=
    u64At_writeAll ascend fits (by simp [NonceState.pieces, u64Bytes])
  have sized : state.durableNonce.val.length = 32 :=
    state.durableNonce.property
  rw [length_leBytes] at tag
  rw [sized] at durable
  have stateTag :
      decide ((u32At (writeAll data state.pieces) 4).toNat =
        nonceTagInitialized) = state.initialized := by
    rw [u32At, tag, NonceState.tag]
    cases state.initialized <;> decide
  rw [decodeNonce, length_writeNonceState, if_neg (by omega),
    writeNonceState_eq fits, authority, bytes32At_eq_some.mpr durable, fee,
    stateTag]
  rfl

/-- Rewriting the version tag of a current record. -/
theorem copyInto_version (current : CurrentVersion data) :
    copyInto data 0 (leBytes 4 nonceTagVersions) = data :=
  copyInto_field current

end Write

namespace Routine

variable {context : InvokeContext} {state final : InvokeState}

@[simp]
theorem readBytes32_yields {bytes : List UInt8} {start : Nat}
    {result : Bytes32} :
    (readBytes32 bytes start).Yields context state result final ↔
      start + 32 ≤ bytes.length ∧
        bytes32At bytes start = some result ∧ state = final := by
  simp only [readBytes32, yields_bind, slice_yields, expect_yields,
    Nat.add_sub_cancel_left, ↓existsAndEq, and_true, Nat.le_add_right,
    true_and]
  rfl

@[simp]
theorem readNonceState_yields {data : List UInt8} {stored : NonceState} :
    (readNonceState data).Yields context state stored final ↔
      decodeNonce data = some stored ∧ state = final := by
  simp only [readNonceState, yields_bind, rejectBuiltin_yields,
    readU32_yields, readPubkey_yields, readBytes32_yields, readU64_yields,
    yields_pure, ↓existsAndEq, and_true, exists_const, not_lt]
  constructor
  · rintro ⟨fits, _, authority, ⟨_, authorityAt⟩, durable, ⟨_, durableAt⟩, _,
      rfl, rfl⟩
    have found : pubkeyAt data 8 = some authority :=
      Pubkey.newFromArray_eq_some.mpr authorityAt
    rw [decodeNonce, if_neg (by omega), found, durableAt]
    exact ⟨rfl, rfl⟩
  · rintro ⟨decoded, rfl⟩
    have fits : 80 ≤ data.length := length_of_decodeNonce decoded
    obtain ⟨authority, authorityAt⟩ :=
      pubkeyAt_isSome (by omega : 8 + 32 ≤ data.length)
    have durableAt : bytes32At data 40 =
        some ⟨field data 40 32, length_field (by omega)⟩ :=
      bytes32At_eq_some.mpr rfl
    have long : ¬ data.length < nonceStateBytes := by
      unfold nonceStateBytes
      omega
    rw [decodeNonce, if_neg long, authorityAt, durableAt] at decoded
    cases decoded
    exact
      ⟨fits, by omega, authority,
        ⟨by omega, Pubkey.newFromArray_eq_some.mp authorityAt⟩, _,
        ⟨by omega, durableAt⟩, by omega, rfl, rfl⟩

end Routine

end Hopper
