import HopperSvm.StakeEffects

namespace Hopper

namespace StakeProgram

open Bytes Routine

/-- The record of a state. -/
def encodeState (state : StakeAccountState) : List UInt8 :=
  writeAll (List.replicate stakeAccountSize 0) (statePieces state)

section Codec

variable {data other : List UInt8} {decoded : StakeAccountState}

/-- The first bytes of a written buffer. -/
theorem take_writeState (fits : stakeAccountSize ≤ data.length)
    (state : StakeAccountState) :
    (writeState data state).take stakeAccountSize = encodeState state := by
  have blanked := length_blanked fits
  have front :
      (copyInto data 0 (List.replicate stakeAccountSize 0)).take
          stakeAccountSize =
        List.replicate stakeAccountSize 0 := by
    rw [copyInto, List.take_zero, List.nil_append]
    exact List.take_left' List.length_replicate
  rw [writeState,
    take_writeAll (ascend_statePieces state)
      (fits.trans_eq blanked.symm),
    front, encodeState]

/-- The bytes behind the record. -/
theorem drop_writeState (fits : stakeAccountSize ≤ data.length)
    (state : StakeAccountState) :
    (writeState data state).drop stakeAccountSize =
      data.drop stakeAccountSize := by
  have blanked := length_blanked fits
  rw [writeState,
    drop_writeAll (ascend_statePieces state)
      (fits.trans_eq blanked.symm)]
  exact
    drop_copyInto (Nat.zero_le _)
      (by rw [List.length_replicate, Nat.zero_add])

/-- Writing is putting the record in front of the bytes behind it. -/
theorem writeState_eq (fits : stakeAccountSize ≤ data.length)
    (state : StakeAccountState) :
    writeState data state =
      encodeState state ++ data.drop stakeAccountSize := by
  rw [← take_writeState fits state, ← drop_writeState fits state,
    List.take_append_drop]

/-- The last write counts. -/
theorem writeState_writeState (fits : stakeAccountSize ≤ data.length)
    (first second : StakeAccountState) :
    writeState (writeState data first) second =
      writeState data second := by
  have fits' : stakeAccountSize ≤ (writeState data first).length := by
    rw [length_writeState fits]
    exact fits
  rw [writeState_eq fits', drop_writeState fits, ← writeState_eq fits]

end Codec

/-- Reading gives back what was written, the record depends on the state
only, and what a buffer reads as can be written back any number of times. -/
theorem codec_lossless (context : InvokeContext) (state : InvokeState) :
    (∀ (stakeState : StakeAccountState) (data : List UInt8),
        stakeAccountSize ≤ data.length →
          (readState (writeState data stakeState)).Yields context state
              stakeState state ∧
            (∀ other : List UInt8, stakeAccountSize ≤ other.length →
              (writeState data stakeState).take stakeAccountSize =
                (writeState other stakeState).take stakeAccountSize) ∧
            (writeState data stakeState).drop stakeAccountSize =
              data.drop stakeAccountSize) ∧
      ∀ (data : List UInt8) (decoded : StakeAccountState),
        (readState data).Yields context state decoded state →
          (readState (writeState data decoded)).Yields context state
              decoded state ∧
            ∀ again : StakeAccountState,
              (readState (writeState data decoded)).Yields context state
                  again state →
                writeState (writeState data decoded) again =
                  writeState data decoded := by
  have readsBack (stakeState : StakeAccountState) (data : List UInt8)
      (fits : stakeAccountSize ≤ data.length) :
      (readState (writeState data stakeState)).Yields context state
        stakeState state :=
    readState_yields.mpr ⟨decodeState_writeState fits stakeState, rfl⟩
  constructor
  · intro stakeState data fits
    refine ⟨readsBack stakeState data fits, ?_, drop_writeState fits _⟩
    intro other fits'
    rw [take_writeState fits, take_writeState fits']
  · intro data decoded yields
    obtain ⟨decodes, _⟩ := readState_yields.mp yields
    have fits := length_of_decodeState decodes
    refine ⟨readsBack decoded data fits, ?_⟩
    intro again yields'
    obtain ⟨decodes', _⟩ := readState_yields.mp yields'
    rw [decodeState_writeState fits] at decodes'
    cases decodes'
    exact writeState_writeState fits decoded decoded

def lockedState : StakeAccountState :=
  .initialized
    { rentExemptReserve := 2282880
      authorized := ⟨.filled 1, .filled 2⟩
      lockup := ⟨1700000000, 3, .filled 4⟩ }

def restingState : InvokeState :=
  { accounts := []
    logs := .empty
    budget := .default
    cells := { pendingCuLimit := none
               priorityFeeMicroLamportsPerCu := 0 } }

/-- A buffer of 210 old bytes. -/
theorem codec_lossless_dirty :
    (readState (writeState (List.replicate 210 0xFF) lockedState)).Yields
      { programId := stakeProgramId
        accountMetas := []
        sysvars := .default }
      restingState lockedState restingState :=
  ((codec_lossless _ _).1 _ _ (by decide +kernel)).1

end StakeProgram

end Hopper
