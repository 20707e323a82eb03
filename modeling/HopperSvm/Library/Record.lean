import HopperSvm.Library.Bytes

/-!
# Records written piece by piece

A record is written over a buffer by copying its pieces to their offsets, one
after the other.  When the pieces lie in ascending order every one of them
reads back, and the bytes clear of them stay as they were.
-/

namespace Bytes

/-- Bytes with the offset they are copied to. -/
abbrev Piece : Type := Nat × List UInt8

/-- Copy each piece over the buffer, in order. -/
def writeAll (data : List UInt8) : List Piece → List UInt8
  | [] => data
  | (start, bytes) :: rest => writeAll (copyInto data start bytes) rest

/-- The pieces lie one behind the other between the two offsets. -/
def Ascend (stop : Nat) : Nat → List Piece → Prop
  | bound, [] => bound ≤ stop
  | bound, (start, bytes) :: rest =>
      bound ≤ start ∧ Ascend stop (start + bytes.length) rest

theorem Ascend.bound_le {stop bound : Nat} {pieces : List Piece}
    (ascend : Ascend stop bound pieces) : bound ≤ stop := by
  induction pieces generalizing bound with
  | nil =>
      exact ascend
  | cons piece rest inductionHypothesis =>
      have later := inductionHypothesis ascend.2
      have first := ascend.1
      omega

theorem length_writeAll {data : List UInt8} {pieces : List Piece}
    {stop bound : Nat} (ascend : Ascend stop bound pieces)
    (fits : stop ≤ data.length) :
    (writeAll data pieces).length = data.length := by
  induction pieces generalizing data bound with
  | nil =>
      rfl
  | cons piece rest inductionHypothesis =>
      have inside := ascend.2.bound_le
      have copied : (copyInto data piece.1 piece.2).length = data.length :=
        length_copyInto (by omega)
      rw [writeAll, inductionHypothesis ascend.2 (by omega), copied]

/-- A field before or behind all the pieces stays. -/
theorem field_writeAll_apart {data : List UInt8} {pieces : List Piece}
    {stop bound start width : Nat} (ascend : Ascend stop bound pieces)
    (fits : stop ≤ data.length)
    (apart : start + width ≤ bound ∨ stop ≤ start) :
    field (writeAll data pieces) start width = field data start width := by
  induction pieces generalizing data bound with
  | nil =>
      rfl
  | cons piece rest inductionHypothesis =>
      have inside := ascend.2.bound_le
      have first := ascend.1
      have copied : (copyInto data piece.1 piece.2).length = data.length :=
        length_copyInto (by omega)
      rw [writeAll, inductionHypothesis ascend.2 (by omega) (by omega)]
      exact field_copyInto_apart (by omega) (by omega)

/-- Every piece reads back. -/
theorem field_writeAll {data : List UInt8} {pieces : List Piece}
    {stop bound : Nat} (ascend : Ascend stop bound pieces)
    (fits : stop ≤ data.length) {start : Nat} {bytes : List UInt8}
    (member : (start, bytes) ∈ pieces) :
    field (writeAll data pieces) start bytes.length = bytes := by
  induction pieces generalizing data bound with
  | nil =>
      cases member
  | cons piece rest inductionHypothesis =>
      have inside := ascend.2.bound_le
      have copied : (copyInto data piece.1 piece.2).length = data.length :=
        length_copyInto (by omega)
      rw [writeAll]
      cases member with
      | head =>
          rw [field_writeAll_apart ascend.2 (by omega) (by simp)]
          exact field_copyInto_same (by simp only at inside; omega) rfl
      | tail _ member =>
          exact inductionHypothesis ascend.2 (by omega) member

/-- The bytes behind all the pieces stay. -/
theorem drop_writeAll {data : List UInt8} {pieces : List Piece}
    {stop bound : Nat} (ascend : Ascend stop bound pieces)
    (fits : stop ≤ data.length) :
    (writeAll data pieces).drop stop = data.drop stop := by
  induction pieces generalizing data bound with
  | nil =>
      rfl
  | cons piece rest inductionHypothesis =>
      have inside := ascend.2.bound_le
      have copied : (copyInto data piece.1 piece.2).length = data.length :=
        length_copyInto (by omega)
      rw [writeAll, inductionHypothesis ascend.2 (by omega)]
      exact drop_copyInto (by omega) inside

/-- The bytes up to the end of the pieces are the record written over those
bytes alone. -/
theorem take_writeAll {data : List UInt8} {pieces : List Piece}
    {stop bound : Nat} (ascend : Ascend stop bound pieces)
    (fits : stop ≤ data.length) :
    (writeAll data pieces).take stop = writeAll (data.take stop) pieces := by
  induction pieces generalizing data bound with
  | nil =>
      rfl
  | cons piece rest inductionHypothesis =>
      have inside := ascend.2.bound_le
      have copied : (copyInto data piece.1 piece.2).length = data.length :=
        length_copyInto (by omega)
      rw [writeAll, writeAll, inductionHypothesis ascend.2 (by omega),
        take_copyInto inside fits]

end Bytes
