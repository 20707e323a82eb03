import HopperSvm.Runtime
import HopperSvm.Library.Record

namespace Hopper

open Bytes

/-- `u32::from_le_bytes(data[start..start + 4])`. -/
def u32At (data : List UInt8) (start : Nat) : UInt32 :=
  UInt32.ofNat (leNat (field data start 4))

/-- `u64::from_le_bytes(data[start..start + 8])`. -/
def u64At (data : List UInt8) (start : Nat) : UInt64 :=
  UInt64.ofNat (leNat (field data start 8))

/-- `i64::from_le_bytes(data[start..start + 8])`. -/
def i64At (data : List UInt8) (start : Nat) : Int64 :=
  (u64At data start).toInt64

/-- `f64::from_le_bytes(data[start..start + 8])`. -/
def f64At (data : List UInt8) (start : Nat) : F64 :=
  ⟨u64At data start⟩

/-- `data[index]`. -/
def byteAt (data : List UInt8) (index : Nat) : UInt8 :=
  data.getD index 0

/-- `Pubkey::new_from_array(data[start..start + 32].try_into()?)`. -/
def pubkeyAt (data : List UInt8) (start : Nat) : Option Pubkey :=
  Pubkey.newFromArray (field data start 32)

/-- The tag in front of an instruction's data. -/
def tagOf (data : List UInt8) : Nat := (u32At data 0).toNat

/-- `word.to_le_bytes()` of a 32-bit word. -/
def u32Bytes (word : UInt32) : List UInt8 := leBytes 4 word.toNat

/-- `word.to_le_bytes()` of a 64-bit word. -/
def u64Bytes (word : UInt64) : List UInt8 := leBytes 8 word.toNat

/-- `word.to_le_bytes()` of a signed 64-bit word. -/
def i64Bytes (word : Int64) : List UInt8 := u64Bytes word.toUInt64

@[simp]
theorem length_u32Bytes (word : UInt32) : (u32Bytes word).length = 4 :=
  length_leBytes 4 _

@[simp]
theorem length_u64Bytes (word : UInt64) : (u64Bytes word).length = 8 :=
  length_leBytes 8 _

@[simp]
theorem length_i64Bytes (word : Int64) : (i64Bytes word).length = 8 :=
  length_u64Bytes _

attribute [simp] Pubkey.length_eq

/-- A byte that is a field of its own. -/
theorem byteAt_of_field {data : List UInt8} {index : Nat} {byte : UInt8}
    (alone : field data index 1 = [byte]) : byteAt data index = byte := by
  have first := congrArg List.head? alone
  rw [field, List.head?_take, if_neg Nat.one_ne_zero, List.head?_drop,
    List.head?_cons] at first
  rw [byteAt, List.getD_eq_getElem?_getD, first, Option.getD_some]

section Read

variable {data : List UInt8} {pieces : List Piece} {stop start : Nat}

theorem u32At_writeAll (ascend : Ascend stop 0 pieces)
    (fits : stop ≤ data.length) {word : UInt32}
    (member : (start, u32Bytes word) ∈ pieces) :
    u32At (writeAll data pieces) start = word := by
  have read := field_writeAll ascend fits member
  rw [length_u32Bytes] at read
  have small : word.toNat < 256 ^ 4 := word.toNat_lt
  rw [u32At, read, u32Bytes, leNat_leBytes small, UInt32.ofNat_toNat]

theorem u64At_writeAll (ascend : Ascend stop 0 pieces)
    (fits : stop ≤ data.length) {word : UInt64}
    (member : (start, u64Bytes word) ∈ pieces) :
    u64At (writeAll data pieces) start = word := by
  have read := field_writeAll ascend fits member
  rw [length_u64Bytes] at read
  rw [u64At, read]
  exact ofNat_leNat_leBytes word

theorem i64At_writeAll (ascend : Ascend stop 0 pieces)
    (fits : stop ≤ data.length) {word : Int64}
    (member : (start, i64Bytes word) ∈ pieces) :
    i64At (writeAll data pieces) start = word := by
  have read : u64At (writeAll data pieces) start = word.toUInt64 :=
    u64At_writeAll ascend fits member
  rw [i64At, read]
  exact word.toInt64_toUInt64

theorem f64At_writeAll (ascend : Ascend stop 0 pieces)
    (fits : stop ≤ data.length) {value : F64}
    (member : (start, u64Bytes value.bits) ∈ pieces) :
    f64At (writeAll data pieces) start = value := by
  rw [f64At, u64At_writeAll ascend fits member]

theorem byteAt_writeAll (ascend : Ascend stop 0 pieces)
    (fits : stop ≤ data.length) {byte : UInt8}
    (member : (start, [byte]) ∈ pieces) :
    byteAt (writeAll data pieces) start = byte := by
  have read : field (writeAll data pieces) start 1 = [byte] :=
    field_writeAll ascend fits member
  exact byteAt_of_field read

theorem pubkeyAt_writeAll (ascend : Ascend stop 0 pieces)
    (fits : stop ≤ data.length) {address : Pubkey}
    (member : (start, address.bytes) ∈ pieces) :
    pubkeyAt (writeAll data pieces) start = some address := by
  have read := field_writeAll ascend fits member
  rw [address.length_eq] at read
  rw [pubkeyAt, read, Pubkey.newFromArray_eq_some]

end Read

/-- In a long enough buffer every address reads. -/
theorem pubkeyAt_isSome {data : List UInt8} {start : Nat}
    (fits : start + 32 ≤ data.length) :
    ∃ address, pubkeyAt data start = some address :=
  ⟨⟨field data start 32, length_field fits⟩,
    Pubkey.newFromArray_eq_some.mpr rfl⟩

/-- A 64-bit word read from a long enough buffer encodes as it stood. -/
theorem u64Bytes_u64At {data : List UInt8} {start : Nat}
    (fits : start + 8 ≤ data.length) :
    u64Bytes (u64At data start) = field data start 8 := by
  have width : (field data start 8).length = 8 := length_field fits
  have small := leNat_lt (field data start 8)
  rw [width] at small
  have whole : (u64At data start).toNat = leNat (field data start 8) :=
    UInt64.toNat_ofNat_of_lt' small
  have back := leBytes_leNat (field data start 8)
  rw [width] at back
  rw [u64Bytes, whole, back]

end Hopper
