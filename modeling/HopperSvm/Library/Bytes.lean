import Mathlib

namespace Bytes

/-- The natural number whose little-endian bytes these are. -/
def leNat (bytes : List UInt8) : Nat :=
  bytes.foldr (fun byte value => byte.toNat + 256 * value) 0

/-- The `count` lowest little-endian bytes of a number. -/
def leBytes : Nat → Nat → List UInt8
  | 0, _ => []
  | count + 1, value =>
      UInt8.ofNat (value % 256) :: leBytes count (value / 256)

@[simp]
theorem length_leBytes (count value : Nat) :
    (leBytes count value).length = count := by
  induction count generalizing value with
  | zero =>
      rfl
  | succ count inductionHypothesis =>
      rw [leBytes, List.length_cons, inductionHypothesis]

/-- Reading back what was written. -/
theorem leNat_leBytes {count value : Nat} (fits : value < 256 ^ count) :
    leNat (leBytes count value) = value := by
  induction count generalizing value with
  | zero =>
      have zero : value = 0 := by
        simpa using fits
      rw [zero]
      rfl
  | succ count inductionHypothesis =>
      have rest : value / 256 < 256 ^ count := by
        rw [Nat.pow_succ] at fits
        omega
      have head : (UInt8.ofNat (value % 256)).toNat = value % 256 := by
        rw [UInt8.toNat_ofNat']
        omega
      have unfolded :
          leNat (leBytes (count + 1) value) =
            (UInt8.ofNat (value % 256)).toNat +
              256 * leNat (leBytes count (value / 256)) := rfl
      rw [unfolded, inductionHypothesis rest, head]
      omega

/-- A number below the bound of its width. -/
theorem leNat_lt (bytes : List UInt8) :
    leNat bytes < 256 ^ bytes.length := by
  induction bytes with
  | nil =>
      decide
  | cons byte bytes inductionHypothesis =>
      have unfolded : leNat (byte :: bytes) =
          byte.toNat + 256 * leNat bytes := rfl
      have small : byte.toNat < 256 := byte.toNat_lt
      rw [unfolded, List.length_cons, Nat.pow_succ]
      omega

/-- Writing back what was read. -/
theorem leBytes_leNat (bytes : List UInt8) :
    leBytes bytes.length (leNat bytes) = bytes := by
  induction bytes with
  | nil =>
      rfl
  | cons byte bytes inductionHypothesis =>
      have unfolded : leNat (byte :: bytes) =
          byte.toNat + 256 * leNat bytes := rfl
      have small : byte.toNat < 256 := byte.toNat_lt
      have low : (byte.toNat + 256 * leNat bytes) % 256 = byte.toNat := by
        omega
      have high : (byte.toNat + 256 * leNat bytes) / 256 =
          leNat bytes := by
        omega
      rw [unfolded, List.length_cons, leBytes, low, high,
        inductionHypothesis, UInt8.ofNat_toNat]

/-- A 64-bit word survives its encoding. -/
theorem ofNat_leNat_leBytes (word : UInt64) :
    UInt64.ofNat (leNat (leBytes 8 word.toNat)) = word := by
  have fits : word.toNat < 256 ^ 8 := word.toNat_lt
  rw [leNat_leBytes fits, UInt64.ofNat_toNat]

/-- The field that starts after `front`. -/
theorem take_drop_field {front field back : List UInt8}
    {start width : Nat} (starts : front.length = start)
    (ends : field.length = width) :
    ((front ++ (field ++ back)).drop start).take width = field := by
  rw [List.drop_left' starts, List.take_left' ends]

/-- `data[start..].copy_from_slice(bytes)` over as many bytes. -/
def copyInto (data : List UInt8) (start : Nat) (bytes : List UInt8) :
    List UInt8 :=
  data.take start ++ bytes ++ data.drop (start + bytes.length)

/-- The `width` bytes from `start` on. -/
def field (data : List UInt8) (start width : Nat) : List UInt8 :=
  (data.drop start).take width

theorem length_field {data : List UInt8} {start width : Nat}
    (fits : start + width ≤ data.length) :
    (field data start width).length = width := by
  rw [field, List.length_take, List.length_drop]
  omega

/-- A field behind a front that was cut off. -/
theorem field_drop (data : List UInt8) (front start width : Nat) :
    field (data.drop front) start width =
      field data (front + start) width := by
  rw [field, List.drop_drop, field]

section Entries

variable {α : Type} {encode : α → List UInt8} {width : Nat}

theorem length_flatMap_entries
    (sized : ∀ item, (encode item).length = width) (items : List α) :
    (items.flatMap encode).length = items.length * width := by
  induction items with
  | nil =>
      exact (Nat.zero_mul width).symm
  | cons head tail inductionHypothesis =>
      rw [List.flatMap_cons, List.length_append, sized,
        inductionHypothesis, List.length_cons, Nat.succ_mul,
        Nat.add_comm]

/-- The entry at an index is the field at its offset. -/
theorem field_flatMap_entries
    (sized : ∀ item, (encode item).length = width) {items : List α}
    {index : Nat} {item : α} (atIndex : items[index]? = some item) :
    field (items.flatMap encode) (index * width) width = encode item := by
  induction items generalizing index with
  | nil =>
      cases atIndex
  | cons head tail inductionHypothesis =>
      cases index with
      | zero =>
          cases atIndex
          rw [Nat.zero_mul, field, List.drop_zero, List.flatMap_cons]
          exact List.take_left' (sized _)
      | succ index =>
          have later := inductionHypothesis atIndex
          have front :
              (encode head ++ tail.flatMap encode).drop width =
                tail.flatMap encode := List.drop_left' (sized head)
          rw [← later, ← front, List.flatMap_cons, field_drop,
            Nat.succ_mul, Nat.add_comm]

end Entries

theorem length_copyInto {data bytes : List UInt8} {start : Nat}
    (fits : start + bytes.length ≤ data.length) :
    (copyInto data start bytes).length = data.length := by
  simp only [copyInto, List.length_append, List.length_take,
    List.length_drop]
  omega

/-- The bytes of a buffer after a copy. -/
theorem getElem?_copyInto {data bytes : List UInt8} {start : Nat}
    (fits : start ≤ data.length) (index : Nat) :
    (copyInto data start bytes)[index]? =
      if index < start then data[index]?
      else if index < start + bytes.length then bytes[index - start]?
      else data[index]? := by
  have front : (data.take start).length = start := by
    rw [List.length_take]
    omega
  rw [copyInto, List.append_assoc, List.getElem?_append, front]
  split
  · rename_i inFront
    exact List.getElem?_take_of_lt inFront
  · rename_i behind
    rw [List.getElem?_append]
    by_cases inside : index < start + bytes.length
    · rw [if_pos (by omega), if_pos inside]
    · rw [if_neg (by omega), if_neg inside, List.getElem?_drop]
      congr 1
      omega

/-- Two fields agree when the buffers agree on their bytes. -/
theorem field_congr {left right : List UInt8} {start width : Nat}
    (same : ∀ index, start ≤ index → index < start + width →
      left[index]? = right[index]?) :
    field left start width = field right start width := by
  apply List.ext_getElem?
  intro index
  rw [field, field, List.getElem?_take, List.getElem?_take]
  split
  · rename_i inField
    rw [List.getElem?_drop, List.getElem?_drop]
    exact same _ (by omega) (by omega)
  · rfl

/-- The field that was copied over. -/
theorem field_copyInto_same {data bytes : List UInt8}
    {start width : Nat} (fits : start ≤ data.length)
    (sized : bytes.length = width) :
    field (copyInto data start bytes) start width = bytes := by
  have front : (data.take start).length = start := by
    rw [List.length_take]
    omega
  rw [field, copyInto, List.append_assoc]
  exact take_drop_field front sized

/-- A field clear of the copy. -/
theorem field_copyInto_apart {data bytes : List UInt8}
    {start start' width : Nat} (fits : start ≤ data.length)
    (apart : start' + width ≤ start ∨ start + bytes.length ≤ start') :
    field (copyInto data start bytes) start' width =
      field data start' width := by
  apply field_congr
  intro index above below
  rw [getElem?_copyInto fits]
  rcases apart with before | after
  · rw [if_pos (by omega)]
  · rw [if_neg (by omega), if_neg (by omega)]

/-- The bytes behind the copy. -/
theorem drop_copyInto {data bytes : List UInt8} {start stop : Nat}
    (fits : start ≤ data.length) (behind : start + bytes.length ≤ stop) :
    (copyInto data start bytes).drop stop = data.drop stop := by
  apply List.ext_getElem?
  intro index
  rw [List.getElem?_drop, List.getElem?_drop, getElem?_copyInto fits,
    if_neg (by omega), if_neg (by omega)]

/-- A copy within the first bytes is a copy into them. -/
theorem take_copyInto {data bytes : List UInt8} {start stop : Nat}
    (within : start + bytes.length ≤ stop) (fits : stop ≤ data.length) :
    (copyInto data start bytes).take stop =
      copyInto (data.take stop) start bytes := by
  have short : (data.take stop).length = stop := by
    rw [List.length_take]
    omega
  apply List.ext_getElem?
  intro index
  rw [List.getElem?_take, getElem?_copyInto (by omega),
    getElem?_copyInto (by omega), List.getElem?_take]
  by_cases inside : index < stop
  · simp only [if_pos inside]
  · rw [if_neg inside, if_neg (by omega), if_neg (by omega),
      if_neg inside]

/-- Copying a field over itself. -/
theorem copyInto_field {data bytes : List UInt8} {start : Nat}
    (same : field data start bytes.length = bytes) :
    copyInto data start bytes = data := by
  have copied : data.take start ++ (data.drop start).take bytes.length =
      data.take (start + bytes.length) := List.take_add.symm
  rw [copyInto]
  nth_rewrite 1 [← same]
  rw [field, copied, List.take_append_drop]

end Bytes
