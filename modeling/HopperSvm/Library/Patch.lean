import HopperSvm.Library.Layout

/-!
# Records patched in place

Bytes copied over part of a laid-out record change the value that is read
by the field they fall in, and by nothing else.  Where a patch falls is
found by following the layout down to the field.
-/

namespace Bytes

/-- The bytes in front of a copy. -/
theorem take_copyInto_front {data bytes : List UInt8} {start stop : ℕ}
    (front : stop ≤ start) (fits : start ≤ data.length) :
    (copyInto data start bytes).take stop = data.take stop := by
  apply List.ext_getElem?
  intro index
  rw [List.getElem?_take, List.getElem?_take]
  by_cases inside : index < stop
  · rw [if_pos inside, if_pos inside, getElem?_copyInto fits,
      if_pos (by omega)]
  · rw [if_neg inside, if_neg inside]

/-- A copy behind the first bytes is a copy into the rest. -/
theorem drop_copyInto_behind {data bytes : List UInt8} {front start : ℕ}
    (fits : front + start ≤ data.length) :
    (copyInto data (front + start) bytes).drop front =
      copyInto (data.drop front) start bytes := by
  have inRest : start ≤ (data.drop front).length := by
    rw [List.length_drop]
    omega
  apply List.ext_getElem?
  intro index
  rw [List.getElem?_drop, getElem?_copyInto fits, getElem?_copyInto inRest,
    List.getElem?_drop]
  by_cases before : index < start
  · rw [if_pos (by omega), if_pos before]
  · by_cases within : index < start + bytes.length
    · rw [if_neg (by omega), if_pos (by omega), if_neg before,
        if_pos within]
      congr 1
      omega
    · rw [if_neg (by omega), if_neg (by omega), if_neg before,
        if_neg within]

namespace Layout

variable {α β : Type}

/-- Copied to this offset, the bytes update the value. -/
structure Patch (layout : Layout α) (start : ℕ) (bytes : List UInt8)
    (update : α → α) : Prop where
  fits : start + bytes.length ≤ layout.width
  read_copyInto : ∀ data, data.length = layout.width →
    layout.read (copyInto data start bytes) =
      (layout.read data).map update

/-- A whole field, any bytes of which hold a value. -/
theorem Patch.whole {width : ℕ} {encode : α → List UInt8}
    {decode : List UInt8 → Option α}
    {length_encode : ∀ value, (encode value).length = width}
    {decode_encode : ∀ value, decode (encode value) = some value}
    (total : ∀ bytes, bytes.length = width → (decode bytes).isSome)
    (value : α) :
    Patch (fixed width encode decode length_encode decode_encode) 0
      (encode value) fun _ => value where
  fits := by
    rw [length_encode, Nat.zero_add]
    exact Nat.le_refl _
  read_copyInto data sized := by
    have copied : copyInto data 0 (encode value) = encode value := by
      have sized : data.length = width := sized
      rw [copyInto, length_encode, Nat.zero_add, ← sized, List.drop_length,
        List.take_zero, List.nil_append, List.append_nil]
    obtain ⟨old, holds⟩ := Option.isSome_iff_exists.mp (total data sized)
    change decode (copyInto data 0 (encode value)) = (decode data).map _
    rw [copied, decode_encode, holds, Option.map_some]

theorem Patch.pair_fst {first : Layout α} {second : Layout β} {start : ℕ}
    {bytes : List UInt8} {update : α → α}
    (patch : Patch first start bytes update) :
    Patch (first.pair second) start bytes (Prod.map update id) where
  fits := Nat.le_trans patch.fits (Nat.le_add_right _ _)
  read_copyInto data sized := by
    have sized : data.length = first.width + second.width := sized
    have fits := patch.fits
    have front := (length_take_drop sized).1
    simp only [pair]
    rw [take_copyInto fits (by omega), drop_copyInto (by omega) fits,
      patch.read_copyInto _ front]
    cases first.read (data.take first.width) with
    | none =>
        rfl
    | some left =>
        cases second.read (data.drop first.width) with
        | none =>
            rfl
        | some right =>
            rfl

theorem Patch.pair_snd {first : Layout α} {second : Layout β}
    {start start' : ℕ} {bytes : List UInt8} {update : β → β}
    (patch : Patch second start bytes update)
    (placed : first.width + start = start') :
    Patch (first.pair second) start' bytes (Prod.map id update) where
  fits := by
    have fits := patch.fits
    change start' + bytes.length ≤ first.width + second.width
    omega
  read_copyInto data sized := by
    have sized : data.length = first.width + second.width := sized
    have fits := patch.fits
    have back := (length_take_drop sized).2
    subst placed
    simp only [pair]
    rw [take_copyInto_front (by omega) (by omega),
      drop_copyInto_behind (by omega), patch.read_copyInto _ back]
    cases first.read (data.take first.width) with
    | none =>
        rfl
    | some left =>
        cases second.read (data.drop first.width) with
        | none =>
            rfl
        | some right =>
            rfl

/-- Behind the tag, which tells whether there is a value to update. -/
theorem Patch.optional {layout : Layout α} {start start' : ℕ}
    {bytes : List UInt8} {update : α → α}
    (patch : Patch layout start bytes update)
    (placed : 4 + start = start') :
    Patch layout.optional start' bytes (Option.map update) where
  fits := by
    have fits := patch.fits
    change start' + bytes.length ≤ 4 + layout.width
    omega
  read_copyInto data sized := by
    have sized : data.length = 4 + layout.width := sized
    have fits := patch.fits
    have back := (length_take_drop sized).2
    subst placed
    simp only [Layout.optional]
    rw [take_copyInto_front (by omega) (by omega),
      drop_copyInto_behind (by omega), patch.read_copyInto _ back]
    by_cases present : data.take 4 = leBytes 4 1
    · rw [if_pos present, if_pos present, Option.map_map, Option.map_map]
      rfl
    · rw [if_neg present, if_neg present]
      by_cases absent : data.take 4 = leBytes 4 0
      · rw [if_pos absent]
        rfl
      · rw [if_neg absent]
        rfl

/-- Under another type, the update of the fields is one of the record. -/
theorem Patch.imap {layout : Layout α} {make : α → β} {fields : β → α}
    {make_fields : ∀ value, make (fields value) = value} {start : ℕ}
    {bytes : List UInt8} {update : α → α} {update' : β → β}
    (patch : Patch layout start bytes update)
    (same : ∀ value, make (update value) = update' (make value)) :
    Patch (layout.imap make fields make_fields) start bytes update' where
  fits := patch.fits
  read_copyInto data sized := by
    change
      (layout.read (copyInto data start bytes)).map make =
        ((layout.read data).map make).map update'
    rw [patch.read_copyInto data sized, Option.map_map, Option.map_map]
    congr 1
    funext value
    exact same value

end Layout

end Bytes
