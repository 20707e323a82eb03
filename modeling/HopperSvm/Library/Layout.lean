import HopperSvm.Library.Bytes

/-!
# Fixed-width layouts

How a record lies in a byte buffer of its width: writing goes over the bytes
that are there, which an absent optional field keeps, and reading gives back
what was written.
-/

namespace Bytes

/-- A fixed-width layout. -/
structure Layout (α : Type) where
  width : ℕ
  write : α → List UInt8 → List UInt8
  read : List UInt8 → Option α
  length_write : ∀ value old, old.length = width →
    (write value old).length = width
  read_write : ∀ value old, old.length = width →
    read (write value old) = some value

theorem length_take_drop {bytes : List UInt8} {left right : ℕ}
    (sized : bytes.length = left + right) :
    (bytes.take left).length = left ∧ (bytes.drop left).length = right := by
  rw [List.length_take, List.length_drop]
  omega

namespace Layout

variable {α β : Type}

/-- A field whose bytes depend on its value only. -/
def fixed (width : ℕ) (encode : α → List UInt8)
    (decode : List UInt8 → Option α)
    (length_encode : ∀ value, (encode value).length = width)
    (decode_encode : ∀ value, decode (encode value) = some value) :
    Layout α :=
  { width
    write := fun value _ => encode value
    read := decode
    length_write := fun value _ _ => length_encode value
    read_write := fun value _ _ => decode_encode value }

def byte : Layout UInt8 :=
  fixed 1 (fun value => [value]) List.head? (fun _ => rfl) fun _ => rfl

/-- A little-endian 64-bit word. -/
def word64 : Layout UInt64 :=
  fixed 8 (fun value => leBytes 8 value.toNat)
    (fun bytes => some (UInt64.ofNat (leNat bytes)))
    (fun _ => length_leBytes 8 _)
    fun value => congrArg some (ofNat_leNat_leBytes value)

/-- One field after the other. -/
def pair (first : Layout α) (second : Layout β) : Layout (α × β) where
  width := first.width + second.width
  write value old :=
    first.write value.1 (old.take first.width) ++
      second.write value.2 (old.drop first.width)
  read bytes := do
    let left ← first.read (bytes.take first.width)
    let right ← second.read (bytes.drop first.width)
    pure (left, right)
  length_write value old sized := by
    obtain ⟨front, back⟩ := length_take_drop sized
    rw [List.length_append, first.length_write _ _ front,
      second.length_write _ _ back]
  read_write value old sized := by
    obtain ⟨front, back⟩ := length_take_drop sized
    have width := first.length_write value.1 _ front
    rw [List.take_left' width, List.drop_left' width,
      first.read_write _ _ front, second.read_write _ _ back]
    rfl

/-- The same bytes under another type. -/
def imap (layout : Layout α) (make : α → β) (fields : β → α)
    (make_fields : ∀ value, make (fields value) = value) :
    Layout β where
  width := layout.width
  write value old := layout.write (fields value) old
  read bytes := (layout.read bytes).map make
  length_write value old sized :=
    layout.length_write (fields value) old sized
  read_write value old sized := by
    rw [layout.read_write _ _ sized, Option.map_some, make_fields]

/-- A four-byte tag before the field, whose bytes stay as they were when
there is no value. -/
def optional (layout : Layout α) : Layout (Option α) where
  width := 4 + layout.width
  write value old :=
    match value with
    | some value => leBytes 4 1 ++ layout.write value (old.drop 4)
    | none => leBytes 4 0 ++ old.drop 4
  read bytes :=
    if bytes.take 4 = leBytes 4 1 then
      (layout.read (bytes.drop 4)).map some
    else if bytes.take 4 = leBytes 4 0 then
      some none
    else
      none
  length_write value old sized := by
    have rest := (length_take_drop sized).2
    cases value with
    | none =>
        simp only [List.length_append, length_leBytes, rest]
    | some value =>
        simp only [List.length_append, length_leBytes,
          layout.length_write value _ rest]
  read_write value old sized := by
    have rest := (length_take_drop sized).2
    cases value with
    | none =>
        have tag :
            (leBytes 4 0 ++ old.drop 4).take 4 = leBytes 4 0 :=
          List.take_left' (length_leBytes 4 0)
        simp only [tag]
        rw [if_neg (by decide), if_true]
    | some value =>
        have tag :
            (leBytes 4 1 ++ layout.write value (old.drop 4)).take 4 =
              leBytes 4 1 :=
          List.take_left' (length_leBytes 4 1)
        have field :
            (leBytes 4 1 ++ layout.write value (old.drop 4)).drop 4 =
              layout.write value (old.drop 4) :=
          List.drop_left' (length_leBytes 4 1)
        simp only [tag, field, if_true, layout.read_write value _ rest,
          Option.map_some]

end Layout

end Bytes
