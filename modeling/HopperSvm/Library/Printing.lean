import Mathlib

/-!
# Printed fields

A printed field ends in front of the first character that it cannot hold.  So
a text of fields with other characters between them falls apart in one way
only, whatever stands behind them.  Numbers are printed and read digit by
digit.
-/

namespace Printing

/-- The text does not go on with an allowed character. -/
def Stops (allowed : Char → Bool) (rest : List Char) : Prop :=
  ∀ char, rest.head? = some char → allowed char = false

theorem Stops.nil {allowed : Char → Bool} : Stops allowed [] := by
  intro char first
  cases first

theorem Stops.cons {allowed : Char → Bool} {char : Char}
    {rest : List Char} (other : allowed char = false) :
    Stops allowed (char :: rest) := by
  intro first same
  cases same
  exact other

/-- The field is what comes before the first character that it cannot
hold. -/
theorem takeWhile_field {allowed : Char → Bool} {front rest : List Char}
    (within : ∀ char ∈ front, allowed char = true)
    (stops : Stops allowed rest) :
    (front ++ rest).takeWhile allowed = front := by
  have nothing : rest.takeWhile allowed = [] := by
    cases rest with
    | nil =>
        rfl
    | cons char rest =>
        have other := stops char rfl
        rw [List.takeWhile_cons, other]
        rfl
  rw [List.takeWhile_append_of_pos within, nothing, List.append_nil]

/-- A field in front of what it cannot hold is there in one way only. -/
theorem split_unique {allowed : Char → Bool}
    {front front' rest rest' : List Char}
    (within : ∀ char ∈ front, allowed char = true)
    (within' : ∀ char ∈ front', allowed char = true)
    (stops : Stops allowed rest) (stops' : Stops allowed rest')
    (same : front ++ rest = front' ++ rest') :
    front = front' ∧ rest = rest' := by
  have fields : front = front' := by
    calc
      front = (front ++ rest).takeWhile allowed :=
        (takeWhile_field within stops).symm
      _ = (front' ++ rest').takeWhile allowed := by rw [same]
      _ = front' := takeWhile_field within' stops'
  rw [fields] at same
  exact ⟨fields, List.append_cancel_left same⟩

/-- The separator starts with what the field cannot hold. -/
def Separates (allowed : Char → Bool) (separator : List Char) : Prop :=
  ∃ char rest, separator = char :: rest ∧ allowed char = false

theorem Separates.stops {allowed : Char → Bool} {separator : List Char}
    (separates : Separates allowed separator) :
    Stops allowed separator := by
  obtain ⟨_, _, rfl, other⟩ := separates
  exact Stops.cons other

theorem Separates.append {allowed : Char → Bool} {separator : List Char}
    (separates : Separates allowed separator) (rest : List Char) :
    Separates allowed (separator ++ rest) := by
  obtain ⟨char, behind, rfl, other⟩ := separates
  exact ⟨char, behind ++ rest, rfl, other⟩

/-- The same separator cuts off the same field. -/
theorem split_field {allowed : Char → Bool}
    {front front' separator rest rest' : List Char}
    (within : ∀ char ∈ front, allowed char = true)
    (within' : ∀ char ∈ front', allowed char = true)
    (separates : Separates allowed separator)
    (same : front ++ (separator ++ rest) = front' ++ (separator ++ rest')) :
    front = front' ∧ rest = rest' := by
  obtain ⟨fields, behind⟩ :=
    split_unique within within' (separates.append rest).stops
      (separates.append rest').stops same
  exact ⟨fields, List.append_cancel_left behind⟩

/-- The decimal digits of a number. -/
def decimal (number : ℕ) : List Char := Nat.toDigits 10 number

theorem isDigit_decimal {number : ℕ} :
    ∀ char ∈ decimal number, char.isDigit = true := by
  intro char member
  exact Nat.isDigit_of_mem_toDigits (by decide) (by decide) member

theorem decimal_injective : Function.Injective decimal := by
  intro left right same
  calc
    left = Nat.ofDigitChars 10 (decimal left) 0 :=
      Nat.ofDigitChars_ten_toDigits.symm
    _ = Nat.ofDigitChars 10 (decimal right) 0 := by rw [same]
    _ = right := Nat.ofDigitChars_ten_toDigits

/-- A number in front of what starts with no digit. -/
theorem decimal_field {left right : ℕ} {separator rest rest' : List Char}
    (separates : Separates Char.isDigit separator)
    (same :
      decimal left ++ (separator ++ rest) =
        decimal right ++ (separator ++ rest')) :
    left = right ∧ rest = rest' := by
  obtain ⟨digits, behind⟩ :=
    split_field isDigit_decimal isDigit_decimal separates same
  exact ⟨decimal_injective digits, behind⟩

theorem decimal_last {left right : ℕ} {closing : List Char}
    (same : decimal left ++ closing = decimal right ++ closing) :
    left = right :=
  decimal_injective (List.append_cancel_right same)

/-- The number whose digits these are, the first digit counting most. -/
def positional (base : ℕ) (digits : List ℕ) : ℕ :=
  digits.foldl (fun value digit => value * base + digit) 0

theorem positional_eq_ofDigits (base : ℕ) (digits : List ℕ) :
    positional base digits = Nat.ofDigits base digits.reverse := by
  rw [Nat.ofDigits_eq_foldr, List.foldr_reverse, positional]
  congr 1
  funext value digit
  rw [Nat.cast_id, Nat.add_comm, Nat.mul_comm]

/-- Leading zeros do not count. -/
theorem positional_zeros (base count : ℕ) (digits : List ℕ) :
    positional base (List.replicate count 0 ++ digits) =
      positional base digits := by
  induction count with
  | zero =>
      rfl
  | succ count inductionHypothesis =>
      rw [List.replicate_succ, List.cons_append, positional,
        List.foldl_cons]
      simpa [positional] using inductionHypothesis

theorem positional_digits (base number : ℕ) :
    positional base (Nat.digits base number).reverse = number := by
  rw [positional_eq_ofDigits, List.reverse_reverse, Nat.ofDigits_digits]

/-- Digits of one length are told apart by their number. -/
theorem positional_injective {base : ℕ} (large : 1 < base)
    {left right : List ℕ} (sized : left.length = right.length)
    (small : ∀ digit ∈ left, digit < base)
    (small' : ∀ digit ∈ right, digit < base)
    (same : positional base left = positional base right) :
    left = right := by
  rw [positional_eq_ofDigits, positional_eq_ofDigits] at same
  have reversed : left.reverse = right.reverse := by
    apply Nat.ofDigits_inj_of_len_eq large
    · rw [List.length_reverse, List.length_reverse, sized]
    · intro digit member
      exact small digit (List.mem_reverse.mp member)
    · intro digit member
      exact small' digit (List.mem_reverse.mp member)
    · exact same
  exact List.reverse_inj.mp reversed

end Printing
