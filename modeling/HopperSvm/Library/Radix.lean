import HopperSvm.Library.Printing

/-!
# Changing the base of a number written in digits

Schoolbook conversion on lists of digits, least significant first: one pass
multiplies every digit by a factor, keeps what fits in the base and carries
the rest, and what is left of the carry is pushed behind the last digit.
Fed with the digits of a number in another base, most significant first, the
passes end in the digits of that number in the new base, with the one
convention that zero is written as a single zero digit.

`rebase` is what such a conversion is for: a digit string, most significant
digit first, is its leading zeros and a number, and both survive a change
of base and back.
-/

namespace Radix

open Printing

/-- Multiply every digit and add the carry, from the first digit on: the
digits that stay in place and the carry that is left. -/
def scale (base factor : ℕ) : ℕ → List ℕ → List ℕ × ℕ
  | carry, [] => ([], carry)
  | carry, digit :: rest =>
      let total := carry + digit * factor
      let scaled := scale base factor (total / base) rest
      (total % base :: scaled.1, scaled.2)

/-- One pass, with the digits of the carry pushed behind the last one. -/
def absorb (base factor : ℕ) (digits : List ℕ) (carry : ℕ) : List ℕ :=
  let scaled := scale base factor carry digits
  scaled.1 ++ Nat.digits base scaled.2

/-- The digits of a number, zero being written as one zero. -/
def padded (base number : ℕ) : List ℕ :=
  if number = 0 then [0] else Nat.digits base number

section Scale

variable {base factor : ℕ}

theorem length_scale (carry : ℕ) (digits : List ℕ) :
    (scale base factor carry digits).1.length = digits.length := by
  induction digits generalizing carry with
  | nil =>
      rfl
  | cons digit rest inductionHypothesis =>
      simp [scale, inductionHypothesis]

theorem scale_small (positive : 0 < base) (carry : ℕ)
    (digits : List ℕ) :
    ∀ digit ∈ (scale base factor carry digits).1, digit < base := by
  induction digits generalizing carry with
  | nil =>
      intro digit member
      cases member
  | cons first rest inductionHypothesis =>
      intro digit member
      rcases List.mem_cons.mp member with same | later
      · rw [same]
        exact Nat.mod_lt _ positive
      · exact inductionHypothesis _ digit later

/-- A carry below the factor stays below it, so no pass computes a number
of more than `base * factor`. -/
theorem carry_lt {carry : ℕ} {digits : List ℕ} (small : carry < factor)
    (within : ∀ digit ∈ digits, digit < base) :
    (scale base factor carry digits).2 < factor := by
  induction digits generalizing carry with
  | nil =>
      exact small
  | cons digit rest inductionHypothesis =>
      have digitSmall := within digit List.mem_cons_self
      have bounded : carry + digit * factor < base * factor := by
        have product : (digit + 1) * factor ≤ base * factor :=
          Nat.mul_le_mul_right factor digitSmall
        rw [Nat.add_mul, Nat.one_mul] at product
        omega
      have next : (carry + digit * factor) / base < factor :=
        Nat.div_lt_of_lt_mul bounded
      exact inductionHypothesis next fun other member =>
        within other (List.mem_cons_of_mem digit member)

/-- What a pass leaves is worth the product and the carry it began with. -/
theorem ofDigits_scale (carry : ℕ) (digits : List ℕ) :
    Nat.ofDigits base (scale base factor carry digits).1 +
        base ^ digits.length * (scale base factor carry digits).2 =
      Nat.ofDigits base digits * factor + carry := by
  induction digits generalizing carry with
  | nil =>
      simp [scale]
  | cons digit rest inductionHypothesis =>
      have later :=
        inductionHypothesis ((carry + digit * factor) / base)
      have whole := Nat.mod_add_div (carry + digit * factor) base
      simp only [scale, Nat.ofDigits_cons, List.length_cons, pow_succ]
      calc
        (carry + digit * factor) % base +
              base *
                Nat.ofDigits base
                  (scale base factor ((carry + digit * factor) / base)
                    rest).1 +
            base ^ rest.length * base *
              (scale base factor ((carry + digit * factor) / base)
                rest).2
          = (carry + digit * factor) % base +
              base *
                (Nat.ofDigits base
                    (scale base factor ((carry + digit * factor) / base)
                      rest).1 +
                  base ^ rest.length *
                    (scale base factor
                      ((carry + digit * factor) / base) rest).2) := by
            ring
        _ = (carry + digit * factor) % base +
              base *
                (Nat.ofDigits base rest * factor +
                  (carry + digit * factor) / base) := by
            rw [later]
        _ = (carry + digit * factor) % base +
                base * ((carry + digit * factor) / base) +
              base * Nat.ofDigits base rest * factor := by
            ring
        _ = (digit + base * Nat.ofDigits base rest) * factor + carry := by
            rw [whole]
            ring

/-- Behind a nonzero last digit the pass ends in a nonzero digit, or leaves
a carry to push. -/
theorem scale_last {carry : ℕ} {digits : List ℕ}
    (scales : 0 < factor) (small : ∀ digit ∈ digits, digit < base)
    (some : digits ≠ []) (last : digits.getLast some ≠ 0)
    (spent : (scale base factor carry digits).2 = 0) :
    ∃ front digit,
      (scale base factor carry digits).1 = front ++ [digit] ∧
        digit ≠ 0 := by
  induction digits generalizing carry with
  | nil =>
      exact absurd rfl some
  | cons first rest inductionHypothesis =>
      cases rest with
      | nil =>
          have nonzero : first ≠ 0 := last
          have product : 0 < first * factor :=
            Nat.mul_pos (Nat.pos_of_ne_zero nonzero) scales
          have within : carry + first * factor < base := by
            by_contra large
            have positive : 0 < base :=
              Nat.lt_of_le_of_lt (Nat.zero_le first)
                (small first List.mem_cons_self)
            have carried :=
              Nat.div_pos (Nat.le_of_not_lt large) positive
            have none : (carry + first * factor) / base = 0 := spent
            omega
          refine ⟨[], (carry + first * factor) % base, rfl, ?_⟩
          rw [Nat.mod_eq_of_lt within]
          omega
      | cons second rest =>
          have lastRest :
              (second :: rest).getLast (List.cons_ne_nil second rest) ≠
                0 := by
            rwa [List.getLast_cons (List.cons_ne_nil second rest)]
              at last
          obtain ⟨front, digit, ends, nonzero⟩ :=
            inductionHypothesis
              (fun digit member =>
                small digit (List.mem_cons_of_mem first member))
              (List.cons_ne_nil second rest) lastRest spent
          refine
            ⟨(carry + first * factor) % base :: front, digit, ?_,
              nonzero⟩
          change
            (carry + first * factor) % base ::
                (scale base factor ((carry + first * factor) / base)
                  (second :: rest)).1 = _
          rw [ends]
          rfl

end Scale

section Absorb

variable {base factor : ℕ}

theorem ofDigits_absorb (digits : List ℕ) (carry : ℕ) :
    Nat.ofDigits base (absorb base factor digits carry) =
      Nat.ofDigits base digits * factor + carry := by
  rw [absorb, Nat.ofDigits_append, length_scale, Nat.ofDigits_digits]
  exact ofDigits_scale carry digits

theorem absorb_small (large : 1 < base) (digits : List ℕ) (carry : ℕ) :
    ∀ digit ∈ absorb base factor digits carry, digit < base := by
  intro digit member
  rcases List.mem_append.mp member with kept | pushed
  · exact scale_small (by omega) carry digits digit kept
  · exact Nat.digits_lt_base large pushed

theorem absorb_zero (large : 1 < base) (carry : ℕ) :
    absorb base factor [0] carry = padded base carry := by
  have scaled :
      scale base factor carry [0] = ([carry % base], carry / base) := by
    simp [scale]
  rw [absorb, scaled, padded]
  split
  · rename_i zero
    subst zero
    simp
  · rename_i nonzero
    rw [Nat.digits_def' large (Nat.pos_of_ne_zero nonzero)]
    rfl

/-- A pass over the digits of a number leaves the digits of the product
with the carry added. -/
theorem absorb_padded (large : 1 < base) (scales : 0 < factor)
    (number carry : ℕ) :
    absorb base factor (padded base number) carry =
      padded base (number * factor + carry) := by
  by_cases zero : number = 0
  · rw [zero, Nat.zero_mul, Nat.zero_add]
    exact absorb_zero large carry
  · have digitsPadded : padded base number = Nat.digits base number :=
      if_neg zero
    have grown : number * factor + carry ≠ 0 := by
      have product :=
        Nat.mul_pos (Nat.pos_of_ne_zero zero) scales
      omega
    have some : Nat.digits base number ≠ [] :=
      Nat.digits_ne_nil_iff_ne_zero.mpr zero
    have last := Nat.getLast_digit_ne_zero base zero
    have within : ∀ digit ∈ Nat.digits base number, digit < base :=
      fun digit member => Nat.digits_lt_base large member
    have worth :
        Nat.ofDigits base (absorb base factor (Nat.digits base number)
          carry) = number * factor + carry := by
      rw [ofDigits_absorb, Nat.ofDigits_digits]
    rw [digitsPadded, padded, if_neg grown, ← worth]
    symm
    apply Nat.digits_ofDigits base large
    · exact absorb_small large _ carry
    · intro someAbsorbed
      by_cases spent :
          (scale base factor carry (Nat.digits base number)).2 = 0
      · obtain ⟨front, digit, ends, nonzero⟩ :=
          scale_last scales within some last spent
        have absorbed :
            absorb base factor (Nat.digits base number) carry =
              front ++ [digit] := by
          rw [absorb, spent, Nat.digits_zero, List.append_nil, ends]
        simpa [absorbed] using nonzero
      · have pushed :
            Nat.digits base
                (scale base factor carry (Nat.digits base number)).2 ≠
              [] :=
          Nat.digits_ne_nil_iff_ne_zero.mpr spent
        have pushedLast := Nat.getLast_digit_ne_zero base spent
        simpa [absorb, List.getLast_append_of_right_ne_nil _ _ pushed]
          using pushedLast

/-- Absorbing the digits of a number in the other base, most significant
first, rewrites it in this base. -/
theorem foldl_absorb (large : 1 < base) (scales : 0 < factor)
    (number : ℕ) (others : List ℕ) :
    others.foldl (absorb base factor) (padded base number) =
      padded base
        (others.foldl (fun value digit => value * factor + digit)
          number) := by
  induction others generalizing number with
  | nil =>
      rfl
  | cons digit rest inductionHypothesis =>
      rw [List.foldl_cons, absorb_padded large scales,
        inductionHypothesis, List.foldl_cons]

end Absorb

/-! ## Digit strings -/

/-- The leading zeros of a digit string. -/
def leading (digits : List ℕ) : List ℕ :=
  digits.takeWhile fun digit => digit = 0

/-- What follows the leading zeros. -/
def behind (digits : List ℕ) : List ℕ :=
  digits.dropWhile fun digit => digit = 0

/-- The digit string with as many leading zeros and the same number behind
them, in another base. -/
def rebase (base base' : ℕ) (digits : List ℕ) : List ℕ :=
  leading digits ++ (Nat.digits base' (positional base digits)).reverse

section Rebase

variable {base base' : ℕ} {digits : List ℕ}

theorem zero_of_mem_leading {digit : ℕ} (member : digit ∈ leading digits) :
    digit = 0 := by
  rw [leading] at member
  have holds := List.mem_takeWhile_imp member
  simpa using holds

theorem leading_eq (digits : List ℕ) :
    leading digits = List.replicate (leading digits).length 0 :=
  List.eq_replicate_length.mpr fun _ member =>
    zero_of_mem_leading member

/-- No digit string of a number starts with a zero. -/
theorem leading_append_digits (zeros : List ℕ)
    (all : ∀ digit ∈ zeros, digit = 0) (number : ℕ) :
    leading (zeros ++ (Nat.digits base number).reverse) = zeros := by
  have stops :
      leading (Nat.digits base number).reverse = [] := by
    by_cases zero : number = 0
    · rw [zero, Nat.digits_zero]
      rfl
    · have some : Nat.digits base number ≠ [] :=
        Nat.digits_ne_nil_iff_ne_zero.mpr zero
      have last := Nat.getLast_digit_ne_zero base zero
      rw [← List.dropLast_append_getLast some, List.reverse_append,
        List.reverse_singleton, List.singleton_append, leading,
        List.takeWhile_cons_of_neg (by simpa using last)]
  have taken :
      leading (zeros ++ (Nat.digits base number).reverse) =
        zeros ++ leading (Nat.digits base number).reverse :=
    List.takeWhile_append_of_pos fun digit member =>
      decide_eq_true (all digit member)
  rw [taken, stops, List.append_nil]

theorem leading_append_behind (digits : List ℕ) :
    leading digits ++ behind digits = digits :=
  List.takeWhile_append_dropWhile

theorem drop_leading (digits : List ℕ) :
    digits.drop (leading digits).length = behind digits := by
  conv_lhs => rw [← leading_append_behind digits]
  have sized :
      (leading (leading digits ++ behind digits)).length =
        (leading digits).length := by
    rw [leading_append_behind]
  rw [sized, List.drop_left]

/-- Leading zeros do not count. -/
theorem positional_behind (base : ℕ) (digits : List ℕ) :
    positional base (behind digits) = positional base digits := by
  conv_rhs => rw [← leading_append_behind digits, leading_eq]
  rw [positional_zeros]

theorem positional_eq_zero_iff (positive : 0 < base) :
    positional base digits = 0 ↔ ∀ digit ∈ digits, digit = 0 := by
  constructor
  · intro zero digit member
    rw [positional_eq_ofDigits] at zero
    exact
      Nat.digits_zero_of_eq_zero (Nat.pos_iff_ne_zero.mp positive) zero
        digit (List.mem_reverse.mpr member)
  · intro all
    have zeros : digits = List.replicate digits.length 0 :=
      List.eq_replicate_length.mpr all
    rw [zeros, ← List.append_nil (List.replicate _ _), positional_zeros]
    rfl

/-- A digit string is its leading zeros and the digits of its number. -/
theorem rebase_self (large : 1 < base)
    (small : ∀ digit ∈ digits, digit < base) :
    rebase base base digits = digits := by
  have back :
      (Nat.digits base (positional base (behind digits))).reverse =
        behind digits := by
    rw [positional_eq_ofDigits, Nat.digits_ofDigits base large,
      List.reverse_reverse]
    · intro digit member
      exact small digit
        ((List.dropWhile_sublist _).subset
          (List.mem_reverse.mp member))
    · intro some
      rw [List.getLast_reverse]
      have stops :=
        List.head_dropWhile_not (fun digit : ℕ => digit = 0)
          (by simpa [behind] using some)
      simpa [behind] using stops
  rw [rebase, ← positional_behind, back, leading_append_behind]

theorem leading_rebase :
    leading (rebase base base' digits) = leading digits :=
  leading_append_digits _ (fun _ member => zero_of_mem_leading member) _

theorem positional_rebase :
    positional base' (rebase base base' digits) =
      positional base digits := by
  rw [rebase, leading_eq, positional_zeros, positional_digits]

theorem rebase_small (large' : 1 < base') :
    ∀ digit ∈ rebase base base' digits, digit < base' := by
  intro digit member
  rcases List.mem_append.mp member with zero | listed
  · rw [zero_of_mem_leading zero]
    omega
  · exact Nat.digits_lt_base large' (List.mem_reverse.mp listed)

/-- Changing the base and changing it back leaves the digit string. -/
theorem rebase_rebase (large : 1 < base)
    (small : ∀ digit ∈ digits, digit < base) :
    rebase base' base (rebase base base' digits) = digits := by
  rw [rebase, leading_rebase, positional_rebase]
  exact rebase_self large small

theorem rebase_ne_nil (large : 1 < base)
    (small : ∀ digit ∈ digits, digit < base) (some : digits ≠ []) :
    rebase base base' digits ≠ [] := by
  intro none
  have back : rebase base' base (rebase base base' digits) = digits :=
    rebase_rebase large small
  rw [none] at back
  have nothing : rebase base' base [] = [] := by
    simp [rebase, leading, positional]
  exact some (back.symm.trans nothing)

/-- The passes end in the same digit string, with one more digit where the
number is zero. -/
theorem foldl_absorb_zero (large : 1 < base) (scales : 0 < base')
    (digits : List ℕ) :
    (digits.foldl (absorb base base') [0]).reverse =
      (if positional base' digits = 0 then [0] else []) ++
        (Nat.digits base (positional base' digits)).reverse := by
  have passes :
      digits.foldl (absorb base base') [0] =
        padded base (positional base' digits) :=
    foldl_absorb large scales 0 digits
  rw [passes, padded]
  split
  · rename_i zero
    rw [zero, Nat.digits_zero]
    rfl
  · rfl

end Rebase

end Radix
