import Mathlib

namespace Words

/-- `u64::MAX`. -/
def u64Max : Nat := 2 ^ 64 - 1

/-- `isize::MAX`, the size of the largest allocation. -/
def isizeMax : Nat := 2 ^ 63 - 1

/-- `u128::MAX`. -/
def u128Max : Nat := 2 ^ 128 - 1

/-- `left.saturating_add(right)`. -/
def saturatingAdd (left right : UInt64) : UInt64 :=
  UInt64.ofNat (min (left.toNat + right.toNat) u64Max)

/-- `left.saturating_sub(right)`. -/
def saturatingSub (left right : UInt64) : UInt64 :=
  UInt64.ofNat (left.toNat - right.toNat)

/-- `left.saturating_mul(right)`. -/
def saturatingMul (left right : UInt64) : UInt64 :=
  UInt64.ofNat (min (left.toNat * right.toNat) u64Max)

/-- `left.checked_add(right)`. -/
def checkedAdd (left right : UInt64) : Option UInt64 :=
  if left.toNat + right.toNat ≤ u64Max then some (left + right) else none

theorem toNat_le_u64Max (word : UInt64) : word.toNat ≤ u64Max := by
  have bound := word.toNat_lt
  simp only [u64Max]
  omega

@[simp]
theorem toNat_saturatingAdd (left right : UInt64) :
    (saturatingAdd left right).toNat =
      min (left.toNat + right.toNat) u64Max := by
  rw [saturatingAdd, UInt64.toNat_ofNat_of_lt']
  simp only [u64Max]
  show _ < 2 ^ 64
  omega

@[simp]
theorem toNat_saturatingSub (left right : UInt64) :
    (saturatingSub left right).toNat = left.toNat - right.toNat := by
  rw [saturatingSub, UInt64.toNat_ofNat_of_lt']
  have bound := left.toNat_lt
  show _ < 2 ^ 64
  omega

@[simp]
theorem toNat_saturatingMul (left right : UInt64) :
    (saturatingMul left right).toNat =
      min (left.toNat * right.toNat) u64Max := by
  rw [saturatingMul, UInt64.toNat_ofNat_of_lt']
  simp only [u64Max]
  show _ < 2 ^ 64
  omega

theorem checkedAdd_eq_some {left right sum : UInt64} :
    checkedAdd left right = some sum ↔
      left.toNat + right.toNat = sum.toNat := by
  have bound := toNat_le_u64Max sum
  constructor
  · intro checked
    simp only [checkedAdd] at checked
    split at checked
    · cases checked
      rename_i fits
      simp only [u64Max] at fits
      rw [UInt64.toNat_add]
      omega
    · cases checked
  · intro same
    have fits : left.toNat + right.toNat ≤ u64Max := same ▸ bound
    rw [checkedAdd, if_pos fits, Option.some.injEq,
      ← UInt64.toNat_inj, UInt64.toNat_add]
    simp only [u64Max] at fits
    omega

theorem toNat_sub_of_not_lt {left right : UInt64}
    (enough : ¬ left < right) :
    (left - right).toNat + right.toNat = left.toNat := by
  have ordered : right ≤ left := UInt64.not_lt.mp enough
  rw [UInt64.toNat_sub_of_le _ _ ordered]
  have := UInt64.le_iff_toNat_le.mp ordered
  omega

/-- `i64::MAX`. -/
def i64Max : Int := 2 ^ 63 - 1

/-- `i64::MIN`. -/
def i64Min : Int := -2 ^ 63

/-- The nearest integer that an `i64` holds. -/
def pinI64 (value : Int) : Int :=
  max i64Min (min value i64Max)

def saturateI64 (value : Int) : Int64 :=
  Int64.ofInt (pinI64 value)

/-- `left.saturating_add(right)` on `i64`. -/
def saturatingAddI64 (left right : Int64) : Int64 :=
  saturateI64 (left.toInt + right.toInt)

/-- `left.saturating_sub(right)` on `i64`. -/
def saturatingSubI64 (left right : Int64) : Int64 :=
  saturateI64 (left.toInt - right.toInt)

/-- `left.saturating_mul(right)` on `i64`. -/
def saturatingMulI64 (left right : Int64) : Int64 :=
  saturateI64 (left.toInt * right.toInt)

@[simp]
theorem toInt_saturateI64 (value : Int) :
    (saturateI64 value).toInt = pinI64 value := by
  apply Int64.toInt_ofInt_of_le
  · simp only [pinI64, i64Min, i64Max]
    omega
  · simp only [pinI64, i64Min, i64Max]
    omega

/-- `word as i64` keeps the lower half and moves the upper one below
zero. -/
theorem toInt_toInt64 (word : UInt64) :
    word.toInt64.toInt =
      if word.toNat < 2 ^ 63 then (word.toNat : Int)
      else word.toNat - 2 ^ 64 := by
  have bits : word.toInt64.toInt = word.toBitVec.toInt := rfl
  have size : word.toBitVec.toNat = word.toNat := rfl
  rw [bits, BitVec.toInt_eq_toNat_cond, size]
  split
  · rw [if_pos (by omega)]
  · rw [if_neg (by omega)]
    norm_num

/-- `left.saturating_add(right)` on `u128`. -/
def saturatingAdd128 (left right : Nat) : Nat :=
  min (left + right) u128Max

/-- Saturating twice is saturating once. -/
theorem saturatingAdd128_min (left right : Nat) :
    saturatingAdd128 (min left u128Max) right =
      min (left + right) u128Max := by
  simp only [saturatingAdd128]
  omega

/-- Fewer than `2 ^ 64` words of 64 bits never fill a `u128`. -/
theorem sum_lt_u128Max {α : Type} (weight : α → UInt64)
    {items : List α} (fits : items.length < 2 ^ 64) :
    (items.map fun item => (weight item).toNat).sum < u128Max := by
  have bound :
      ∀ items : List α,
        (items.map fun item => (weight item).toNat).sum ≤
          items.length * u64Max := by
    intro items
    induction items with
    | nil =>
        simp
    | cons head tail inductionHypothesis =>
        have headBound := toNat_le_u64Max (weight head)
        simp only [List.map_cons, List.sum_cons, List.length_cons,
          Nat.succ_mul]
        omega
  have scaled : items.length * u64Max ≤ u64Max * u64Max :=
    Nat.mul_le_mul_right u64Max (by unfold u64Max; omega)
  have square : u64Max * u64Max < u128Max := by decide
  exact ((bound items).trans scaled).trans_lt square

end Words
