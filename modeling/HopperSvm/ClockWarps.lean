import HopperSvm.Harness

/-!
Both warps assign the slot, the timestamp and the epoch of the clock
sysvar.  A warp to a slot converts the gap to whole seconds, a warp to a
timestamp converts seconds to whole slots, and what the division leaves over
is dropped.  The closed forms `secondsIn` and `slotsIn` say what a gap is
worth, so a warp with a stop in between can be compared with a direct one.
-/

namespace Hopper

open Words

/-- The epoch of a slot, 32 slots each below the first normal one; `none`
when the division or the addition panics. -/
def EpochSchedule.epochAt (schedule : EpochSchedule) (slot : UInt64) :
    Option UInt64 :=
  if slot < schedule.firstNormalSlot then
    some (slot / 32)
  else if schedule.slotsPerEpoch = 0 then
    none
  else
    checkedAdd schedule.firstNormalEpoch
      ((slot - schedule.firstNormalSlot) / schedule.slotsPerEpoch)

namespace HopperSvm

/-- The assignments that end both verbs. -/
def setTime (svm : HopperSvm) (slot : UInt64) (unixTimestamp : Int64) :
    Option HopperSvm :=
  (svm.sysvars.epochSchedule.epochAt slot).map fun epoch =>
    { svm with
      sysvars :=
        { svm.sysvars with
          clock :=
            { svm.sysvars.clock with slot, unixTimestamp, epoch } } }

/-- `HopperSvm::warp_to_slot`. -/
def warpToSlot (svm : HopperSvm) (slot : UInt64) : Option HopperSvm :=
  let prevSlot := svm.sysvars.clock.slot
  let elapsedSlots := (saturatingSub slot prevSlot).toInt64
  svm.setTime slot
    (saturatingAddI64 svm.sysvars.clock.unixTimestamp
      (saturatingMulI64 elapsedSlots 400 / 1000))

/-- `HopperSvm::warp_to_timestamp`. -/
def warpToTimestamp (svm : HopperSvm) (unixTimestamp : Int64) :
    Option HopperSvm :=
  let prevTs := svm.sysvars.clock.unixTimestamp
  let prevSlot := svm.sysvars.clock.slot
  let deltaMs :=
    saturatingMulI64 (saturatingSubI64 unixTimestamp prevTs) 1000
  let deltaSlots := deltaMs / 400
  let newSlot :=
    if 0 ≤ deltaSlots then
      saturatingAdd prevSlot deltaSlots.toUInt64
    else
      saturatingSub prevSlot (-deltaSlots).toUInt64
  svm.setTime newSlot (max unixTimestamp 0)

end HopperSvm

section Epochs

variable {schedule : EpochSchedule} {slot : UInt64}

/-- The epoch number of a slot, where it fits. -/
theorem EpochSchedule.epochAt_eq_some {epoch : UInt64} :
    schedule.epochAt slot = some epoch ↔
      if slot.toNat < schedule.firstNormalSlot.toNat then
        epoch.toNat = slot.toNat / 32
      else
        schedule.slotsPerEpoch ≠ 0 ∧
          schedule.firstNormalEpoch.toNat +
              (slot.toNat - schedule.firstNormalSlot.toNat) /
                schedule.slotsPerEpoch.toNat =
            epoch.toNat := by
  simp only [epochAt]
  by_cases warmUp : slot < schedule.firstNormalSlot
  · rw [if_pos warmUp, if_pos (UInt64.lt_iff_toNat_lt.mp warmUp),
      Option.some.injEq, ← UInt64.toNat_inj, UInt64.toNat_div, eq_comm]
    rfl
  · have normal : schedule.firstNormalSlot ≤ slot :=
      UInt64.not_lt.mp warmUp
    rw [if_neg warmUp,
      if_neg (fun below => warmUp (UInt64.lt_iff_toNat_lt.mpr below))]
    split
    · rename_i empty
      simp [empty]
    · rename_i positive
      rw [checkedAdd_eq_some, UInt64.toNat_div,
        UInt64.toNat_sub_of_le _ _ normal]
      simp [positive]

/-- The epoch number does not fit into a word. -/
def EpochSchedule.Overflows (schedule : EpochSchedule) (slot : Nat) :
    Prop :=
  schedule.firstNormalSlot.toNat ≤ slot ∧
    u64Max <
      schedule.firstNormalEpoch.toNat +
        (slot - schedule.firstNormalSlot.toNat) /
          schedule.slotsPerEpoch.toNat

theorem EpochSchedule.epochAt_eq_none
    (positive : schedule.slotsPerEpoch ≠ 0) :
    schedule.epochAt slot = none ↔ schedule.Overflows slot.toNat := by
  rw [Option.eq_none_iff_forall_ne_some]
  constructor
  · intro undefined
    by_contra fits
    rw [Overflows, not_and_or, Nat.not_le, Nat.not_lt] at fits
    by_cases warmUp : slot.toNat < schedule.firstNormalSlot.toNat
    · apply undefined (slot / 32)
      rw [epochAt_eq_some, if_pos warmUp, UInt64.toNat_div]
      rfl
    · have small := fits.resolve_left warmUp
      apply undefined
        (UInt64.ofNat
          (schedule.firstNormalEpoch.toNat +
            (slot.toNat - schedule.firstNormalSlot.toNat) /
              schedule.slotsPerEpoch.toNat))
      rw [epochAt_eq_some, if_neg warmUp, UInt64.toNat_ofNat_of_lt']
      · exact ⟨positive, rfl⟩
      · simp only [u64Max] at small
        show _ < 2 ^ 64
        omega
  · intro overflows epoch found
    rw [epochAt_eq_some, if_neg (Nat.not_lt.mpr overflows.1)] at found
    have bound := toNat_le_u64Max epoch
    have large := overflows.2
    omega

/-- Once an epoch number overflows, every later one does. -/
theorem EpochSchedule.Overflows.mono {early late : Nat}
    (overflows : schedule.Overflows early) (later : early ≤ late) :
    schedule.Overflows late := by
  refine ⟨overflows.1.trans later, overflows.2.trans_le ?_⟩
  exact
    Nat.add_le_add_left
      (Nat.div_le_div_right (Nat.sub_le_sub_right later _)) _

end Epochs

/-- The whole seconds in a gap of slots, 400 ms each; the milliseconds stop
at the end of an `i64`. -/
def secondsIn (gap : Nat) : Nat :=
  min (2 * gap / 5) 9223372036854775

/-- How far a gap of slots moves the timestamp: from 2^63 slots on the
gap is read as a negative number. -/
def shiftOf (gap : Nat) : Int :=
  if gap < 2 ^ 63 then secondsIn gap else -secondsIn (2 ^ 64 - gap)

/-- The whole slots in a number of seconds; the milliseconds stop at the end
of an `i64`. -/
def slotsIn (seconds : Nat) : Nat :=
  min (5 * seconds / 2) 23058430092136939

theorem toInt_elapsed (gap : UInt64) :
    (saturatingMulI64 gap.toInt64 400 / 1000).toInt =
      shiftOf gap.toNat := by
  have bound := gap.toNat_lt
  have four : (400 : Int64).toInt = 400 := rfl
  have thousand : (1000 : Int64).toInt = 1000 := rfl
  rw [Int64.toInt_div_of_ne_right _ _ (by decide), saturatingMulI64,
    toInt_saturateI64, toInt_toInt64, four, thousand, shiftOf]
  split
  · rw [Int.tdiv_eq_ediv_of_nonneg (by unfold pinI64 i64Min i64Max; omega)]
    simp only [pinI64, i64Min, i64Max, secondsIn]
    omega
  · -- a gap read as a negative number is divided towards zero
    have flipped :
        pinI64 (((gap.toNat : Int) - 2 ^ 64) * 400) =
          -(-pinI64 (((gap.toNat : Int) - 2 ^ 64) * 400)) :=
      (neg_neg _).symm
    rw [flipped, Int.neg_tdiv,
      Int.tdiv_eq_ediv_of_nonneg (by unfold pinI64 i64Min i64Max; omega)]
    simp only [pinI64, i64Min, i64Max, secondsIn]
    omega

theorem toInt_forward {prev next : Int64} (nonneg : 0 ≤ prev)
    (ordered : prev ≤ next) :
    (saturatingMulI64 (saturatingSubI64 next prev) 1000 / 400).toInt =
      slotsIn (next.toInt - prev.toInt).toNat := by
  have low : 0 ≤ prev.toInt := Int64.le_iff_toInt_le.mp nonneg
  have gap : prev.toInt ≤ next.toInt := Int64.le_iff_toInt_le.mp ordered
  have high := next.toInt_lt
  have four : (400 : Int64).toInt = 400 := rfl
  have thousand : (1000 : Int64).toInt = 1000 := rfl
  rw [Int64.toInt_div_of_ne_right _ _ (by decide), saturatingMulI64,
    toInt_saturateI64, saturatingSubI64, toInt_saturateI64, four, thousand,
    Int.tdiv_eq_ediv_of_nonneg (by unfold pinI64 i64Min i64Max; omega)]
  simp only [pinI64, i64Min, i64Max, slotsIn]
  omega

namespace HopperSvm

variable {svm : HopperSvm}

/-- A second assignment of the time overrides the first, if that one does
not panic. -/
theorem setTime_bind {slot : UInt64} {unixTimestamp : Int64}
    {next : HopperSvm → Option HopperSvm} {slot' : UInt64}
    {unixTimestamp' : Int64}
    (again : ∀ epoch,
      next
          { svm with
            sysvars :=
              { svm.sysvars with
                clock :=
                  { svm.sysvars.clock with slot, unixTimestamp, epoch } } } =
        svm.setTime slot' unixTimestamp')
    (defined : svm.sysvars.epochSchedule.epochAt slot = none →
      svm.sysvars.epochSchedule.epochAt slot' = none) :
    (svm.setTime slot unixTimestamp).bind next =
      svm.setTime slot' unixTimestamp' := by
  cases reached : svm.sysvars.epochSchedule.epochAt slot with
  | none =>
      rw [setTime, reached, setTime, defined reached]
      rfl
  | some epoch =>
      rw [setTime, reached, Option.map_some, Option.bind_some, again]

theorem setTime_inj {slot slot' : UInt64}
    {unixTimestamp unixTimestamp' : Int64} :
    svm.setTime slot unixTimestamp = svm.setTime slot' unixTimestamp' ↔
      slot = slot' ∧ unixTimestamp = unixTimestamp' ∨
        svm.sysvars.epochSchedule.epochAt slot = none ∧
          svm.sysvars.epochSchedule.epochAt slot' = none := by
  simp only [setTime]
  constructor
  · intro same
    cases left : svm.sysvars.epochSchedule.epochAt slot with
    | none =>
        rw [left, Option.map_none, eq_comm, Option.map_eq_none_iff] at same
        exact Or.inr ⟨rfl, same⟩
    | some epoch =>
        rw [left, Option.map_some, eq_comm, Option.map_eq_some_iff] at same
        rcases same with ⟨epoch', _, same⟩
        injection same with _ sysvars
        injection sysvars with clock
        injection clock with slots _ _ _ timestamps
        exact Or.inl ⟨slots.symm, timestamps.symm⟩
  · rintro (⟨rfl, rfl⟩ | ⟨left, right⟩)
    · rfl
    · rw [left, right]
      rfl

/-- A direct warp and one with a stop differ in the timestamp alone. -/
theorem warpToSlot_bind (positive :
      svm.sysvars.epochSchedule.slotsPerEpoch ≠ 0)
    {middle last : UInt64} (ordered : middle ≤ last) :
    (svm.warpToSlot middle).bind (fun stop => stop.warpToSlot last) =
      svm.setTime last
        (saturatingAddI64
          (saturatingAddI64 svm.sysvars.clock.unixTimestamp
            (saturatingMulI64
                (saturatingSub middle svm.sysvars.clock.slot).toInt64
                400 /
              1000))
          (saturatingMulI64 (saturatingSub last middle).toInt64 400 /
            1000)) := by
  apply setTime_bind
  · intro epoch
    rfl
  · rw [EpochSchedule.epochAt_eq_none positive,
      EpochSchedule.epochAt_eq_none positive]
    intro overflows
    exact overflows.mono (UInt64.le_iff_toNat_le.mp ordered)

end HopperSvm

/-! ## Slots -/

/-- When two gaps of slots move the timestamp as far as both together.
Below 2^63 slots the seconds add up, or the timestamp is pinned at its upper
end; from there on a gap is read as a negative number. -/
def SecondsAdd (now : Int) (first second : Nat) : Prop :=
  if first + second < 2 ^ 63 then
    secondsIn first + secondsIn second = secondsIn (first + second) ∨
      i64Max ≤
        now +
          min (secondsIn first + secondsIn second)
            (secondsIn (first + second))
  else if 2 ^ 63 ≤ first then
    max i64Min (now - secondsIn (2 ^ 64 - first)) + secondsIn second =
      max i64Min (now - secondsIn (2 ^ 64 - (first + second)))
  else if 2 ^ 63 ≤ second then
    max i64Min
        (min i64Max (now + secondsIn first) -
          secondsIn (2 ^ 64 - second)) =
      max i64Min (now - secondsIn (2 ^ 64 - (first + second)))
  else
    now = i64Max ∧ first + second = 2 ^ 64 - 2

/-- Where the milliseconds fit, seconds add up when the fifths left over
do not. -/
theorem secondsIn_add_iff {first second : Nat}
    (fits : first + second ≤ 23058430092136939) :
    secondsIn first + secondsIn second = secondsIn (first + second) ↔
      2 * first % 5 + 2 * second % 5 < 5 := by
  simp only [secondsIn]
  omega

theorem secondsIn_le (gap : Nat) : secondsIn gap ≤ 9223372036854775 :=
  min_le_right _ _

theorem secondsIn_mono {gap gap' : Nat} (shorter : gap ≤ gap') :
    secondsIn gap ≤ secondsIn gap' := by
  simp only [secondsIn]
  omega

theorem shiftOf_of_lt {gap : Nat} (forward : gap < 2 ^ 63) :
    shiftOf gap = secondsIn gap :=
  if_pos forward

theorem shiftOf_of_le {gap : Nat} (wrapped : 2 ^ 63 ≤ gap) :
    shiftOf gap = -secondsIn (2 ^ 64 - gap) :=
  if_neg (Nat.not_lt.mpr wrapped)

theorem pinI64_shift_iff {now : Int} {first second : Nat}
    (low : i64Min ≤ now) (high : now ≤ i64Max)
    (fits : first + second < 2 ^ 64) :
    pinI64 (pinI64 (now + shiftOf first) + shiftOf second) =
        pinI64 (now + shiftOf (first + second)) ↔
      SecondsAdd now first second := by
  have bound := secondsIn_le first
  have bound' := secondsIn_le second
  simp only [SecondsAdd]
  split
  · rename_i forward
    have boundBoth := secondsIn_le (first + second)
    rw [shiftOf_of_lt (by omega), shiftOf_of_lt (by omega),
      shiftOf_of_lt forward]
    simp only [pinI64, i64Max, i64Min] at *
    omega
  rename_i wrapped
  have total := shiftOf_of_le (Nat.le_of_not_lt wrapped)
  have boundBoth := secondsIn_le (2 ^ 64 - (first + second))
  split
  · -- the first gap alone is read as negative, and the second shortens it
    rename_i back
    have shorter : secondsIn second ≤ secondsIn (2 ^ 64 - first) :=
      secondsIn_mono (by omega)
    have boundBack := secondsIn_le (2 ^ 64 - first)
    rw [total, shiftOf_of_le back, shiftOf_of_lt (by omega)]
    simp only [pinI64, i64Max, i64Min] at *
    omega
  split
  · rename_i back
    have boundBack := secondsIn_le (2 ^ 64 - second)
    rw [total, shiftOf_of_lt (by omega), shiftOf_of_le back]
    simp only [pinI64, i64Max, i64Min] at *
    omega
  · -- only the two gaps together are read as negative
    rw [total, shiftOf_of_lt (by omega), shiftOf_of_lt (by omega)]
    have moved : 0 < secondsIn first + secondsIn second := by
      simp only [secondsIn]
      omega
    have still :
        secondsIn (2 ^ 64 - (first + second)) = 0 ↔
          first + second = 2 ^ 64 - 2 := by
      simp only [secondsIn]
      omega
    simp only [pinI64, i64Max, i64Min] at *
    omega

/-- When two spans of seconds move the slot as far as both together: the
slots add up, or the slot is pinned at its end, or the epoch number
overflows on both ways. -/
def SlotsAdd (schedule : EpochSchedule) (slot first second : Nat) : Prop :=
  slotsIn first + slotsIn second = slotsIn (first + second) ∨
    u64Max ≤
      slot +
        min (slotsIn first + slotsIn second) (slotsIn (first + second)) ∨
    schedule.Overflows
      (slot +
        min (slotsIn first + slotsIn second) (slotsIn (first + second)))

/-- Slots capped at a word agree, or overflow the epoch on both ways. -/
theorem capped_slots_iff {schedule : EpochSchedule}
    {slot first second : Nat} :
    min (min (slot + slotsIn first) u64Max + slotsIn second) u64Max =
          min (slot + slotsIn (first + second)) u64Max ∨
        schedule.Overflows
            (min (min (slot + slotsIn first) u64Max + slotsIn second)
              u64Max) ∧
          schedule.Overflows
            (min (slot + slotsIn (first + second)) u64Max) ↔
      SlotsAdd schedule slot first second := by
  simp only [SlotsAdd]
  generalize slotsIn (first + second) = direct
  generalize slotsIn first = before
  generalize slotsIn second = after
  constructor
  · rintro (same | ⟨overflows, overflows'⟩)
    · omega
    · right
      right
      rcases Nat.le_total (before + after) direct with less | less
      · exact overflows.mono (by omega)
      · exact overflows'.mono (by omega)
  · intro agrees
    by_cases same :
        min (min (slot + before) u64Max + after) u64Max =
          min (slot + direct) u64Max
    · exact Or.inl same
    · right
      have overflows :
          schedule.Overflows (slot + min (before + after) direct) := by
        rcases agrees with equal | capped | overflows
        · omega
        · omega
        · exact overflows
      exact ⟨overflows.mono (by omega), overflows.mono (by omega)⟩

/-- Where the milliseconds fit, slots add up unless both spans end in half
a slot. -/
theorem slotsIn_add_iff {first second : Nat}
    (fits : first + second ≤ 9223372036854775) :
    slotsIn first + slotsIn second = slotsIn (first + second) ↔
      first % 2 + second % 2 < 2 := by
  have halves (seconds : Nat) :
      5 * seconds / 2 = 2 * seconds + seconds / 2 := by
    omega
  simp only [slotsIn]
  rw [halves, halves, halves]
  omega

/-- The slot `seconds` after `slot`. -/
def slotAfter (slot : UInt64) (seconds : Nat) : UInt64 :=
  saturatingAdd slot (UInt64.ofNat (slotsIn seconds))

@[simp]
theorem toNat_slotAfter (slot : UInt64) (seconds : Nat) :
    (slotAfter slot seconds).toNat =
      min (slot.toNat + slotsIn seconds) u64Max := by
  rw [slotAfter, toNat_saturatingAdd, UInt64.toNat_ofNat_of_lt']
  show _ < 2 ^ 64
  simp only [slotsIn]
  omega

namespace HopperSvm

variable {svm : HopperSvm}

/-- A warp to a later timestamp. -/
theorem warpToTimestamp_of_le {next : Int64}
    (nonneg : 0 ≤ svm.sysvars.clock.unixTimestamp)
    (later : svm.sysvars.clock.unixTimestamp ≤ next) :
    svm.warpToTimestamp next =
      svm.setTime
        (slotAfter svm.sysvars.clock.slot
          (next.toInt - svm.sysvars.clock.unixTimestamp.toInt).toNat)
        next := by
  have shift := toInt_forward nonneg later
  have forward :
      0 ≤ saturatingMulI64
            (saturatingSubI64 next svm.sysvars.clock.unixTimestamp) 1000 /
          400 := by
    rw [Int64.le_iff_toInt_le, shift]
    exact Int.natCast_nonneg _
  have word :
      (saturatingMulI64
              (saturatingSubI64 next svm.sysvars.clock.unixTimestamp)
              1000 /
            400).toUInt64 =
        UInt64.ofNat
          (slotsIn
            (next.toInt - svm.sysvars.clock.unixTimestamp.toInt).toNat) := by
    rw [← UInt64.toNat_inj, Int64.toNat_toUInt64_of_le forward,
      Int64.toNatClampNeg, shift, Int.toNat_natCast,
      UInt64.toNat_ofNat_of_lt']
    show _ < 2 ^ 64
    unfold slotsIn
    omega
  have kept : max next 0 = next := by
    change (if next ≤ 0 then 0 else next) = next
    split
    · rename_i below
      exact Int64.le_antisymm (Int64.le_trans nonneg later) below
    · rfl
  unfold warpToTimestamp
  dsimp only
  rw [if_pos forward, word, kept, slotAfter]

end HopperSvm

/-! ## A stop in between -/

namespace HopperSvm

variable {svm : HopperSvm}

theorem warpToTimestamp_bind
    (positive : svm.sysvars.epochSchedule.slotsPerEpoch ≠ 0)
    {middle last : Int64} (nonneg : 0 ≤ svm.sysvars.clock.unixTimestamp)
    (later : svm.sysvars.clock.unixTimestamp ≤ middle)
    (ordered : middle ≤ last) :
    (svm.warpToTimestamp middle).bind
        (fun stop => stop.warpToTimestamp last) =
      svm.setTime
        (slotAfter
          (slotAfter svm.sysvars.clock.slot
            (middle.toInt - svm.sysvars.clock.unixTimestamp.toInt).toNat)
          (last.toInt - middle.toInt).toNat)
        last := by
  rw [warpToTimestamp_of_le nonneg later]
  apply setTime_bind
  · intro epoch
    exact warpToTimestamp_of_le (Int64.le_trans nonneg later) ordered
  · rw [EpochSchedule.epochAt_eq_none positive,
      EpochSchedule.epochAt_eq_none positive]
    intro overflows
    apply overflows.mono
    have bound := toNat_le_u64Max
      (slotAfter svm.sysvars.clock.slot
        (middle.toInt - svm.sysvars.clock.unixTimestamp.toInt).toNat)
    rw [toNat_slotAfter _ (last.toInt - middle.toInt).toNat]
    omega

/-- A stop on the way to a slot loses nothing when the gaps add up. -/
theorem warpToSlot_bind_eq_iff
    (positive : svm.sysvars.epochSchedule.slotsPerEpoch ≠ 0)
    {middle last : UInt64} (later : svm.sysvars.clock.slot ≤ middle)
    (ordered : middle ≤ last) :
    (svm.warpToSlot middle).bind (fun stop => stop.warpToSlot last) =
        svm.warpToSlot last ↔
      svm.sysvars.epochSchedule.Overflows last.toNat ∨
        SecondsAdd svm.sysvars.clock.unixTimestamp.toInt
          (middle.toNat - svm.sysvars.clock.slot.toNat)
          (last.toNat - middle.toNat) := by
  have low : i64Min ≤ svm.sysvars.clock.unixTimestamp.toInt :=
    svm.sysvars.clock.unixTimestamp.le_toInt
  have high : svm.sysvars.clock.unixTimestamp.toInt ≤ i64Max :=
    Int.le_sub_one_of_lt svm.sysvars.clock.unixTimestamp.toInt_lt
  have bound := last.toNat_lt
  have later' := UInt64.le_iff_toNat_le.mp later
  have ordered' := UInt64.le_iff_toNat_le.mp ordered
  have whole :
      last.toNat - svm.sysvars.clock.slot.toNat =
        middle.toNat - svm.sysvars.clock.slot.toNat +
          (last.toNat - middle.toNat) := by
    omega
  rw [warpToSlot_bind positive ordered, warpToSlot, setTime_inj,
    EpochSchedule.epochAt_eq_none positive, and_self, or_comm,
    and_iff_right rfl, ← Int64.toInt_inj, saturatingAddI64,
    toInt_saturateI64, saturatingAddI64, toInt_saturateI64,
    saturatingAddI64, toInt_saturateI64, toInt_elapsed, toInt_elapsed,
    toInt_elapsed, toNat_saturatingSub, toNat_saturatingSub,
    toNat_saturatingSub, whole, pinI64_shift_iff low high (by omega)]

/-- A stop on the way to a timestamp loses nothing when the spans add
up. -/
theorem warpToTimestamp_bind_eq_iff
    (positive : svm.sysvars.epochSchedule.slotsPerEpoch ≠ 0)
    {middle last : Int64} (nonneg : 0 ≤ svm.sysvars.clock.unixTimestamp)
    (later : svm.sysvars.clock.unixTimestamp ≤ middle)
    (ordered : middle ≤ last) :
    (svm.warpToTimestamp middle).bind
          (fun stop => stop.warpToTimestamp last) =
        svm.warpToTimestamp last ↔
      SlotsAdd svm.sysvars.epochSchedule svm.sysvars.clock.slot.toNat
        (middle.toInt - svm.sysvars.clock.unixTimestamp.toInt).toNat
        (last.toInt - middle.toInt).toNat := by
  have low : 0 ≤ svm.sysvars.clock.unixTimestamp.toInt :=
    Int64.le_iff_toInt_le.mp nonneg
  have later' := Int64.le_iff_toInt_le.mp later
  have ordered' := Int64.le_iff_toInt_le.mp ordered
  have whole :
      (last.toInt - svm.sysvars.clock.unixTimestamp.toInt).toNat =
        (middle.toInt - svm.sysvars.clock.unixTimestamp.toInt).toNat +
          (last.toInt - middle.toInt).toNat := by
    omega
  rw [warpToTimestamp_bind positive nonneg later ordered,
    warpToTimestamp_of_le nonneg (Int64.le_trans later ordered), whole,
    setTime_inj, EpochSchedule.epochAt_eq_none positive,
    EpochSchedule.epochAt_eq_none positive, ← UInt64.toNat_inj,
    toNat_slotAfter, toNat_slotAfter, toNat_slotAfter]
  rw [and_iff_left rfl]
  exact capped_slots_iff

/-- When a warp with a stop ends like a direct one: to a slot, and to a
timestamp. -/
theorem warps_compose_iff (svm : HopperSvm)
    (positive : svm.sysvars.epochSchedule.slotsPerEpoch ≠ 0) :
    (∀ middle last : UInt64, svm.sysvars.clock.slot ≤ middle →
      middle ≤ last →
        ((svm.warpToSlot middle).bind (fun stop => stop.warpToSlot last) =
            svm.warpToSlot last ↔
          svm.sysvars.epochSchedule.Overflows last.toNat ∨
            SecondsAdd svm.sysvars.clock.unixTimestamp.toInt
              (middle.toNat - svm.sysvars.clock.slot.toNat)
              (last.toNat - middle.toNat))) ∧
      ∀ middle last : Int64, 0 ≤ svm.sysvars.clock.unixTimestamp →
        svm.sysvars.clock.unixTimestamp ≤ middle → middle ≤ last →
          ((svm.warpToTimestamp middle).bind
                (fun stop => stop.warpToTimestamp last) =
              svm.warpToTimestamp last ↔
            SlotsAdd svm.sysvars.epochSchedule
              svm.sysvars.clock.slot.toNat
              (middle.toInt - svm.sysvars.clock.unixTimestamp.toInt).toNat
              (last.toInt - middle.toInt).toNat) := by
  constructor
  · intro middle last later ordered
    exact warpToSlot_bind_eq_iff positive later ordered
  · intro middle last nonneg later ordered
    exact warpToTimestamp_bind_eq_iff positive nonneg later ordered

/-- A harness with the default clock. -/
def idleSvm : HopperSvm :=
  ofRegistry fun _ => none

theorem warps_compose_iff_idle :
    (idleSvm.warpToSlot 5).bind (fun stop => stop.warpToSlot 8) =
        idleSvm.warpToSlot 8 ∧
      (idleSvm.warpToTimestamp 1700000002).bind
          (fun stop => stop.warpToTimestamp 1700000005) =
        idleSvm.warpToTimestamp 1700000005 := by
  have composes := warps_compose_iff idleSvm (by decide)
  constructor
  · rw [composes.1 5 8 (by decide) (by decide)]
    right
    have forward : 5 - 0 + (8 - 5) < 2 ^ 63 := by decide
    exact (if_pos forward).mpr (Or.inl (by decide))
  · rw [composes.2 1700000002 1700000005 (by decide) (by decide)
      (by decide)]
    exact Or.inl (by decide)

def timestampOf (svm : Option HopperSvm) : Option Int64 :=
  svm.map fun svm => svm.sysvars.clock.unixTimestamp

def slotOf (svm : Option HopperSvm) : Option UInt64 :=
  svm.map fun svm => svm.sysvars.clock.slot

/-- A stop at slot 1 loses the second that three slots last, and a stop
after one second loses the slot that its half completes. -/
theorem stop_loses_time :
    timestampOf
          ((idleSvm.warpToSlot 1).bind fun stop => stop.warpToSlot 3) =
        some 1700000000 ∧
      timestampOf (idleSvm.warpToSlot 3) = some 1700000001 ∧
      slotOf
          ((idleSvm.warpToTimestamp 1700000001).bind
            fun stop => stop.warpToTimestamp 1700000002) =
        some 4 ∧
      slotOf (idleSvm.warpToTimestamp 1700000002) = some 5 := by
  decide

theorem clock_of_setTime {slot : UInt64} {unixTimestamp : Int64}
    {after : HopperSvm}
    (set : svm.setTime slot unixTimestamp = some after) :
    svm.sysvars.epochSchedule.epochAt slot =
        some after.sysvars.clock.epoch ∧
      after.sysvars.clock.unixTimestamp = unixTimestamp ∧
      after.sysvars.clock.slot = slot ∧
      after.sysvars.epochSchedule = svm.sysvars.epochSchedule := by
  rcases Option.map_eq_some_iff.mp set with ⟨epoch, found, rfl⟩
  exact ⟨found, rfl, rfl, rfl⟩

/-- The epoch number grows with the slot, but where the warm-up ends it may
fall. -/
theorem epochAt_le_iff {schedule : EpochSchedule}
    {middle last epoch epoch' : UInt64} (ordered : middle ≤ last)
    (atMiddle : schedule.epochAt middle = some epoch)
    (atLast : schedule.epochAt last = some epoch') :
    epoch ≤ epoch' ↔
      ¬ (middle < schedule.firstNormalSlot ∧
        schedule.firstNormalSlot ≤ last ∧
        schedule.firstNormalEpoch.toNat +
            (last.toNat - schedule.firstNormalSlot.toNat) /
              schedule.slotsPerEpoch.toNat <
          middle.toNat / 32) := by
  have ordered' := UInt64.le_iff_toNat_le.mp ordered
  rw [EpochSchedule.epochAt_eq_some] at atMiddle atLast
  rw [UInt64.le_iff_toNat_le, UInt64.lt_iff_toNat_lt,
    UInt64.le_iff_toNat_le]
  split at atMiddle
  · rename_i warmUp
    split at atLast
    · rename_i stillWarmUp
      omega
    · rename_i normal
      have number := atLast.2
      omega
  · rename_i normal
    rw [if_neg (by omega)] at atLast
    have later :
        (middle.toNat - schedule.firstNormalSlot.toNat) /
            schedule.slotsPerEpoch.toNat ≤
          (last.toNat - schedule.firstNormalSlot.toNat) /
            schedule.slotsPerEpoch.toNat :=
      Nat.div_le_div_right (Nat.sub_le_sub_right ordered' _)
    have number := atMiddle.2
    have number' := atLast.2
    omega

/-- A second warp forward, by fewer than 2^63 slots, keeps the timestamp
from falling; it lowers the epoch only from a warm-up slot to a normal one
with a smaller number. -/
theorem warpToSlot_forward {first second : HopperSvm}
    {middle last : UInt64} (ordered : middle ≤ last)
    (warped : svm.warpToSlot middle = some first)
    (again : first.warpToSlot last = some second) :
    (last.toNat - middle.toNat < 2 ^ 63 →
        first.sysvars.clock.unixTimestamp ≤
          second.sysvars.clock.unixTimestamp) ∧
      (first.sysvars.clock.epoch ≤ second.sysvars.clock.epoch ↔
        ¬ (middle < svm.sysvars.epochSchedule.firstNormalSlot ∧
          svm.sysvars.epochSchedule.firstNormalSlot ≤ last ∧
          svm.sysvars.epochSchedule.firstNormalEpoch.toNat +
              (last.toNat -
                  svm.sysvars.epochSchedule.firstNormalSlot.toNat) /
                svm.sysvars.epochSchedule.slotsPerEpoch.toNat <
            middle.toNat / 32)) := by
  obtain ⟨epoch, _, slot, schedule⟩ := clock_of_setTime warped
  obtain ⟨epoch', timestamp', _, _⟩ := clock_of_setTime again
  constructor
  · intro near
    rw [timestamp', slot, Int64.le_iff_toInt_le, saturatingAddI64,
      toInt_saturateI64, toInt_elapsed, toNat_saturatingSub,
      shiftOf_of_lt near]
    have low := first.sysvars.clock.unixTimestamp.le_toInt
    have high := first.sysvars.clock.unixTimestamp.toInt_lt
    simp only [pinI64, i64Min, i64Max]
    omega
  · rw [schedule] at epoch'
    exact epochAt_le_iff ordered epoch epoch'

/-- A harness whose schedule warms up to epochs of 432000 slots. -/
def warmUpSvm : HopperSvm :=
  { idleSvm with
    sysvars :=
      { idleSvm.sysvars with
        epochSchedule :=
          { slotsPerEpoch := 432000
            leaderScheduleSlotOffset := 432000
            warmup := true
            firstNormalEpoch := 14
            firstNormalSlot := 524256 } } }

def epochOf (svm : Option HopperSvm) : Option UInt64 :=
  svm.map fun svm => svm.sysvars.clock.epoch

/-- The last warm-up slot is given epoch 16382, the slot behind it epoch
14. -/
theorem epoch_falls_after_warmUp :
    epochOf (warmUpSvm.warpToSlot 524255) = some 16382 ∧
      epochOf
          ((warmUpSvm.warpToSlot 524255).bind
            fun stop => stop.warpToSlot 524256) =
        some 14 := by
  decide

theorem warpToSlot_returns (slot : UInt64)
    (defined : (svm.sysvars.epochSchedule.epochAt slot).isSome) :
    (svm.warpToSlot slot).isSome := by
  rw [warpToSlot, setTime, Option.isSome_map]
  exact defined

/-- Warped to slot 10. -/
def warpedSvm : HopperSvm :=
  (warmUpSvm.warpToSlot 10).get (warpToSlot_returns 10 (by decide))

/-- Warped on to slot 600000. -/
def warpedOnSvm : HopperSvm :=
  (warpedSvm.warpToSlot 600000).get
    (warpToSlot_returns 600000 (by decide))

theorem warpToSlot_forward_warmUp :
    warpedSvm.sysvars.clock.unixTimestamp ≤
        warpedOnSvm.sysvars.clock.unixTimestamp ∧
      warpedSvm.sysvars.clock.epoch ≤ warpedOnSvm.sysvars.clock.epoch := by
  have warped : warmUpSvm.warpToSlot 10 = some warpedSvm :=
    (Option.some_get _).symm
  have again : warpedSvm.warpToSlot 600000 = some warpedOnSvm :=
    (Option.some_get _).symm
  have forward := warpToSlot_forward (by decide) warped again
  exact ⟨forward.1 (by decide), forward.2.mpr (by decide)⟩

end HopperSvm

end Hopper
