import HopperSvm.NonceRecord
import HopperSvm.Refusal
import HopperSvm.SystemProgram

/-!
Every handler checks the length of its body before it slices it, so the only
two places left are the sums that a seed length enters before anything
bounds it, and the zero fill of a size that nothing bounds at all.
-/

namespace Hopper

namespace SystemProgram

open Bytes Routine Words

variable {crates : Crates} {context : InvokeContext}
  {state : InvokeState} {body : List UInt8}

/-- `CreateAccount` gets as far as its zero fill. -/
def CreateFills (context : InvokeContext) (slots : List KeyedAccount)
    (body : List UInt8) : Prop :=
  48 ≤ body.length ∧
    ∃ funder target, slots[0]? = some funder ∧ slots[1]? = some target ∧
      IsSigner context funder.address ∧ IsSigner context target.address ∧
      IsWritable context funder.address ∧
      IsWritable context target.address ∧
      u64At body 0 ≤ funder.lamports ∧ target.lamports = 0 ∧
      target.data = []

/-- `Allocate` gets as far as its zero fill. -/
def AllocateFills (context : InvokeContext) (slots : List KeyedAccount)
    (body : List UInt8) : Prop :=
  8 ≤ body.length ∧
    ∃ account, slots[0]? = some account ∧
      IsSigner context account.address ∧
      IsWritable context account.address ∧ account.data = []

theorem two_slots {slots : List KeyedAccount} {target : KeyedAccount}
    (atTarget : slots[1]? = some target) : 2 ≤ slots.length :=
  (List.getElem?_eq_some_iff.mp atTarget).1

theorem createAccount_returns :
    (createAccount body).Returns context state ↔
      ¬ (CreateFills context state.accounts body ∧
        isizeMax < (u64At body 8).toNat) := by
  simp only [createAccount, returns_check, returns_bind,
    rejectBuiltin_returns, rejectBuiltin_yields, readU64_returns,
    readU64_yields, readPubkey_returns, readPubkey_yields,
    requireSlots_returns, requireSlots_yields, slot_returns, slot_yields,
    requireSigner_returns, requireSigner_yields, requireWritable_returns,
    requireWritable_yields, requireFunds_returns, requireFunds_yields,
    zeroed_returns, zeroed_yields, writeSlot_returns, writeSlot_yields,
    log_returns, not_lt, not_or, Decidable.not_not, ne_eq, and_imp,
    true_and, and_true, forall_const, implies_true]
  constructor
  · rintro returns
      ⟨⟨long, funder, target, atFunder, atTarget, funderSigns, targetSigns,
        funderWritable, targetWritable, funds, unfunded, noData⟩, large⟩
    obtain ⟨owner, atOwner⟩ :=
      pubkeyAt_isSome (by omega : 16 + 32 ≤ body.length)
    have afterSpace :=
      ((returns long).2 (u64At body 0) (by omega) rfl).2
        (u64At body 8) (by omega) rfl
    have afterFunder :=
      (afterSpace.2 owner (by omega)
        (Pubkey.newFromArray_eq_some.mp atOwner)
        (two_slots atTarget)).2 funder atFunder
    have fits :=
      (afterFunder.2 target atTarget funderSigns targetSigns
        funderWritable targetWritable (UInt64.not_lt.mpr funds) unfunded
        noData).1
    exact absurd large (Nat.not_lt.mpr fits)
  · intro notLarge long
    refine ⟨by omega, ?_⟩
    rintro lamports _ rfl
    refine ⟨by omega, ?_⟩
    rintro space _ rfl
    refine ⟨by omega, ?_⟩
    intro owner _ _ enough
    refine ⟨by omega, ?_⟩
    intro funder atFunder
    refine ⟨by omega, ?_⟩
    intro target atTarget funderSigns targetSigns funderWritable
      targetWritable funds unfunded noData
    refine ⟨?_, ?_⟩
    · by_contra large
      exact
        notLarge
          ⟨⟨long, funder, target, atFunder, atTarget, funderSigns,
            targetSigns, funderWritable, targetWritable,
            UInt64.not_lt.mp funds, unfunded, noData⟩,
            Nat.not_le.mp large⟩
    · rintro data _ _
      refine ⟨by omega, ?_⟩
      rintro _ ⟨_, _, rfl⟩
      rw [List.length_set]
      omega

theorem allocate_returns :
    (allocate body).Returns context state ↔
      ¬ (AllocateFills context state.accounts body ∧
        isizeMax < (u64At body 0).toNat) := by
  simp only [allocate, returns_check, returns_bind,
    rejectBuiltin_returns, rejectBuiltin_yields, readU64_returns,
    readU64_yields, requireSlots_returns, requireSlots_yields,
    slot_returns, slot_yields, requireSigner_returns,
    requireSigner_yields, requireWritable_returns,
    requireWritable_yields, zeroed_returns, zeroed_yields,
    writeSlot_returns, log_returns, not_lt, Decidable.not_not, ne_eq,
    and_imp, true_and, and_true, forall_const, implies_true]
  constructor
  · rintro returns
      ⟨⟨long, account, atAccount, signs, writable, noData⟩, large⟩
    have one : 1 ≤ state.accounts.length :=
      (List.getElem?_eq_some_iff.mp atAccount).1
    have afterSpace :=
      (returns long).2 (u64At body 0) (by omega) rfl one
    have fits := (afterSpace.2 account atAccount signs writable noData).1
    exact absurd large (Nat.not_lt.mpr fits)
  · intro notLarge long
    refine ⟨by omega, ?_⟩
    rintro space _ rfl enough
    refine ⟨by omega, ?_⟩
    intro account atAccount signs writable noData
    refine ⟨?_, ?_⟩
    · by_contra large
      exact
        notLarge
          ⟨⟨long, account, atAccount, signs, writable, noData⟩,
            Nat.not_le.mp large⟩
    · intros
      omega

/-- Behind a header that ends in the seed length, the end of the body does
not fit in a word. -/
def SeedOverflows (header trailer : Nat) (body : List UInt8) : Prop :=
  header ≤ body.length ∧
    2 ^ 64 ≤ header + (u64At body (header - 8)).toNat + trailer

/-- The steps from the seed length to the seed. -/
theorem returns_seed {lengthAt header trailer : Nat}
    {message : UInt64 → String}
    {next : Nat → List UInt8 → Routine Unit} :
    (readU64 body lengthAt >>= fun seedLen =>
      addUsize header seedLen.toNat >>= fun afterSeed =>
      addUsize afterSeed trailer >>= fun needed =>
      rejectBuiltin (body.length < needed) (message seedLen) >>= fun _ =>
      slice body header afterSeed >>= fun seedBytes =>
      next afterSeed seedBytes).Returns context state ↔
      lengthAt + 8 ≤ body.length ∧
        header + (u64At body lengthAt).toNat + trailer < 2 ^ 64 ∧
        (header + (u64At body lengthAt).toNat + trailer ≤ body.length →
          (next (header + (u64At body lengthAt).toNat)
            (field body header (u64At body lengthAt).toNat)).Returns
              context state) := by
  simp only [returns_check, rejectBuiltin_returns, rejectBuiltin_yields,
    readU64_returns, readU64_yields, addUsize_returns, addUsize_yields,
    slice_returns, slice_yields, not_lt, and_imp, true_and, and_true,
    forall_const]
  constructor
  · rintro ⟨holds, rest⟩
    have atSeed := rest (u64At body lengthAt) holds rfl
    have bounded := (atSeed.2 _ atSeed.1 rfl).1
    refine ⟨holds, bounded, ?_⟩
    intro long
    have afterCheck := (atSeed.2 _ atSeed.1 rfl).2 _ bounded rfl long
    apply afterCheck.2 _ afterCheck.1.1 afterCheck.1.2
    rw [Nat.add_sub_cancel_left, field]
  · rintro ⟨holds, bounded, rest⟩
    refine ⟨holds, ?_⟩
    rintro seedLen _ rfl
    refine ⟨by exact Nat.lt_of_le_of_lt (Nat.le_add_right _ _) bounded, ?_⟩
    rintro afterSeed _ rfl
    refine ⟨bounded, ?_⟩
    rintro needed _ rfl long
    refine ⟨⟨Nat.le_add_right _ _, Nat.le_of_add_right_le long⟩, ?_⟩
    rintro seedBytes _ _ rfl
    rw [Nat.add_sub_cancel_left]
    exact rest long

/-- `CreateAccountWithSeed` gets as far as its zero fill. -/
def SeededFills (crates : Crates) (context : InvokeContext)
    (slots : List KeyedAccount) (body : List UInt8) : Prop :=
  let seedLen := (u64At body 32).toNat
  let afterSeed := 40 + seedLen
  40 ≤ body.length ∧ afterSeed + 48 ≤ body.length ∧
    ∃ base seed owner funder target,
      pubkeyAt body 0 = some base ∧
      strFromUtf8 (field body 40 seedLen) = .ok seed ∧
      pubkeyAt body (afterSeed + 16) = some owner ∧
      slots[0]? = some funder ∧ slots[1]? = some target ∧
      crates.createWithSeed base seed owner = .ok target.address ∧
      IsSigner context funder.address ∧
      IsWritable context funder.address ∧
      IsWritable context target.address ∧
      (base ≠ funder.address → IsSigner context base) ∧
      u64At body afterSeed ≤ funder.lamports ∧ target.lamports = 0 ∧
      target.data = []

/-- A signature that is asked for in one case only. -/
theorem returns_requireSigner_if {condition : Prop}
    [Decidable condition] {address : Pubkey} {rest : Routine Unit} :
    (if condition then (do
        requireSigner address
        rest)
      else rest).Returns context state ↔
      ((condition → IsSigner context address) →
        rest.Returns context state) := by
  by_cases holds : condition
  · rw [if_pos holds, returns_check]
    simp [holds]
  · rw [if_neg holds]
    simp [holds]

theorem createAccountWithSeed_returns :
    (createAccountWithSeed crates body).Returns context state ↔
      ¬ SeedOverflows 40 48 body ∧
        ¬ (SeededFills crates context state.accounts body ∧
          isizeMax <
            (u64At body (40 + (u64At body 32).toNat + 8)).toNat) := by
  simp only [createAccountWithSeed, ↓returns_seed,
    returns_requireSigner_if, returns_check, returns_bind,
    rejectBuiltin_returns, rejectBuiltin_yields, readU64_returns,
    readU64_yields, readPubkey_returns, readPubkey_yields,
    orBuiltin_returns, orBuiltin_yields, requireSlots_returns,
    requireSlots_yields, slot_returns, slot_yields,
    requireSigner_returns, requireSigner_yields, requireWritable_returns,
    requireWritable_yields, requireFunds_returns, requireFunds_yields,
    zeroed_returns, zeroed_yields, writeSlot_returns, writeSlot_yields,
    log_returns, not_lt, not_or, Decidable.not_not, ne_eq, and_imp,
    true_and, and_true, forall_const, implies_true]
  constructor
  · intro returns
    refine ⟨?_, ?_⟩
    · rintro ⟨long, overflows⟩
      obtain ⟨base, atBase⟩ :=
        pubkeyAt_isSome (by omega : 0 + 32 ≤ body.length)
      have bounded :=
        ((returns long).2 base (by omega)
          (Pubkey.newFromArray_eq_some.mp atBase)).2.1
      exact absurd overflows (Nat.not_le.mpr bounded)
    · rintro
        ⟨⟨header, long, base, seed, owner, funder, target, atBase, atSeed,
          atOwner, atFunder, atTarget, derived, funderSigns,
          funderWritable, targetWritable, baseSigns, funds, unfunded,
          noData⟩, large⟩
      have afterSeed :=
        ((returns header).2 base (by omega)
          (Pubkey.newFromArray_eq_some.mp atBase)).2.2 long seed atSeed
      have afterSpace :=
        (afterSeed.2 _ (by omega) rfl).2 _ (by omega) rfl
      have afterFunder :=
        (afterSpace.2 owner (by omega)
          (Pubkey.newFromArray_eq_some.mp atOwner)
          (two_slots atTarget)).2 funder atFunder
      have fits :=
        (afterFunder.2 target atTarget target.address derived rfl
          funderSigns funderWritable targetWritable baseSigns
          (UInt64.not_lt.mpr funds) unfunded noData).1
      exact absurd large (Nat.not_lt.mpr fits)
  · rintro ⟨bounded, notLarge⟩ header
    refine ⟨by omega, ?_⟩
    intro base _ atBase
    refine ⟨by omega, ?_, ?_⟩
    · by_contra overflows
      exact bounded ⟨header, Nat.not_lt.mp overflows⟩
    intro long seed atSeed
    refine ⟨by omega, ?_⟩
    rintro lamports _ rfl
    refine ⟨by omega, ?_⟩
    rintro space _ rfl
    refine ⟨by omega, ?_⟩
    intro owner _ atOwner enough
    refine ⟨by omega, ?_⟩
    intro funder atFunder
    refine ⟨by omega, ?_⟩
    rintro target atTarget _ derived rfl funderSigns funderWritable
      targetWritable baseSigns funds unfunded noData
    refine ⟨?_, ?_⟩
    · by_contra large
      exact
        notLarge
          ⟨⟨header, long, base, seed, owner, funder, target,
            Pubkey.newFromArray_eq_some.mpr atBase, atSeed,
            Pubkey.newFromArray_eq_some.mpr atOwner, atFunder, atTarget,
            derived, funderSigns, funderWritable, targetWritable,
            baseSigns, UInt64.not_lt.mp funds, unfunded, noData⟩,
            Nat.not_le.mp large⟩
    · intro data _ _
      refine ⟨by omega, ?_⟩
      rintro _ ⟨_, _, rfl⟩
      rw [List.length_set]
      omega

theorem assignWithSeed_returns :
    (assignWithSeed crates body).Returns context state ↔
      ¬ SeedOverflows 40 32 body := by
  simp only [assignWithSeed, ↓returns_seed, returns_check, returns_bind,
    rejectBuiltin_returns, rejectBuiltin_yields, readPubkey_returns,
    readPubkey_yields, orBuiltin_returns, orBuiltin_yields,
    requireSlots_returns, requireSlots_yields, slot_returns, slot_yields,
    requireSigner_returns, requireSigner_yields, requireWritable_returns,
    requireWritable_yields, writeSlot_returns, log_returns, not_lt,
    Decidable.not_not, ne_eq, and_imp, true_and, and_true, forall_const,
    implies_true]
  constructor
  · rintro returns ⟨long, overflows⟩
    obtain ⟨base, atBase⟩ :=
      pubkeyAt_isSome (by omega : 0 + 32 ≤ body.length)
    have bounded :=
      ((returns long).2 base (by omega)
        (Pubkey.newFromArray_eq_some.mp atBase)).2.1
    exact absurd overflows (Nat.not_le.mpr bounded)
  · intro bounded header
    refine ⟨by omega, ?_⟩
    intro base _ _
    refine ⟨by omega, ?_, ?_⟩
    · by_contra overflows
      exact bounded ⟨header, Nat.not_lt.mp overflows⟩
    intro long seed _
    refine ⟨long, ?_⟩
    intro owner _ _ enough
    refine ⟨by omega, ?_⟩
    intros
    omega

theorem transferWithSeed_returns :
    (transferWithSeed crates body).Returns context state ↔
      ¬ SeedOverflows 16 32 body := by
  simp only [transferWithSeed, ↓returns_seed, returns_check, returns_bind,
    rejectBuiltin_returns, rejectBuiltin_yields, readU64_returns,
    readU64_yields, readPubkey_returns, readPubkey_yields,
    orBuiltin_returns, orBuiltin_yields, requireSlots_returns,
    requireSlots_yields, slot_returns, slot_yields, requireSigner_returns,
    requireSigner_yields, requireWritable_returns, requireWritable_yields,
    requireFunds_returns, requireFunds_yields, writeSlot_returns,
    writeSlot_yields, log_returns, not_lt, Decidable.not_not, ne_eq,
    and_imp, true_and, and_true, forall_const, implies_true]
  constructor
  · rintro returns ⟨long, overflows⟩
    have bounded :=
      ((returns long).2 (u64At body 0) (by omega) rfl).2.1
    exact absurd overflows (Nat.not_le.mpr bounded)
  · intro bounded header
    refine ⟨by omega, ?_⟩
    intro lamports _ _
    refine ⟨header, ?_, ?_⟩
    · by_contra overflows
      exact bounded ⟨header, Nat.not_lt.mp overflows⟩
    intro long seed _
    refine ⟨long, ?_⟩
    intro owner _ _ enough
    refine ⟨by omega, ?_⟩
    intro source _
    refine ⟨by omega, ?_⟩
    intro fromBase _
    refine ⟨by omega, ?_⟩
    intros
    refine ⟨by omega, ?_⟩
    rintro _ ⟨_, _, rfl⟩
    rw [List.length_set]
    omega

/-! ## The handlers that always return -/

section Nonces

instance (bytes : List UInt8) (start : Nat) :
    ReadOnly (readBytes32 bytes start) := by
  simp only [readBytes32]
  infer_instance

instance (data : List UInt8) : ReadOnly (readNonceState data) := by
  simp only [readNonceState]
  infer_instance

@[simp]
theorem readBytes32_returns {bytes : List UInt8} {start : Nat} :
    (readBytes32 bytes start).Returns context state ↔
      start + 32 ≤ bytes.length := by
  simp [readBytes32, returns_check]
  omega

@[simp]
theorem readNonceState_returns {data : List UInt8} :
    (readNonceState data).Returns context state := by
  simp only [readNonceState, returns_check, rejectBuiltin_returns,
    rejectBuiltin_yields, readU32_returns, readU32_yields,
    readPubkey_returns, readPubkey_yields, readBytes32_returns,
    readBytes32_yields, readU64_returns, returns_pure, not_lt, and_imp,
    and_true, true_and, implies_true, forall_const]
  intro long
  have wide : 80 ≤ data.length := long
  refine ⟨by omega, ?_⟩
  intros
  refine ⟨by omega, ?_⟩
  intros
  exact ⟨by omega, fun _ _ _ => by omega⟩

instance : ReadOnly clockSlot := by
  simp only [clockSlot]
  infer_instance

theorem clockSlot_returns : clockSlot.Returns context state := by
  simp [clockSlot, returns_check]

end Nonces

theorem assign_returns : (assign body).Returns context state := by
  simp only [assign, returns_check, returns_bind, rejectBuiltin_returns,
    rejectBuiltin_yields, readPubkey_returns, readPubkey_yields,
    requireSlots_returns, requireSlots_yields, slot_returns, slot_yields,
    requireSigner_returns, requireSigner_yields, requireWritable_returns,
    requireWritable_yields, writeSlot_returns, log_returns, not_lt,
    and_imp, true_and, and_true, forall_const, implies_true]
  intro long
  refine ⟨by omega, ?_⟩
  intro newOwner _ _ enough
  refine ⟨by omega, ?_⟩
  intros
  omega

theorem transfer_returns : (transfer body).Returns context state := by
  simp only [transfer, returns_check, returns_bind, rejectBuiltin_returns,
    rejectBuiltin_yields, readU64_returns, readU64_yields,
    requireSlots_returns, requireSlots_yields, slot_returns, slot_yields,
    requireSigner_returns, requireSigner_yields, requireWritable_returns,
    requireWritable_yields, requireFunds_returns, requireFunds_yields,
    writeSlot_returns, writeSlot_yields, log_returns, not_lt, and_imp,
    true_and, and_true, forall_const, implies_true]
  intro long
  refine ⟨by omega, ?_⟩
  intro lamports _ _ enough
  refine ⟨by omega, ?_⟩
  intro source _
  refine ⟨by omega, ?_⟩
  intros
  refine ⟨by omega, ?_⟩
  rintro _ ⟨_, _, rfl⟩
  rw [List.length_set]
  omega

theorem initializeNonceAccount_returns :
    (initializeNonceAccount crates body).Returns context state := by
  simp only [initializeNonceAccount, returns_check, returns_bind,
    rejectBuiltin_returns, rejectBuiltin_yields, readPubkey_returns,
    readPubkey_yields, requireSlots_returns, requireSlots_yields,
    slot_returns, slot_yields, requireWritable_returns,
    requireWritable_yields, readNonceState_returns, clockSlot_returns,
    writeSlot_returns, log_returns, not_lt, and_imp, true_and, and_true,
    forall_const, implies_true]
  intro long
  refine ⟨by omega, ?_⟩
  intro authority _ _ enough
  refine ⟨by omega, ?_⟩
  intros
  omega

theorem advanceNonceAccount_returns :
    (advanceNonceAccount crates).Returns context state := by
  simp only [advanceNonceAccount, returns_check, returns_bind,
    rejectBuiltin_returns, rejectBuiltin_yields, requireSlots_returns,
    requireSlots_yields, slot_returns, slot_yields,
    requireWritable_returns, requireWritable_yields,
    requireSigner_returns, requireSigner_yields, readNonceState_returns,
    clockSlot_returns, writeSlot_returns, log_returns, true_and, and_true,
    forall_const, implies_true]
  intro enough
  refine ⟨by omega, ?_⟩
  intro nonce _
  refine ⟨by omega, ?_⟩
  intros
  omega

theorem withdrawNonceAccount_returns :
    (withdrawNonceAccount body).Returns context state := by
  simp only [withdrawNonceAccount, returns_check, returns_bind,
    rejectBuiltin_returns, rejectBuiltin_yields, readU64_returns,
    readU64_yields, requireSlots_returns, requireSlots_yields,
    slot_returns, slot_yields, requireWritable_returns,
    requireWritable_yields, requireSigner_returns, requireSigner_yields,
    readNonceState_returns, requireFunds_returns, requireFunds_yields,
    writeSlot_returns, writeSlot_yields, log_returns, not_lt, and_imp,
    true_and, and_true, forall_const, implies_true]
  intro long
  refine ⟨by omega, ?_⟩
  intro lamports _ _ enough
  refine ⟨by omega, ?_⟩
  intro nonce _
  refine ⟨by omega, ?_⟩
  intro destination _
  refine ⟨by omega, ?_⟩
  intros
  refine ⟨by omega, ?_⟩
  rintro _ ⟨_, _, rfl⟩
  rw [List.length_set]
  omega

theorem authorizeNonceAccount_returns :
    (authorizeNonceAccount body).Returns context state := by
  simp only [authorizeNonceAccount, returns_check, returns_bind,
    rejectBuiltin_returns, rejectBuiltin_yields, readPubkey_returns,
    readPubkey_yields, requireSlots_returns, requireSlots_yields,
    slot_returns, slot_yields, requireWritable_returns,
    requireWritable_yields, requireSigner_returns, requireSigner_yields,
    readNonceState_returns, writeSlot_returns, log_returns, not_lt,
    and_imp, true_and, and_true, forall_const, implies_true]
  intro long
  refine ⟨by omega, ?_⟩
  intro newAuthority _ _ enough
  refine ⟨by omega, ?_⟩
  intro nonce _
  refine ⟨by omega, ?_⟩
  intros
  omega

theorem upgradeNonceAccount_returns :
    upgradeNonceAccount.Returns context state := by
  simp only [upgradeNonceAccount, returns_check, requireSlots_returns,
    requireSlots_yields, slot_returns, slot_yields,
    requireWritable_returns, requireWritable_yields, true_and, and_true,
    forall_const]
  intro enough
  refine ⟨by omega, ?_⟩
  intro nonce _ _
  split
  · simp only [returns_bind, writeSlot_returns, log_returns, implies_true,
      and_true]
    omega
  · exact log_returns

/-- The tag, as the program reads it. -/
theorem tagOf_eq {data : List UInt8} :
    (UInt32.ofNat (leNat ((data.drop 0).take 4))).toNat = tagOf data := rfl

/-- Where an instruction panics. -/
def Panics (crates : Crates) (context : InvokeContext)
    (slots : List KeyedAccount) (data : List UInt8) : Prop :=
  4 ≤ data.length ∧
    let body := data.drop 4
    match tagOf data with
    | 0 =>
        CreateFills context slots body ∧
          isizeMax < (u64At body 8).toNat
    | 3 =>
        SeedOverflows 40 48 body ∨
          SeededFills crates context slots body ∧
            isizeMax <
              (u64At body (40 + (u64At body 32).toNat + 8)).toNat
    | 8 =>
        AllocateFills context slots body ∧
          isizeMax < (u64At body 0).toNat
    | 9 => SeedOverflows 40 32 body
    | 10 => SeedOverflows 16 32 body
    | _ => False

theorem invoke_returns {data : List UInt8} :
    (invoke crates data).Returns context state ↔
      ¬ Panics crates context state.accounts data := by
  simp only [invoke, returns_check, rejectBuiltin_returns,
    rejectBuiltin_yields, readU32_returns, readU32_yields, not_lt,
    and_true, true_and, Nat.zero_add]
  simp only [Panics]
  by_cases long : 4 ≤ data.length
  · simp only [long, true_and, forall_const, forall_eq', tagOf_eq]
    generalize tagOf data = tag
    split
    · exact createAccount_returns
    · exact iff_of_true assign_returns not_false
    · exact iff_of_true transfer_returns not_false
    · exact createAccountWithSeed_returns.trans not_or.symm
    · exact iff_of_true advanceNonceAccount_returns not_false
    · exact iff_of_true withdrawNonceAccount_returns not_false
    · exact iff_of_true initializeNonceAccount_returns not_false
    · exact iff_of_true authorizeNonceAccount_returns not_false
    · exact allocate_returns
    · exact assignWithSeed_returns
    · exact transferWithSeed_returns
    · exact iff_of_true upgradeNonceAccount_returns not_false
    · refine iff_of_true rejectBuiltin_returns ?_
      split <;> simp_all
  · simp only [long, false_and, not_false_eq_true, IsEmpty.forall_iff,
      implies_true]

end SystemProgram

/-! ## The length checks in front of a seed -/

namespace Routine

variable {α β : Type} {context : InvokeContext} {state : InvokeState}

/-- The routine panics, or fails in the state it started in with one of
these errors of the program. -/
def OnlyFails (routine : Routine α) (context : InvokeContext)
    (state : InvokeState) (texts : List String) : Prop :=
  ∀ outcome final, routine.run context state = some (outcome, final) →
    final = state ∧
      ∃ text ∈ texts,
        outcome = .error (.builtinError context.programId text)

section OnlyFails

variable {texts : List String} {first : Routine α}
  {next : α → Routine β}

theorem OnlyFails.of_panics {routine : Routine α}
    (panics : ¬ routine.Returns context state) :
    routine.OnlyFails context state texts := by
  intro outcome final ran
  have stuck : routine.run context state = none := by
    simpa [Returns, Procedure.Returns] using panics
  rw [stuck] at ran
  cases ran

theorem OnlyFails.rejectBuiltin {condition : Prop}
    [Decidable condition] {text : String} (holds : condition)
    (listed : text ∈ texts) :
    (rejectBuiltin condition text).OnlyFails context state texts := by
  intro outcome final ran
  have failed :
      (Routine.rejectBuiltin condition text).run context state =
        some (.error (.builtinError context.programId text), state) := by
    simp only [Routine.rejectBuiltin, rejectIf, ofStateless,
      Procedure.rejectIf, if_pos holds]
    rfl
  rw [failed] at ran
  cases ran
  exact ⟨rfl, text, listed, rfl⟩

theorem OnlyFails.stop (fails : first.OnlyFails context state texts) :
    (first >>= next).OnlyFails context state texts := by
  intro outcome final ran
  cases outcome with
  | ok value =>
      obtain ⟨middle, state', passed, _⟩ := Procedure.bind_eq_ok.mp ran
      obtain ⟨_, text, _, absurdity⟩ := fails (.ok middle) state' passed
      cases absurdity
  | error err =>
      rcases Procedure.bind_eq_error.mp ran with
        failed | ⟨middle, state', passed, _⟩
      · obtain ⟨same, text, listed, ended⟩ :=
          fails (.error err) final failed
        cases ended
        exact ⟨same, text, listed, rfl⟩
      · obtain ⟨_, text, _, absurdity⟩ := fails (.ok middle) state' passed
        cases absurdity

theorem OnlyFails.go_on (value : α)
    (yields : first.Yields context state value state)
    (rest : (next value).OnlyFails context state texts) :
    (first >>= next).OnlyFails context state texts := by
  intro outcome final ran
  cases outcome with
  | ok result =>
      obtain ⟨middle, state', passed, ended⟩ :=
        Procedure.bind_eq_ok.mp ran
      cases yields.symm.trans passed
      exact rest (.ok result) final ended
  | error err =>
      rcases Procedure.bind_eq_error.mp ran with
        failed | ⟨middle, state', passed, ended⟩
      · cases yields.symm.trans failed
      · cases yields.symm.trans passed
        exact rest (.error err) final ended

end OnlyFails

end Routine

namespace SystemProgram

open Bytes Routine Words

variable {crates : Crates} {context : InvokeContext}
  {state : InvokeState} {body : List UInt8}

/-- Behind a header that ends in the seed length, the body holds the seed
and the trailer. -/
def SeedFits (header trailer : Nat) (body : List UInt8) : Prop :=
  header ≤ body.length ∧
    header + (u64At body (header - 8)).toNat + trailer ≤ body.length

/-- Without room for seed and trailer the steps from the seed length on do
not get to the seed. -/
theorem seed_onlyFails {lengthAt header trailer : Nat}
    {message : UInt64 → String} {texts : List String}
    {next : UInt64 → Nat → Routine Unit}
    (holds : lengthAt + 8 ≤ body.length)
    (short :
      body.length < header + (u64At body lengthAt).toNat + trailer)
    (listed : message (u64At body lengthAt) ∈ texts) :
    (readU64 body lengthAt >>= fun seedLen =>
      addUsize header seedLen.toNat >>= fun afterSeed =>
      addUsize afterSeed trailer >>= fun needed =>
      rejectBuiltin (body.length < needed) (message seedLen) >>= fun _ =>
      next seedLen afterSeed).OnlyFails context state texts := by
  refine .go_on _ (readU64_yields.mpr ⟨holds, rfl, rfl⟩) ?_
  by_cases fits : header + (u64At body lengthAt).toNat < 2 ^ 64
  · refine .go_on _ (addUsize_yields.mpr ⟨fits, rfl, rfl⟩) ?_
    by_cases fitsAll :
        header + (u64At body lengthAt).toNat + trailer < 2 ^ 64
    · refine .go_on _ (addUsize_yields.mpr ⟨fitsAll, rfl, rfl⟩) ?_
      exact (OnlyFails.rejectBuiltin short listed).stop
    · exact (OnlyFails.of_panics (mt addUsize_returns.mp fitsAll)).stop
  · exact (OnlyFails.of_panics (mt addUsize_returns.mp fits)).stop

/-- The texts of the two length checks of a variant with a seed. -/
def lengthTexts (tag : Nat) (body : List UInt8) : List String :=
  match tag with
  | 3 =>
      [s!"system::CreateAccountWithSeed: body too short ({body.length} bytes)",
        s!"system::CreateAccountWithSeed: body too short for seed_len={u64At body 32} ({body.length} bytes)"]
  | 9 =>
      ["system::AssignWithSeed: body too short",
        "system::AssignWithSeed: body too short for seed"]
  | 10 =>
      ["system::TransferWithSeed: body too short",
        "system::TransferWithSeed: body too short for seed"]
  | _ => []

theorem createAccountWithSeed_onlyFails
    (short : ¬ SeedFits 40 48 body) :
    (createAccountWithSeed crates body).OnlyFails context state
      (lengthTexts 3 body) := by
  by_cases header : body.length < 40
  · exact (OnlyFails.rejectBuiltin header (List.mem_cons_self)).stop
  · obtain ⟨base, atBase⟩ :=
      pubkeyAt_isSome (by omega : 0 + 32 ≤ body.length)
    have noRoom : body.length < 40 + (u64At body 32).toNat + 48 := by
      by_contra room
      exact short ⟨Nat.not_lt.mp header, Nat.not_lt.mp room⟩
    refine .go_on () (rejectBuiltin_yields.mpr ⟨header, rfl⟩) ?_
    refine
      .go_on base
        (readPubkey_yields.mpr
          ⟨by omega, Pubkey.newFromArray_eq_some.mp atBase, rfl⟩) ?_
    exact
      seed_onlyFails (by omega) noRoom
        (List.mem_cons_of_mem _ List.mem_cons_self)

theorem assignWithSeed_onlyFails (short : ¬ SeedFits 40 32 body) :
    (assignWithSeed crates body).OnlyFails context state
      (lengthTexts 9 body) := by
  by_cases header : body.length < 40
  · exact (OnlyFails.rejectBuiltin header (List.mem_cons_self)).stop
  · obtain ⟨base, atBase⟩ :=
      pubkeyAt_isSome (by omega : 0 + 32 ≤ body.length)
    have noRoom : body.length < 40 + (u64At body 32).toNat + 32 := by
      by_contra room
      exact short ⟨Nat.not_lt.mp header, Nat.not_lt.mp room⟩
    refine .go_on () (rejectBuiltin_yields.mpr ⟨header, rfl⟩) ?_
    refine
      .go_on base
        (readPubkey_yields.mpr
          ⟨by omega, Pubkey.newFromArray_eq_some.mp atBase, rfl⟩) ?_
    exact
      seed_onlyFails (by omega) noRoom
        (List.mem_cons_of_mem _ List.mem_cons_self)

theorem transferWithSeed_onlyFails (short : ¬ SeedFits 16 32 body) :
    (transferWithSeed crates body).OnlyFails context state
      (lengthTexts 10 body) := by
  by_cases header : body.length < 16
  · exact (OnlyFails.rejectBuiltin header (List.mem_cons_self)).stop
  · have noRoom : body.length < 16 + (u64At body 8).toNat + 32 := by
      by_contra room
      exact short ⟨Nat.not_lt.mp header, Nat.not_lt.mp room⟩
    refine .go_on () (rejectBuiltin_yields.mpr ⟨header, rfl⟩) ?_
    refine .go_on _ (readU64_yields.mpr ⟨by omega, rfl, rfl⟩) ?_
    exact
      seed_onlyFails (by omega) noRoom
        (List.mem_cons_of_mem _ List.mem_cons_self)

/-- The header and the trailer around the seed of a variant. -/
def seedFrame : Nat → Option (Nat × Nat)
  | 3 => some (40, 48)
  | 9 => some (40, 32)
  | 10 => some (16, 32)
  | _ => none

/-- The handler ends otherwise than in its length checks. -/
def PastLengthCheck (crates : Crates) (context : InvokeContext)
    (state : InvokeState) (data : List UInt8) : Prop :=
  4 ≤ data.length ∧
    ∃ outcome final,
      (invoke crates data).run context state = some (outcome, final) ∧
      ∀ text ∈ lengthTexts (tagOf data) (data.drop 4),
        outcome ≠ .error (.builtinError context.programId text)

theorem seedFits_of_past {data : List UInt8} {header trailer : Nat}
    (framed : seedFrame (tagOf data) = some (header, trailer))
    (past : PastLengthCheck crates context state data) :
    SeedFits header trailer (data.drop 4) := by
  rcases past with ⟨long, outcome, final, ran, beyond⟩
  by_contra short
  have fails : (invoke crates data).OnlyFails context state
      (lengthTexts (tagOf data) (data.drop 4)) := by
    refine
      .go_on () (rejectBuiltin_yields.mpr ⟨Nat.not_lt.mpr long, rfl⟩) ?_
    refine .go_on _ (readU32_yields.mpr ⟨by omega, rfl, rfl⟩) ?_
    simp only [tagOf_eq]
    revert framed
    generalize tagOf data = tag
    intro framed
    simp only [seedFrame] at framed
    split at framed
    · cases framed
      exact createAccountWithSeed_onlyFails short
    · cases framed
      exact assignWithSeed_onlyFails short
    · cases framed
      exact transferWithSeed_onlyFails short
    · cases framed
  obtain ⟨_, text, listed, ended⟩ := fails outcome final ran
  exact beyond text listed ended

/-- When the program comes back, and its seed parsers with room for what
they read. -/
theorem invoke_safe_iff (crates : Crates) (context : InvokeContext)
    (state : InvokeState) (data : List UInt8) :
    ((invoke crates data).Returns context state ∧
        ∀ header trailer,
          seedFrame (tagOf data) = some (header, trailer) →
            PastLengthCheck crates context state data →
              SeedFits header trailer (data.drop 4)) ↔
      ¬ Panics crates context state.accounts data := by
  rw [invoke_returns]
  constructor
  · exact And.left
  · intro safe
    exact ⟨safe, fun _ _ => seedFits_of_past⟩

/-- A base, and a seed length of `u64::MAX`. -/
def hugeSeed : List UInt8 :=
  [3, 0, 0, 0] ++ List.replicate 32 0 ++ List.replicate 8 0xFF

theorem hugeSeed_panics :
    (invoke
        { createWithSeed := fun _ _ _ => .error "MaxSeedLengthExceeded"
          sha256 := fun _ => ⟨List.replicate 32 0, List.length_replicate⟩
          debugStr := fun text => text }
        hugeSeed).run
        { programId := systemProgramId
          accountMetas := []
          sysvars := .default }
        { accounts := []
          logs := .empty
          budget := .default
          cells := { pendingCuLimit := none
                     priorityFeeMicroLamportsPerCu := 0 } } =
      none := by
  by_contra returns
  refine invoke_returns.mp returns ⟨by decide, Or.inl ?_⟩
  exact ⟨by decide, by decide⟩

end SystemProgram

end Hopper
