import HopperSvm.AltExtension
import HopperSvm.AtaEffects
import HopperSvm.CreateAccount
import HopperSvm.StakeEffects
import HopperSvm.SystemEffects
import HopperSvm.SystemPanics
import HopperSvm.TokenHandlers
import HopperSvm.VoteEffects

/-!
A handler leaves every balance alone, or it takes an amount from one slot
and credits another with it.  The debit is covered; the credit saturates, so
the lamports of the slots together stay the same exactly when the credited
balance still fits in a word.
-/

namespace Hopper

open Procedure Routine Words

/-- The balances of the slots, in order. -/
def balances (accounts : List KeyedAccount) : List UInt64 :=
  accounts.map KeyedAccount.lamports

/-- Every slot holds as many lamports as before. -/
def SameBalances (before after : InvokeState) : Prop :=
  balances before.accounts = balances after.accounts

instance : Std.Refl SameBalances := ⟨fun _ => rfl⟩

instance : IsTrans InvokeState SameBalances :=
  ⟨fun _ _ _ first second => first.trans second⟩

namespace Routine

variable {α β : Type}

/-- The routine leaves every balance alone, however it ends. -/
class KeepsBalances (routine : Routine α) : Prop where
  kept : Keeps SameBalances routine.run

/-- The update leaves the balance alone. -/
class SameLamports (update : KeyedAccount → KeyedAccount) : Prop where
  same : ∀ account, (update account).lamports = account.lamports

instance {data : KeyedAccount → List UInt8} {owner : KeyedAccount → Pubkey}
    {executable : KeyedAccount → Bool} {rentEpoch : KeyedAccount → UInt64} :
    SameLamports fun account =>
      { address := account.address
        lamports := account.lamports
        data := data account
        owner := owner account
        executable := executable account
        rentEpoch := rentEpoch account } where
  same _ := rfl

/-- What follows a step that keeps the balances. -/
theorem KeepsBalances.after {first : Routine α} {next : α → Routine β}
    [KeepsBalances first] (rest : ∀ value, KeepsBalances (next value)) :
    KeepsBalances (first >>= next) where
  kept := Keeps.bind KeepsBalances.kept fun value => (rest value).kept

instance (priority := low) {routine : Routine α} [ReadOnly routine] :
    KeepsBalances routine where
  kept := ReadOnly.unchanged.mono fun same => by rw [same]; rfl

instance {condition : Prop} [Decidable condition]
    {first second : Routine α} [KeepsBalances first]
    [KeepsBalances second] :
    KeepsBalances (if condition then first else second) := by
  split <;> infer_instance

instance (message : String) : KeepsBalances (log message) where
  kept := Keeps.modify fun _ => rfl

instance (index : Nat) (update : KeyedAccount → KeyedAccount)
    [SameLamports update]
    (sameAddress : ∀ account,
      (update account).address = account.address) :
    KeepsBalances (writeSlot index update sameAddress) where
  kept := by
    apply Handler.writeSlot_keeps
    intro state account found
    obtain ⟨inRange, rfl⟩ := List.getElem?_eq_some_iff.mp found
    have inBalances : index < (balances state.accounts).length := by
      rwa [balances, List.length_map]
    have unchanged := List.set_getElem_self inBalances
    simp only [balances, List.getElem_map] at unchanged
    change balances state.accounts = balances (state.accounts.set index _)
    rw [balances, balances, List.map_set, SameLamports.same, unchanged]

theorem totalLamports_of_kept {routine : Routine α} [KeepsBalances routine]
    {context : InvokeContext} {state final : InvokeState} {value : α}
    (yields : routine.Yields context state value final) :
    totalLamports final.accounts = totalLamports state.accounts := by
  have kept : balances state.accounts = balances final.accounts :=
    KeepsBalances.kept context state (.ok value) final yields
  have counted (accounts : List KeyedAccount) :
      totalLamports accounts =
        ((balances accounts).map UInt64.toNat).sum := by
    rw [balances, List.map_map]
    rfl
  rw [counted, counted, kept]

end Routine

/-- The slot an instruction credits with lamports of another one, and how
many. -/
abbrev Credit : Type := Option (Nat × UInt64)

/-- The credited balance fits in a word. -/
def CreditFits (slots : List KeyedAccount) (credit : Credit) : Prop :=
  ∀ place amount, credit = some (place, amount) →
    ∀ account, slots[place]? = some account →
      account.lamports.toNat + amount.toNat < 2 ^ 64

theorem creditFits_none {slots : List KeyedAccount} :
    CreditFits slots none := by
  intro place amount absurdity
  cases absurdity

theorem creditFits_some {slots : List KeyedAccount} {place : Nat}
    {account : KeyedAccount} {amount : UInt64}
    (found : slots[place]? = some account) :
    CreditFits slots (some (place, amount)) ↔
      account.lamports.toNat + amount.toNat < 2 ^ 64 := by
  constructor
  · intro fits
    exact fits place amount rfl account found
  · rintro fits _ _ ⟨⟩ _ atPlace
    cases found.symm.trans atPlace
    exact fits

/-- The lamports of the slots together never grow, and stay the same exactly
when the credit fits. -/
structure Settles (before after : List KeyedAccount) (credit : Credit) :
    Prop where
  total_le : totalLamports after ≤ totalLamports before
  total_eq_iff :
    totalLamports after = totalLamports before ↔ CreditFits before credit

/-- Nothing was credited. -/
theorem Settles.of_same {before after : List KeyedAccount}
    (same : totalLamports after = totalLamports before) :
    Settles before after none :=
  ⟨same.le, iff_of_true same creditFits_none⟩

theorem Settles.of_kept (routine : Routine Unit) [KeepsBalances routine]
    {context : InvokeContext} {state final : InvokeState}
    (yields : routine.Yields context state () final) :
    Settles state.accounts final.accounts none :=
  .of_same (totalLamports_of_kept yields)

theorem totalLamports_set {slots : List KeyedAccount} {index : Nat}
    {account : KeyedAccount} (found : slots[index]? = some account)
    (written : KeyedAccount) :
    totalLamports (slots.set index written) + account.lamports.toNat =
      totalLamports slots + written.lamports.toNat := by
  induction slots generalizing index with
  | nil =>
      cases found
  | cons head tail inductionHypothesis =>
      cases index with
      | zero =>
          cases found
          simp only [totalLamports, List.set_cons_zero, List.map_cons,
            List.sum_cons]
          omega
      | succ index =>
          have rest := inductionHypothesis found
          simp only [totalLamports, List.set_cons_succ, List.map_cons,
            List.sum_cons] at rest ⊢
          omega

/-- Assigning to other fields of a slot. -/
theorem Settles.rewrite {before after : List KeyedAccount}
    {credit : Credit} (settles : Settles before after credit) {index : Nat}
    {account written : KeyedAccount}
    (found : after[index]? = some account)
    (same : written.lamports = account.lamports) :
    Settles before (after.set index written) credit := by
  have total := totalLamports_set found written
  rw [same] at total
  have unmoved := Nat.add_right_cancel total
  constructor
  · rw [unmoved]
    exact settles.total_le
  · rw [unmoved]
    exact settles.total_eq_iff

theorem le_of_le_saturatingSub {amount balance floor : UInt64}
    (covered : amount ≤ saturatingSub balance floor) :
    amount ≤ balance := by
  rw [UInt64.le_iff_toNat_le, toNat_saturatingSub] at covered
  rw [UInt64.le_iff_toNat_le]
  omega

section Moved

variable {slots : List KeyedAccount} {place place' : Nat}
  {payer payee payer' payee' : KeyedAccount} {amount : UInt64}

/-- A covered debit in one slot and a saturating credit in another. -/
theorem settles_moved (apart : place ≠ place')
    (atPayer : slots[place]? = some payer)
    (atPayee : slots[place']? = some payee)
    (covered : amount ≤ payer.lamports)
    (debited : payer'.lamports = payer.lamports - amount)
    (credited : payee'.lamports = saturatingAdd payee.lamports amount) :
    Settles slots ((slots.set place payer').set place' payee')
      (some (place', amount)) := by
  have atPayee' : (slots.set place payer')[place']? = some payee := by
    rw [List.getElem?_set_ne apart]
    exact atPayee
  have first := totalLamports_set atPayer payer'
  have second := totalLamports_set atPayee' payee'
  have taken := toNat_sub_of_not_lt (UInt64.not_lt.mpr covered)
  rw [debited] at first
  rw [credited, toNat_saturatingAdd] at second
  simp only [u64Max] at second
  constructor
  · omega
  · rw [creditFits_some atPayee]
    omega

/-- A withdrawal of no more than what a floor leaves available. -/
theorem settles_withdrawn {floor : UInt64} (apart : place ≠ place')
    (atPayer : slots[place]? = some payer)
    (atPayee : slots[place']? = some payee)
    (covered : amount ≤ saturatingSub payer.lamports floor) :
    Settles slots
      ((slots.set place
          { payer with lamports := payer.lamports - amount }).set place'
        { payee with lamports := saturatingAdd payee.lamports amount })
      (some (place', amount)) :=
  settles_moved apart atPayer atPayee (le_of_le_saturatingSub covered) rfl
    rfl

/-- A creation moves lamports to an account without any. -/
theorem settles_created (apart : place ≠ place')
    (atPayer : slots[place]? = some payer)
    (atPayee : slots[place']? = some payee)
    (covered : amount ≤ payer.lamports)
    (debited : payer'.lamports = payer.lamports - amount)
    (unfunded : payee.lamports = 0) (funded : payee'.lamports = amount) :
    Settles slots ((slots.set place payer').set place' payee') none := by
  have alone : saturatingAdd payee.lamports amount = amount := by
    apply UInt64.toNat_inj.mp
    have bound := toNat_le_u64Max amount
    rw [unfunded, toNat_saturatingAdd, UInt64.toNat_zero, Nat.zero_add]
    exact Nat.min_eq_left bound
  have moved := settles_moved apart atPayer atPayee covered debited
    (funded.trans alone.symm)
  have fits : CreditFits slots (some (place', amount)) := by
    rw [creditFits_some atPayee, unfunded]
    simpa using amount.toNat_lt
  exact .of_same (moved.total_eq_iff.mpr fits)

end Moved

namespace SystemProgram

/-- What an instruction credits, and where. -/
def credit (data : List UInt8) : Credit :=
  match tagOf data with
  | 2 => some (1, u64At data 4)
  | 5 => some (1, u64At data 4)
  | 10 => some (2, u64At data 4)
  | _ => none

section Keeps

variable (crates : Crates) (body : List UInt8)

instance : KeepsBalances (assign body) := by
  simp only [assign]
  repeat refine .after fun _ => ?_
  infer_instance

instance : KeepsBalances (allocate body) := by
  simp only [allocate]
  repeat refine .after fun _ => ?_
  infer_instance

instance : KeepsBalances (assignWithSeed crates body) := by
  simp only [assignWithSeed]
  repeat refine .after fun _ => ?_
  infer_instance

instance : KeepsBalances (initializeNonceAccount crates body) := by
  simp only [initializeNonceAccount]
  repeat refine .after fun _ => ?_
  infer_instance

instance : KeepsBalances (advanceNonceAccount crates) := by
  simp only [advanceNonceAccount]
  repeat refine .after fun _ => ?_
  infer_instance

instance : KeepsBalances (authorizeNonceAccount body) := by
  simp only [authorizeNonceAccount]
  repeat refine .after fun _ => ?_
  infer_instance

instance : KeepsBalances upgradeNonceAccount := by
  rw [upgradeNonceAccount]
  repeat refine .after fun _ => ?_
  dsimp only
  split
  · exact .after fun _ => inferInstance
  · infer_instance

end Keeps

end SystemProgram

/-! ## The token program -/

namespace SplToken

variable (codec : TokenCodec) (body : List UInt8)

instance {α : Type} {len : ℕ} (pack : Pack α len) (index : ℕ)
    (record : α) : KeepsBalances (writeRecord pack index record) := by
  simp only [writeRecord]
  repeat refine .after fun _ => ?_
  infer_instance

instance (index : ℕ) (mint : Mint) :
    KeepsBalances (writeMint codec index mint) := by
  simp only [writeMint]
  repeat refine .after fun _ => ?_
  infer_instance

instance (index : ℕ) (token : TokenAccount) :
    KeepsBalances (writeTokenAccount codec index token) := by
  simp only [writeTokenAccount]
  repeat refine .after fun _ => ?_
  infer_instance

instance : KeepsBalances (initializeMint codec body) := by
  simp only [initializeMint]
  repeat refine .after fun _ => ?_
  infer_instance

instance : KeepsBalances (initializeAccount codec) := by
  simp only [initializeAccount]
  repeat refine .after fun _ => ?_
  infer_instance

instance : KeepsBalances (transfer codec body) := by
  simp only [transfer]
  repeat refine .after fun _ => ?_
  infer_instance

instance : KeepsBalances (approve codec body) := by
  simp only [approve]
  repeat refine .after fun _ => ?_
  infer_instance

instance : KeepsBalances (revoke codec) := by
  simp only [revoke]
  repeat refine .after fun _ => ?_
  infer_instance

instance : KeepsBalances (mintTo codec body) := by
  simp only [mintTo]
  repeat refine .after fun _ => ?_
  infer_instance

instance : KeepsBalances (burn codec body) := by
  simp only [burn]
  repeat refine .after fun _ => ?_
  infer_instance

end SplToken

namespace AtaProgram

instance (codec : TokenCodec) (idempotent : Bool) (ata : KeyedAccount)
    (wallet mint tokenProgram : Pubkey) :
    KeepsBalances
      (acceptExisting codec idempotent ata wallet mint tokenProgram) := by
  rw [acceptExisting]
  repeat refine .after fun _ => ?_
  dsimp only
  split
  · exact .after fun _ => inferInstance
  · infer_instance

end AtaProgram

namespace AltProgram

instance : KeepsBalances freezeLookupTable := by
  simp only [freezeLookupTable]
  repeat refine .after fun _ => ?_
  infer_instance

instance (body : List UInt8) : KeepsBalances (extendLookupTable body) := by
  simp only [extendLookupTable]
  repeat refine .after fun _ => ?_
  infer_instance

instance : KeepsBalances deactivateLookupTable := by
  simp only [deactivateLookupTable]
  repeat refine .after fun _ => ?_
  infer_instance

end AltProgram

namespace StakeProgram

variable (minimumBalance : Rent → Nat → UInt64) (body : List UInt8)

instance (data : List UInt8) : ReadOnly (readState data) := by
  simp only [readState]
  infer_instance

instance : KeepsBalances (initializeStake minimumBalance body) := by
  simp only [initializeStake]
  repeat refine .after fun _ => ?_
  infer_instance

instance (stored : StakeMeta) (newAuth : Pubkey) (role : Nat) :
    ReadOnly (reauthorize stored newAuth role) := by
  simp only [reauthorize]
  split <;> infer_instance

instance : KeepsBalances (authorize body) := by
  simp only [authorize]
  repeat refine .after fun _ => ?_
  infer_instance

instance : KeepsBalances delegateStake := by
  simp only [delegateStake]
  repeat refine .after fun _ => ?_
  infer_instance

instance : KeepsBalances deactivate := by
  rw [deactivate]
  repeat refine .after fun _ => ?_
  dsimp only
  split
  · repeat refine .after fun _ => ?_
    infer_instance
  · exact .after fun _ => inferInstance

end StakeProgram

namespace VoteProgram

variable (minimumBalance : Rent → Nat → UInt64) (body : List UInt8)

instance (index start : Nat) (bytes : List UInt8) :
    KeepsBalances (writeData index start bytes) := by
  simp only [writeData]
  repeat refine .after fun _ => ?_
  infer_instance

instance : KeepsBalances (initializeAccount minimumBalance body) := by
  simp only [initializeAccount]
  repeat refine .after fun _ => ?_
  infer_instance

instance : KeepsBalances (authorize body) := by
  rw [authorize]
  repeat refine .after fun _ => ?_
  dsimp only
  split
  · repeat refine .after fun _ => ?_
    infer_instance
  · repeat refine .after fun _ => ?_
    infer_instance
  · exact .after fun _ => inferInstance

instance : KeepsBalances updateValidatorIdentity := by
  simp only [updateValidatorIdentity]
  repeat refine .after fun _ => ?_
  infer_instance

instance : KeepsBalances (updateCommission body) := by
  simp only [updateCommission]
  repeat refine .after fun _ => ?_
  infer_instance

end VoteProgram

/-! ## Handlers that move lamports -/

section Moves

variable {context : InvokeContext} {state final : InvokeState}

namespace SystemProgram

variable {crates : Crates} {data body : List UInt8}

theorem Pays.settles {place : Nat} {amount : UInt64}
    {slots left : List KeyedAccount} (pays : Pays place amount slots left)
    (behind : 0 ≠ place) : Settles slots left (some (place, amount)) := by
  obtain ⟨payer, payee, atPayer, atPayee, covered, rfl⟩ := pays
  exact settles_moved behind atPayer atPayee covered rfl rfl

theorem Funds.settles {amount : UInt64} {slots left : List KeyedAccount}
    (funds : Funds amount slots left) : Settles slots left none := by
  obtain
    ⟨funder, target, bytes, owner, atFunder, atTarget, covered, unfunded,
     _, rfl⟩ := funds
  exact
    settles_created (by decide) atFunder atTarget covered rfl unfunded rfl

theorem withdrawNonceAccount_settles
    (yields :
      (withdrawNonceAccount (data.drop 4)).Yields context state ()
        final) :
    Settles state.accounts final.accounts (some (1, u64At data 4)) := by
  simp only [withdrawNonceAccount, yields_bind, rejectBuiltin_yields,
    readU64_yields, requireSlots_yields, slot_yields,
    requireWritable_yields, requireSigner_yields, readNonceState_yields,
    requireFunds_yields, writeSlot_yields, log_yields, u64At_body,
    UInt64.not_lt, ↓existsAndEq, and_true, exists_const] at yields
  rcases yields with
    ⟨_, _, _, nonce, atNonce, destination, atDestination, authority, _, _,
     _, _, stored, _, _, covered, debited, atDebited, credited, atCredited,
     rfl⟩
  cases atNonce.symm.trans atDebited
  rw [List.getElem?_set_ne (by decide)] at atCredited
  cases atDestination.symm.trans atCredited
  exact
    settles_moved (by decide) atNonce atDestination covered rfl rfl

theorem invoke_settles
    (yields : (invoke crates data).Yields context state () final) :
    Settles state.accounts final.accounts (credit data) := by
  simp only [invoke, yields_bind, rejectBuiltin_yields, readU32_yields,
    ↓existsAndEq, and_true, exists_const] at yields
  rcases yields with ⟨_, _, ran⟩
  simp only [tagOf_eq] at ran
  simp only [credit]
  generalize tagOf data = tag at ran ⊢
  split at ran
  · exact (createAccount_funds ran).settles
  · exact .of_kept (assign _) ran
  · exact (transfer_pays ran).settles (by decide)
  · exact (createAccountWithSeed_funds ran).settles
  · exact .of_kept (advanceNonceAccount _) ran
  · exact withdrawNonceAccount_settles ran
  · exact .of_kept (initializeNonceAccount _ _) ran
  · exact .of_kept (authorizeNonceAccount _) ran
  · exact .of_kept (allocate _) ran
  · exact .of_kept (assignWithSeed _ _) ran
  · exact (transferWithSeed_pays ran).settles (by decide)
  · exact .of_kept upgradeNonceAccount ran
  · simp at ran

end SystemProgram

/-- The lamports in a slot. -/
def balanceAt (slots : List KeyedAccount) (index : Nat) : UInt64 :=
  (slots[index]?.map KeyedAccount.lamports).getD 0

theorem balanceAt_of_found {slots : List KeyedAccount} {index : Nat}
    {account : KeyedAccount} (found : slots[index]? = some account) :
    balanceAt slots index = account.lamports := by
  rw [balanceAt, found]
  rfl

/-- An account that is emptied into another one. -/
theorem settles_emptied {slots : List KeyedAccount} {place place' : Nat}
    {closed payee closed' payee' : KeyedAccount} (apart : place ≠ place')
    (atClosed : slots[place]? = some closed)
    (atPayee : slots[place']? = some payee)
    (emptied : closed'.lamports = 0)
    (credited :
      payee'.lamports = saturatingAdd payee.lamports closed.lamports) :
    Settles slots ((slots.set place' payee').set place closed')
      (some (place', balanceAt slots place)) := by
  rw [List.set_comm _ _ apart.symm, balanceAt_of_found atClosed]
  apply settles_moved apart atClosed atPayee (UInt64.le_refl _) _ credited
  rw [emptied, UInt64.sub_self]

namespace SplToken

variable {codec : TokenCodec} {data : List UInt8}

/-- A closing credits slot 1 with all that slot 0 holds. -/
def credit (data : List UInt8) (slots : List KeyedAccount) : Credit :=
  match data with
  | [] => none
  | tag :: _ =>
      match tag.toNat with
      | 9 => some (1, balanceAt slots 0)
      | _ => none

theorem closeAccount_settles
    (yields : (closeAccount codec).Yields context state () final) :
    Settles state.accounts final.accounts
      (some (1, balanceAt state.accounts 0)) := by
  obtain
    ⟨closed, destination, token, atClosed, atDestination, _, _, _, left⟩ :=
    closeAccount_closes yields
  rw [left]
  exact settles_emptied (by decide) atClosed atDestination rfl rfl

theorem invoke_settles
    (yields : (invoke codec data).Yields context state () final) :
    Settles state.accounts final.accounts
      (credit data state.accounts) := by
  cases data with
  | nil =>
      exact .of_kept (rejectBuiltin True _) yields
  | cons tag body =>
      unfold invoke at yields
      unfold credit
      dsimp only at yields ⊢
      generalize tag.toNat = number at yields ⊢
      split at yields
      · exact .of_kept (initializeMint _ _) yields
      · exact .of_kept (initializeAccount _) yields
      · exact .of_kept (transfer _ _) yields
      · exact .of_kept (approve _ _) yields
      · exact .of_kept (revoke _) yields
      · exact .of_kept (mintTo _ _) yields
      · exact .of_kept (burn _ _) yields
      · exact closeAccount_settles yields
      · simp at yields

end SplToken

namespace AtaProgram

variable {codec : TokenCodec} {findProgramAddress : FindProgramAddress}
  {data : List UInt8}

theorem create_settles {funding ata : KeyedAccount}
    {wallet mint tokenProgram : Pubkey} (fresh : Fresh ata)
    (atFunding : state.accounts[0]? = some funding)
    (atAta : state.accounts[1]? = some ata)
    (yields :
      (create codec funding ata wallet mint tokenProgram).Yields context
        state () final) :
    Settles state.accounts final.accounts none := by
  have funded : ¬ funding.lamports < ataDefaultLamports := by
    simp only [create] at yields
    obtain ⟨_, _, passed, _⟩ := yields_bind.mp yields
    exact (requireFunds_yields.mp passed).1
  obtain ⟨packed, _, written⟩ :=
    accounts_of_create atFunding atAta yields
  rw [written]
  exact
    settles_created (by decide) atFunding atAta (UInt64.not_lt.mp funded)
      rfl fresh.1 rfl

theorem invoke_settles
    (yields :
      (invoke codec findProgramAddress data).Yields context state ()
        final) :
    Settles state.accounts final.accounts none := by
  obtain ⟨idempotent, _, slots, _, ran⟩ := invoke_yields.mp yields
  split at ran
  · exact create_settles ‹_› slots.atFunding slots.atAta ran
  · exact .of_kept (acceptExisting _ _ _ _ _ _) ran

end AtaProgram

namespace AltProgram

variable {createProgramAddress : CreateProgramAddress}
  {data body : List UInt8}

/-- A closing credits slot 2 with all that slot 0 holds. -/
def credit (data : List UInt8) (slots : List KeyedAccount) : Credit :=
  match tagOf data with
  | 4 => some (2, balanceAt slots 0)
  | _ => none

theorem createLookupTable_settles
    (yields :
      (createLookupTable createProgramAddress body).Yields context state ()
        final) :
    Settles state.accounts final.accounts none := by
  simp only [createLookupTable, ne_eq, yields_bind, rejectBuiltin_yields,
    readU64_yields, slice_yields, requireSlots_yields, slot_yields,
    requireWritable_yields, requireSigner_yields, environment_yields,
    orBuiltin_yields, requireFunds_yields, writeSlot_yields, log_yields,
    not_or, Decidable.not_not, UInt64.not_lt, ↓existsAndEq, and_true,
    true_and, exists_const] at yields
  rcases yields with
    ⟨_, _, _, _, table, atTable, authority, _, payer, atPayer, _, _, _, _,
     _, ⟨_, unfunded⟩, covered, debited, atDebited, opened, atOpened, rfl⟩
  cases atPayer.symm.trans atDebited
  exact
    settles_created (by decide) atPayer atTable covered rfl unfunded rfl

theorem closeLookupTable_settles
    (yields : closeLookupTable.Yields context state () final) :
    Settles state.accounts final.accounts
      (some (2, balanceAt state.accounts 0)) := by
  simp only [closeLookupTable, yields_bind, rejectBuiltin_yields,
    requireSlots_yields, slot_yields, requireWritable_yields,
    requireSigner_yields, okOrBuiltin_yields, requireStored_yields,
    environment_yields, writeSlot_yields, log_yields, ↓existsAndEq,
    and_true, true_and, exists_const] at yields
  rcases yields with
    ⟨_, table, atTable, auth, _, recipient, atRecipient, _, _, _, tableMeta,
     _, _, _, credited, atCredited, closed, atClosed, rfl⟩
  cases atRecipient.symm.trans atCredited
  exact settles_emptied (by decide) atTable atRecipient rfl rfl

theorem invoke_settles
    (yields :
      (invoke createProgramAddress data).Yields context state () final) :
    Settles state.accounts final.accounts
      (credit data state.accounts) := by
  simp only [invoke, yields_bind, rejectBuiltin_yields, readU32_yields,
    ↓existsAndEq, and_true, exists_const] at yields
  rcases yields with ⟨_, _, ran⟩
  simp only [SystemProgram.tagOf_eq] at ran
  simp only [credit]
  generalize tagOf data = tag at ran ⊢
  split at ran
  · exact createLookupTable_settles ran
  · exact .of_kept freezeLookupTable ran
  · exact .of_kept (extendLookupTable _) ran
  · exact .of_kept deactivateLookupTable ran
  · exact closeLookupTable_settles ran
  · simp at ran

end AltProgram

namespace StakeProgram

variable {minimumBalance : Rent → Nat → UInt64} {data : List UInt8}

/-- A withdrawal credits slot 1. -/
def credit (data : List UInt8) : Credit :=
  match tagOf data with
  | 4 => some (1, u64At data 4)
  | _ => none

theorem withdraw_settles
    (yields : (withdraw (data.drop 4)).Yields context state () final) :
    Settles state.accounts final.accounts (some (1, u64At data 4)) := by
  simp only [withdraw, yields_bind, rejectBuiltin_yields,
    requireSlots_yields, readU64_yields, slot_yields,
    requireWritable_yields, readState_yields, okOrBuiltin_yields,
    requireSigner_yields, environment_yields, writeSlot_yields,
    SystemProgram.u64At_body, gt_iff_lt, UInt64.not_lt, ↓existsAndEq,
    and_true, true_and, exists_const] at yields
  rcases yields with
    ⟨_, _, _, _, stake, atFirst, recipient, atSecond, _, _, decoded,
     decodes, stored, held, signed, covered, debited, atDebited, credited,
     atCredited, drained, atDrained, wrote⟩
  cases atFirst.symm.trans atDebited
  rw [List.getElem?_set_ne (by decide)] at atCredited
  cases atSecond.symm.trans atCredited
  have moved := settles_withdrawn (by decide) atFirst atSecond covered
  split at wrote
  · simp only [yields_bind, writeSlot_yields, log_yields, ↓existsAndEq,
      and_true, exists_const] at wrote
    rcases wrote with ⟨blanked, atBlanked, rfl⟩
    exact moved.rewrite atBlanked rfl
  · rw [log_yields] at wrote
    subst wrote
    exact moved

theorem invoke_settles
    (yields :
      (invoke minimumBalance data).Yields context state () final) :
    Settles state.accounts final.accounts (credit data) := by
  simp only [invoke, yields_bind, rejectBuiltin_yields, readU32_yields,
    ↓existsAndEq, and_true, exists_const] at yields
  rcases yields with ⟨_, _, ran⟩
  simp only [SystemProgram.tagOf_eq] at ran
  simp only [credit]
  generalize tagOf data = tag at ran ⊢
  split at ran
  · exact .of_kept (initializeStake _ _) ran
  · exact .of_kept (authorize _) ran
  · exact .of_kept delegateStake ran
  · exact withdraw_settles ran
  · exact .of_kept deactivate ran
  · simp at ran

end StakeProgram

namespace VoteProgram

variable {minimumBalance : Rent → Nat → UInt64} {data : List UInt8}

/-- A withdrawal credits slot 1. -/
def credit (data : List UInt8) : Credit :=
  match tagOf data with
  | 3 => some (1, u64At data 4)
  | _ => none

theorem withdraw_settles
    (yields :
      (withdraw minimumBalance (data.drop 4)).Yields context state ()
        final) :
    Settles state.accounts final.accounts (some (1, u64At data 4)) := by
  simp only [withdraw, yields_bind, rejectBuiltin_yields,
    requireSlots_yields, readU64_yields, slot_yields,
    requireWritable_yields, requireInitialized_yields, readPubkey_yields,
    requireSigner_yields, environment_yields, writeSlot_yields,
    SystemProgram.u64At_body, gt_iff_lt, UInt64.not_lt, ↓existsAndEq,
    and_true, true_and, exists_const] at yields
  rcases yields with
    ⟨_, _, vote, atFirst, recipient, atSecond, initialized, _, _, _, _,
     withdrawer, _, signed, covered, debited, atDebited, credited,
     atCredited, drained, atDrained, wrote⟩
  cases atFirst.symm.trans atDebited
  rw [List.getElem?_set_ne (by decide)] at atCredited
  cases atSecond.symm.trans atCredited
  have moved := settles_withdrawn (by decide) atFirst atSecond covered
  split at wrote
  · simp only [yields_bind, writeData_yields, log_yields, ↓existsAndEq,
      and_true, exists_const] at wrote
    rcases wrote with ⟨blanked, ⟨atBlanked, _⟩, rfl⟩
    exact moved.rewrite atBlanked rfl
  · rw [log_yields] at wrote
    subst wrote
    exact moved

theorem invoke_settles
    (yields :
      (invoke minimumBalance data).Yields context state () final) :
    Settles state.accounts final.accounts (credit data) := by
  simp only [invoke, yields_bind, rejectBuiltin_yields, readU32_yields,
    ↓existsAndEq, and_true, exists_const] at yields
  rcases yields with ⟨_, _, ran⟩
  simp only [SystemProgram.tagOf_eq] at ran
  simp only [credit]
  generalize tagOf data = tag at ran ⊢
  split at ran
  · exact .of_kept (initializeAccount _ _) ran
  · exact .of_kept (authorize _) ran
  · exact withdraw_settles ran
  · exact .of_kept updateValidatorIdentity ran
  · exact .of_kept (updateCommission _) ran
  · simp at ran

end VoteProgram

end Moves

/-- What the bundled programs take from linked crates. -/
structure LinkedCrates where
  crates : Crates
  codec : TokenCodec
  findProgramAddress : FindProgramAddress
  createProgramAddress : CreateProgramAddress
  minimumBalance : Rent → Nat → UInt64

/-- The bundled programs that write balances. -/
inductive Simulator where
  | system
  | splToken
  | splAta
  | alt
  | stake
  | vote
  deriving DecidableEq

namespace Simulator

def invoke (linked : LinkedCrates) :
    Simulator → List UInt8 → Routine Unit
  | system => SystemProgram.invoke linked.crates
  | splToken => SplToken.invoke linked.codec
  | splAta => AtaProgram.invoke linked.codec linked.findProgramAddress
  | alt => AltProgram.invoke linked.createProgramAddress
  | stake => StakeProgram.invoke linked.minimumBalance
  | vote => VoteProgram.invoke linked.minimumBalance

/-- The existing balance an instruction adds to, and what it adds. -/
def credit (data : List UInt8) (slots : List KeyedAccount) :
    Simulator → Credit
  | system => SystemProgram.credit data
  | splToken => SplToken.credit data slots
  | splAta => none
  | alt => AltProgram.credit data slots
  | stake => StakeProgram.credit data
  | vote => VoteProgram.credit data

/-- When an accepted instruction keeps the lamports of its slots. -/
theorem totalLamports_eq_iff (linked : LinkedCrates)
    (program : Simulator) {data : List UInt8} {context : InvokeContext}
    {state final : InvokeState}
    (yields :
      (program.invoke linked data).Yields context state () final) :
    totalLamports final.accounts = totalLamports state.accounts ↔
      CreditFits state.accounts (program.credit data state.accounts) := by
  cases program with
  | system => exact (SystemProgram.invoke_settles yields).total_eq_iff
  | splToken => exact (SplToken.invoke_settles yields).total_eq_iff
  | splAta => exact (AtaProgram.invoke_settles yields).total_eq_iff
  | alt => exact (AltProgram.invoke_settles yields).total_eq_iff
  | stake => exact (StakeProgram.invoke_settles yields).total_eq_iff
  | vote => exact (VoteProgram.invoke_settles yields).total_eq_iff

def idleLinks : LinkedCrates :=
  { crates := Creation.idleCrates
    codec := splCodec
    findProgramAddress := fun _ _ => (.default, 255)
    createProgramAddress := fun _ _ => .error "InvalidSeeds"
    minimumBalance := fun _ _ => 0 }

def senderAddress : Pubkey := ⟨List.replicate 32 1, rfl⟩

def receiverAddress : Pubkey := ⟨List.replicate 32 2, rfl⟩

def walletOf (address : Pubkey) (lamports : UInt64) : KeyedAccount :=
  { address
    lamports
    data := []
    owner := systemProgramId
    executable := false
    rentEpoch := 0 }

def transferContext : InvokeContext :=
  { programId := systemProgramId
    accountMetas :=
      [{ pubkey := senderAddress, isSigner := true, isWritable := true },
        { pubkey := receiverAddress, isSigner := false,
          isWritable := true }]
    sysvars := .default }

/-- A sender with five lamports, and a receiver. -/
def transferState (held : UInt64) : InvokeState :=
  { accounts := [walletOf senderAddress 5, walletOf receiverAddress held]
    logs := .empty
    budget := .default
    cells := { pendingCuLimit := none, priorityFeeMicroLamportsPerCu := 0 } }

/-- A transfer of three lamports. -/
def transferThree : List UInt8 := [2, 0, 0, 0] ++ u64Bytes 3

theorem transferThree_yields (held : UInt64) :
    ∃ final,
      (system.invoke idleLinks transferThree).Yields transferContext
        (transferState held) () final :=
  ⟨_, rfl⟩

theorem totalLamports_eq_iff_transfer :
    ∃ final,
      (system.invoke idleLinks transferThree).Yields transferContext
          (transferState 7) () final ∧
        totalLamports final.accounts = 12 := by
  obtain ⟨final, yields⟩ := transferThree_yields 7
  refine ⟨final, yields, (totalLamports_eq_iff _ _ yields).mpr ?_⟩
  exact (creditFits_some rfl).mpr (by decide)

/-- The receiver is full: two of the three lamports are lost. -/
theorem full_receiver_loses_lamports :
    ∃ final,
      (system.invoke idleLinks transferThree).Yields transferContext
          (transferState 0xFFFFFFFFFFFFFFFE) () final ∧
        totalLamports final.accounts + 2 =
          totalLamports (transferState 0xFFFFFFFFFFFFFFFE).accounts :=
  ⟨_, rfl, rfl⟩

end Simulator

end Hopper
