import HopperSvm.Refusal
import HopperSvm.TokenEffects

/-!
Each handler reads everything it needs, then writes: an error undoes
nothing, and packing a record that the handler has just checked cannot
fail.  So a handler accepts an input exactly when the input passes its
checks, which are listed here one record a handler, and refuses any other.
-/

namespace Hopper

namespace SplToken

open Routine Words

variable {codec : TokenCodec} {context : InvokeContext}
  {state : InvokeState} {body : List UInt8}

section Records

variable {α : Type} {len : ℕ} {pack : Pack α len}

instance (noun name : String) (account : KeyedAccount) :
    ReadOnly (readRecord pack noun name account) := by
  simp only [readRecord]
  infer_instance

instance (index : ℕ) (record : α) :
    Infallible (writeRecord pack index record) := by
  simp only [writeRecord]
  infer_instance

/-- A record that unpacking would accept can be written. -/
theorem writeRecord_returns {index : ℕ} {record : α}
    (initialized : pack.isInitialized record = true)
    (inRange : index < state.accounts.length) :
    (writeRecord pack index record).Returns context state := by
  have sized (account : KeyedAccount) :
      (if account.data.length = len then account.data
        else List.replicate len 0).length = len := by
    split
    · assumption
    · exact List.length_replicate
  rw [writeRecord, returns_bind]
  refine ⟨slot_returns.mpr inRange, ?_⟩
  intro account state' found
  rcases slot_yields.mp found with ⟨_, rfl⟩
  obtain ⟨packed, packs, _⟩ :=
    pack.pack_unpack record _ initialized (sized account)
  rw [returns_bind, packs]
  refine ⟨expect_returns.mpr (Option.some_ne_none packed), ?_⟩
  intro bytes state' wrote
  rcases expect_yields.mp wrote with ⟨_, rfl⟩
  exact writeSlot_returns.mpr inRange

end Records

instance (account : KeyedAccount) :
    ReadOnly (readMint codec account) := by
  simp only [readMint]
  infer_instance

instance (account : KeyedAccount) :
    ReadOnly (readTokenAccount codec account) := by
  simp only [readTokenAccount]
  infer_instance

instance (index : ℕ) (mint : Mint) :
    Infallible (writeMint codec index mint) := by
  simp only [writeMint]
  infer_instance

instance (index : ℕ) (token : TokenAccount) :
    Infallible (writeTokenAccount codec index token) := by
  simp only [writeTokenAccount]
  infer_instance

instance (body : List UInt8) : ReadOnly (readFreezeAuthority body) := by
  simp only [readFreezeAuthority]
  split <;> infer_instance

instance (authority : Pubkey) (amount : UInt64) (source : TokenAccount) :
    ReadOnly (authorizeTransfer authority amount source) := by
  simp only [authorizeTransfer]
  split
  · infer_instance
  · split <;> infer_instance

instance (authority : Pubkey) (amount : UInt64) (source : TokenAccount) :
    ReadOnly (authorizeBurn authority amount source) := by
  simp only [authorizeBurn]
  split
  · infer_instance
  · split <;> infer_instance

theorem readMint_returns {account : KeyedAccount} :
    (readMint codec account).Returns context state := by
  simp [readMint, readRecord, returns_bind]

theorem readTokenAccount_returns {account : KeyedAccount} :
    (readTokenAccount codec account).Returns context state := by
  simp [readTokenAccount, readRecord, returns_bind]

theorem writeMint_returns {index : ℕ} {mint : Mint}
    (usable : mint.isInitialized = true)
    (inRange : index < state.accounts.length) :
    (writeMint codec index mint).Returns context state := by
  rw [← codec.mint_isInitialized] at usable
  exact writeRecord_returns usable inRange

theorem writeTokenAccount_returns {index : ℕ} {token : TokenAccount}
    (usable : token.state ≠ .uninitialized)
    (inRange : index < state.accounts.length) :
    (writeTokenAccount codec index token).Returns context state :=
  writeRecord_returns (isInitialized_token usable) inRange

theorem isInitialized_of_unpack_mint {bytes : List UInt8} {mint : Mint}
    (unpacked : codec.mint.unpack bytes = .ok mint) :
    mint.isInitialized = true := by
  rw [← codec.mint_isInitialized]
  exact codec.mint.isInitialized_of_unpack unpacked

-- The checks of a handler one by one; what is left of it only writes.

instance : Atomic (initializeMint codec body) := by
  simp only [initializeMint]
  repeat refine .after_check fun _ => ?_
  infer_instance

instance : Atomic (initializeAccount codec) := by
  simp only [initializeAccount]
  repeat refine .after_check fun _ => ?_
  infer_instance

instance : Atomic (transfer codec body) := by
  simp only [transfer]
  repeat refine .after_check fun _ => ?_
  infer_instance

instance : Atomic (approve codec body) := by
  simp only [approve]
  repeat refine .after_check fun _ => ?_
  infer_instance

instance : Atomic (revoke codec) := by
  simp only [revoke]
  repeat refine .after_check fun _ => ?_
  infer_instance

instance : Atomic (mintTo codec body) := by
  simp only [mintTo]
  repeat refine .after_check fun _ => ?_
  infer_instance

instance : Atomic (burn codec body) := by
  simp only [burn]
  repeat refine .after_check fun _ => ?_
  infer_instance

instance : Atomic (closeAccount codec) := by
  simp only [closeAccount]
  repeat refine .after_check fun _ => ?_
  infer_instance

/-- An error of the token program leaves the slots as they came. -/
instance (data : List UInt8) : Atomic (invoke codec data) := by
  simp only [invoke]
  split
  · infer_instance
  · split <;> infer_instance

theorem readFreezeAuthority_returns :
    (readFreezeAuthority body).Returns context state := by
  simp only [readFreezeAuthority]
  split
  · rename_i flagged
    rw [returns_check, readPubkey_returns]
    refine ⟨by omega, ?_⟩
    intro authority _
    exact returns_pure
  · exact returns_pure

theorem authorizeTransfer_returns {authority : Pubkey} {amount : UInt64}
    {source : TokenAccount} :
    (authorizeTransfer authority amount source).Returns context
      state := by
  simp only [authorizeTransfer]
  split
  · exact returns_pure
  · split <;> simp [returns_bind]

theorem authorizeBurn_returns {authority : Pubkey} {amount : UInt64}
    {source : TokenAccount} :
    (authorizeBurn authority amount source).Returns context state := by
  simp only [authorizeBurn]
  split
  · exact returns_pure
  · split <;> simp [returns_bind]

theorem approve_returns :
    (approve codec body).Returns context state := by
  simp only [approve, returns_check, returns_bind, rejectBuiltin_returns,
    rejectBuiltin_yields, readU64_returns, readU64_yields,
    requireSlots_returns, requireSlots_yields, slot_returns, slot_yields,
    requireWritable_returns, requireWritable_yields,
    requireSigner_returns, requireSigner_yields, readTokenAccount_returns,
    readTokenAccount_yields, log_returns, and_imp, true_and, and_true,
    forall_const, implies_true, not_lt, ne_eq, Decidable.not_not]
  grind [writeTokenAccount_returns, state_of_unpack]

theorem revoke_returns : (revoke codec).Returns context state := by
  simp only [revoke, returns_check, returns_bind, rejectBuiltin_returns,
    rejectBuiltin_yields, requireSlots_returns, requireSlots_yields,
    slot_returns, slot_yields, requireWritable_returns,
    requireWritable_yields, requireSigner_returns, requireSigner_yields,
    readTokenAccount_returns, readTokenAccount_yields, log_returns,
    and_imp, true_and, and_true, forall_const, implies_true, ne_eq,
    Decidable.not_not]
  grind [writeTokenAccount_returns, state_of_unpack]

theorem mintTo_returns : (mintTo codec body).Returns context state := by
  simp only [mintTo, returns_check, returns_bind, rejectBuiltin_returns,
    rejectBuiltin_yields, readU64_returns, readU64_yields,
    requireSlots_returns, requireSlots_yields, slot_returns, slot_yields,
    requireWritable_returns, requireWritable_yields,
    requireSigner_returns, requireSigner_yields, readMint_returns,
    readMint_yields, readTokenAccount_returns, readTokenAccount_yields,
    okOrBuiltin_returns, okOrBuiltin_yields, log_returns, and_imp,
    true_and, and_true, forall_const, implies_true, not_lt, ne_eq,
    Decidable.not_not]
  grind [writeTokenAccount_returns, writeMint_returns, state_of_unpack,
    isInitialized_of_unpack_mint, Yields.length_eq]

theorem initializeMint_returns :
    (initializeMint codec body).Returns context state := by
  simp only [initializeMint, returns_check, returns_bind,
    rejectBuiltin_returns, rejectBuiltin_yields, requireSlots_returns,
    requireSlots_yields, slot_returns, slot_yields,
    requireWritable_returns, requireWritable_yields, expect_returns,
    expect_yields, readPubkey_returns, readPubkey_yields,
    readFreezeAuthority_returns, environment_returns, writeSlot_returns,
    log_returns, and_imp, true_and, and_true, forall_const, implies_true,
    not_lt, ne_eq]
  grind [initializeMintMinLen, writeMint_returns, Yields.length_eq]

theorem initializeAccount_returns :
    (initializeAccount codec).Returns context state := by
  simp only [initializeAccount, returns_check, returns_bind,
    rejectBuiltin_returns, rejectBuiltin_yields, requireSlots_returns,
    requireSlots_yields, slot_returns, slot_yields,
    requireWritable_returns, requireWritable_yields, readMint_returns,
    readMint_yields, environment_returns, writeSlot_returns, log_returns,
    and_imp, true_and, and_true, forall_const, implies_true, not_lt]
  grind [writeTokenAccount_returns, Yields.length_eq]

theorem transfer_returns :
    (transfer codec body).Returns context state := by
  simp only [transfer, returns_check, returns_bind, rejectBuiltin_returns,
    rejectBuiltin_yields, readU64_returns, readU64_yields,
    requireSlots_returns, requireSlots_yields, slot_returns, slot_yields,
    requireWritable_returns, requireWritable_yields,
    requireSigner_returns, requireSigner_yields, readTokenAccount_returns,
    readTokenAccount_yields, authorizeTransfer_returns,
    authorizeTransfer_yields, rejectIf_returns, rejectIf_yields,
    okOrBuiltin_returns, okOrBuiltin_yields, log_returns, and_imp,
    true_and, and_true, forall_const, implies_true, not_lt, ne_eq,
    Decidable.not_not]
  grind [writeTokenAccount_returns, drawnBy_state, Yields.length_eq]

theorem burn_returns : (burn codec body).Returns context state := by
  simp only [burn, returns_check, returns_bind, rejectBuiltin_returns,
    rejectBuiltin_yields, readU64_returns, readU64_yields,
    requireSlots_returns, requireSlots_yields, slot_returns, slot_yields,
    requireWritable_returns, requireWritable_yields,
    requireSigner_returns, requireSigner_yields, readTokenAccount_returns,
    readTokenAccount_yields, readMint_returns, readMint_yields,
    authorizeBurn_returns, authorizeBurn_yields, rejectIf_returns,
    rejectIf_yields, log_returns, and_imp, true_and, and_true,
    forall_const, implies_true, not_lt, ne_eq, Decidable.not_not]
  grind [writeTokenAccount_returns, writeMint_returns, drawnBy_state,
    state_of_unpack, isInitialized_of_unpack_mint, Yields.length_eq]

theorem closeAccount_returns :
    (closeAccount codec).Returns context state := by
  simp only [closeAccount, returns_check, returns_bind,
    rejectBuiltin_returns, rejectBuiltin_yields, requireSlots_returns,
    requireSlots_yields, slot_returns, slot_yields,
    requireWritable_returns, requireWritable_yields,
    requireSigner_returns, requireSigner_yields, readTokenAccount_returns,
    readTokenAccount_yields, writeSlot_returns, log_returns, and_imp,
    true_and, and_true, forall_const, implies_true, ne_eq,
    Decidable.not_not]
  grind [Yields.length_eq]

/-- The token program never panics. -/
theorem invoke_returns {data : List UInt8} :
    (invoke codec data).Returns context state := by
  simp only [invoke]
  split
  · exact rejectBuiltin_returns
  · split
    · exact initializeMint_returns
    · exact initializeAccount_returns
    · exact transfer_returns
    · exact approve_returns
    · exact revoke_returns
    · exact mintTo_returns
    · exact burn_returns
    · exact closeAccount_returns
    · exact rejectBuiltin_returns

/-! ## What is accepted -/

/-- The account is a mint of the running program. -/
def IsMint (codec : TokenCodec) (context : InvokeContext)
    (account : KeyedAccount) (mint : Mint) : Prop :=
  account.owner = context.programId ∧
    codec.mint.unpack account.data = .ok mint

/-- The account is a token account of the running program. -/
def IsToken (codec : TokenCodec) (context : InvokeContext)
    (account : KeyedAccount) (token : TokenAccount) : Prop :=
  account.owner = context.programId ∧
    codec.account.unpack account.data = .ok token

section Checks

variable (codec : TokenCodec) (context : InvokeContext)
  (body : List UInt8) (slots : List KeyedAccount)

def InitializeMintChecks : Prop :=
  initializeMintMinLen - 1 ≤ body.length ∧
    ∃ account, slots[0]? = some account ∧
      IsWritable context account.address ∧
      mintLen ≤ account.data.length ∧
      ∀ mint, codec.mint.unpack account.data ≠ .ok mint

def InitializeAccountChecks : Prop :=
  3 ≤ slots.length ∧
    ∃ account mintAccount mint, slots[0]? = some account ∧
      slots[1]? = some mintAccount ∧
      IsWritable context account.address ∧
      IsMint codec context mintAccount mint ∧
      tokenAccountLen ≤ account.data.length ∧
      ∀ token, codec.account.unpack account.data = .ok token →
        token.state ≠ .initialized

def TransferChecks : Prop :=
  8 ≤ body.length ∧ 3 ≤ slots.length ∧
    ∃ sourceAccount destinationAccount authority source destination,
      slots[0]? = some sourceAccount ∧
      slots[1]? = some destinationAccount ∧
      slots[2]? = some authority ∧
      IsWritable context sourceAccount.address ∧
      IsWritable context destinationAccount.address ∧
      IsSigner context authority.address ∧
      IsToken codec context sourceAccount source ∧
      IsToken codec context destinationAccount destination ∧
      source.state = .initialized ∧ destination.state = .initialized ∧
      source.mint = destination.mint ∧
      MayMove authority.address (amountField body) source ∧
      amountField body ≤ source.amount ∧
      destination.amount.toNat + (amountField body).toNat < 2 ^ 64

def ApproveChecks : Prop :=
  8 ≤ body.length ∧ 3 ≤ slots.length ∧
    ∃ sourceAccount owner source,
      slots[0]? = some sourceAccount ∧ slots[2]? = some owner ∧
      IsWritable context sourceAccount.address ∧
      IsSigner context owner.address ∧
      IsToken codec context sourceAccount source ∧
      source.owner = owner.address

def RevokeChecks : Prop :=
  2 ≤ slots.length ∧
    ∃ sourceAccount owner source,
      slots[0]? = some sourceAccount ∧ slots[1]? = some owner ∧
      IsWritable context sourceAccount.address ∧
      IsSigner context owner.address ∧
      IsToken codec context sourceAccount source ∧
      source.owner = owner.address

def MintToChecks : Prop :=
  8 ≤ body.length ∧ 3 ≤ slots.length ∧
    ∃ mintAccount destinationAccount authority mint destination,
      slots[0]? = some mintAccount ∧
      slots[1]? = some destinationAccount ∧
      slots[2]? = some authority ∧
      IsWritable context mintAccount.address ∧
      IsWritable context destinationAccount.address ∧
      IsSigner context authority.address ∧
      IsMint codec context mintAccount mint ∧
      IsToken codec context destinationAccount destination ∧
      destination.mint = mintAccount.address ∧
      mint.mintAuthority = some authority.address ∧
      mint.supply.toNat + (amountField body).toNat < 2 ^ 64 ∧
      destination.amount.toNat + (amountField body).toNat < 2 ^ 64

def BurnChecks : Prop :=
  8 ≤ body.length ∧ 3 ≤ slots.length ∧
    ∃ sourceAccount mintAccount authority source mint,
      slots[0]? = some sourceAccount ∧ slots[1]? = some mintAccount ∧
      slots[2]? = some authority ∧
      IsWritable context sourceAccount.address ∧
      IsWritable context mintAccount.address ∧
      IsSigner context authority.address ∧
      IsToken codec context sourceAccount source ∧
      IsMint codec context mintAccount mint ∧
      source.mint = mintAccount.address ∧
      MayMove authority.address (amountField body) source ∧
      amountField body ≤ source.amount

end Checks

/-- Sums that fit are computed. -/
theorem exists_checkedAdd {left right : UInt64}
    (fits : left.toNat + right.toNat < 2 ^ 64) :
    ∃ sum : UInt64, left.toNat + right.toNat = sum.toNat := by
  refine ⟨UInt64.ofNat (left.toNat + right.toNat), ?_⟩
  rw [UInt64.toNat_ofNat_of_lt' fits]

theorem readFreezeAuthority_exists :
    ∃ authority, (readFreezeAuthority body).Yields context state authority
      state := by
  simp only [readFreezeAuthority]
  split
  · rename_i flagged
    have sized : ((body.drop 34).take 32).length = 32 := by
      simp only [List.length_take, List.length_drop]
      omega
    refine ⟨some ⟨_, sized⟩, ?_⟩
    rw [yields_bind]
    refine ⟨⟨_, sized⟩, state, ?_, yields_pure.mpr ⟨rfl, rfl⟩⟩
    exact readPubkey_yields.mpr ⟨by omega, rfl, rfl⟩
  · exact ⟨none, yields_pure.mpr ⟨rfl, rfl⟩⟩

section Writes

variable {first second : Routine Unit} {message : String}

theorem write_returns (returns : first.Returns context state) :
    (do
      first
      log message).Returns context state := by
  simp [returns_bind, returns]

theorem writes_returns (returns : first.Returns context state)
    (returns' : ∀ state' : InvokeState,
      state'.accounts.length = state.accounts.length →
        second.Returns context state') :
    (do
      first
      second
      log message).Returns context state := by
  rw [returns_bind]
  refine ⟨returns, ?_⟩
  intro value state' wrote
  exact write_returns (returns' state' wrote.length_eq)

/-- The first slot is written and taken over. -/
theorem claim_returns (returns : first.Returns context state)
    (inRange : 0 < state.accounts.length) :
    (do
      first
      let context ← environment
      writeSlot 0 fun account => { account with owner := context.programId }
      log message).Returns context state := by
  rw [returns_bind]
  refine ⟨returns, ?_⟩
  intro value state' wrote
  rw [← wrote.length_eq] at inRange
  simp [returns_check, returns_bind, inRange]

end Writes

theorem initializeMint_accepts :
    (initializeMint codec body).Accepts context state ↔
      InitializeMintChecks codec context body state.accounts := by
  simp only [initializeMint, accepts_check, rejectBuiltin_yields, not_lt,
    requireSlots_yields, slot_yields, requireWritable_yields,
    expect_yields, readPubkey_yields, exists_const, and_true]
  constructor
  · intro accepted
    rcases accepted with
      ⟨long, _, account, atFirst, writable, _, _, _, _, _, _, sized,
       notMint, _⟩
    refine ⟨long, account, atFirst, writable, sized, ?_⟩
    intro mint unpacked
    apply notMint
    rw [unpacked, Except.toOption, Option.any_some]
    exact isInitialized_of_unpack_mint unpacked
  · intro checks
    rcases checks with ⟨long, account, atFirst, writable, sized, notMint⟩
    obtain ⟨inRange, _⟩ := List.getElem?_eq_some_iff.mp atFirst
    obtain ⟨freezeAuthority, readFreeze⟩ :
        ∃ authority, (readFreezeAuthority body).Yields context state
          authority state :=
      readFreezeAuthority_exists
    have minLen : initializeMintMinLen - 1 = 34 := by decide
    rw [minLen] at long
    have key : ((body.drop 1).take 32).length = 32 := by
      simp only [List.length_take, List.length_drop]
      omega
    have fresh :
        ¬ (codec.mint.unpack account.data).toOption.any
            Mint.isInitialized = true := by
      cases unpacked : codec.mint.unpack account.data with
      | error err =>
          simp [Except.toOption]
      | ok mint =>
          exact absurd unpacked (notMint mint)
    have decimals : body[0]? = some body[0] :=
      List.getElem?_eq_getElem (by omega)
    exact
      ⟨minLen.trans_le long, inRange, account, atFirst, writable, _,
        decimals, ⟨_, key⟩, ⟨by omega, rfl⟩, freezeAuthority, readFreeze,
        sized, fresh,
        .of_returns
          (claim_returns (writeMint_returns rfl inRange) inRange)⟩

theorem initializeAccount_accepts :
    (initializeAccount codec).Accepts context state ↔
      InitializeAccountChecks codec context state.accounts := by
  simp only [initializeAccount, accepts_check, rejectBuiltin_yields,
    not_lt, requireSlots_yields, slot_yields, requireWritable_yields,
    readMint_yields, exists_const, and_true]
  constructor
  · intro accepted
    rcases accepted with
      ⟨enough, account, atFirst, writable, mintAccount, atMint, _, _, mint,
       isMint, _, sized, notOpen, _⟩
    refine
      ⟨enough, account, mintAccount, mint, atFirst, atMint, writable,
        isMint, sized, ?_⟩
    intro token unpacked initialized
    apply notOpen
    rw [unpacked, Except.toOption, Option.any_some]
    exact decide_eq_true initialized
  · intro checks
    rcases checks with
      ⟨enough, account, mintAccount, mint, atFirst, atMint, writable,
       isMint, sized, notOpen⟩
    have atOwner : state.accounts[2]? = some state.accounts[2] :=
      List.getElem?_eq_getElem (by omega)
    have usable : ¬ mint.isInitialized = false := by
      rw [isInitialized_of_unpack_mint isMint.2]
      decide
    have fresh :
        ¬ (codec.account.unpack account.data).toOption.any
            (fun existing => existing.state = .initialized) = true := by
      cases unpacked : codec.account.unpack account.data with
      | error err =>
          simp [Except.toOption]
      | ok token =>
          have closed := notOpen token unpacked
          simp [Except.toOption, closed]
    have inRange : 0 < state.accounts.length := by omega
    exact
      ⟨enough, account, atFirst, writable, mintAccount, atMint, _, atOwner,
        mint, isMint, usable, sized, fresh,
        .of_returns
          (claim_returns (writeTokenAccount_returns (by simp) inRange)
            inRange)⟩

theorem transfer_accepts :
    (transfer codec body).Accepts context state ↔
      TransferChecks codec context body state.accounts := by
  simp only [transfer, accepts_check, ne_eq, rejectBuiltin_yields, not_lt,
    readU64_yields, zero_add, List.drop_zero, requireSlots_yields,
    slot_yields, requireWritable_yields, requireSigner_yields,
    readTokenAccount_yields, Decidable.not_not,
    authorizeTransfer_yields, rejectIf_yields, UInt64.not_lt,
    okOrBuiltin_yields, checkedAdd_eq_some, drawnBy_amount, ↓existsAndEq,
    exists_const, and_true]
  constructor
  · intro accepted
    rcases accepted with
      ⟨long, _, enough, sourceAccount, atSource, destinationAccount,
       atDestination, authority, atAuthority, writable, writable', signed,
       source, isSource, destination, isDestination, usable, usable',
       sameMint, mayMove, covered, received, fits, _⟩
    refine
      ⟨long, enough, sourceAccount, destinationAccount, authority, source,
        destination, atSource, atDestination, atAuthority, writable,
        writable', signed, isSource, isDestination, usable, usable',
        sameMint, mayMove, covered, ?_⟩
    exact lt_of_eq_of_lt fits received.toNat_lt
  · intro checks
    rcases checks with
      ⟨long, enough, sourceAccount, destinationAccount, authority, source,
       destination, atSource, atDestination, atAuthority, writable,
       writable', signed, isSource, isDestination, usable, usable',
       sameMint, mayMove, covered, fits⟩
    obtain ⟨received, added⟩ := exists_checkedAdd fits
    refine
      ⟨long, long, enough, sourceAccount, atSource, destinationAccount,
        atDestination, authority, atAuthority, writable, writable', signed,
        source, isSource, destination, isDestination, usable, usable',
        sameMint, mayMove, covered, received, added, .of_returns ?_⟩
    apply writes_returns
    · apply writeTokenAccount_returns
      · rw [drawnBy_state, usable]
        decide
      · omega
    · intro state' sameLength
      apply writeTokenAccount_returns
      · rw [usable']
        decide
      · omega

theorem approve_accepts :
    (approve codec body).Accepts context state ↔
      ApproveChecks codec context body state.accounts := by
  simp only [approve, accepts_check, ne_eq, rejectBuiltin_yields, not_lt,
    readU64_yields, zero_add, List.drop_zero, requireSlots_yields,
    slot_yields, requireWritable_yields, requireSigner_yields,
    readTokenAccount_yields, Decidable.not_not, ↓existsAndEq, exists_const,
    and_true]
  constructor
  · intro accepted
    rcases accepted with
      ⟨long, _, enough, sourceAccount, atSource, _, _, owner, atOwner,
       writable, signed, source, isSource, isOwner, _⟩
    exact
      ⟨long, enough, sourceAccount, owner, source, atSource, atOwner,
        writable, signed, isSource, isOwner⟩
  · intro checks
    rcases checks with
      ⟨long, enough, sourceAccount, owner, source, atSource, atOwner,
       writable, signed, isSource, isOwner⟩
    have atDelegate : state.accounts[1]? = some state.accounts[1] :=
      List.getElem?_eq_getElem (by omega)
    have usable := state_of_unpack isSource.2
    refine
      ⟨long, long, enough, sourceAccount, atSource, _, atDelegate, owner,
        atOwner, writable, signed, source, isSource, isOwner,
        .of_returns (write_returns ?_)⟩
    apply writeTokenAccount_returns
    · exact usable
    · omega

theorem revoke_accepts :
    (revoke codec).Accepts context state ↔
      RevokeChecks codec context state.accounts := by
  simp only [revoke, accepts_check, ne_eq, rejectBuiltin_yields,
    requireSlots_yields, slot_yields, requireWritable_yields,
    requireSigner_yields, readTokenAccount_yields, Decidable.not_not,
    exists_const, and_true]
  constructor
  · intro accepted
    rcases accepted with
      ⟨enough, sourceAccount, atSource, owner, atOwner, writable, signed,
       source, isSource, isOwner, _⟩
    exact
      ⟨enough, sourceAccount, owner, source, atSource, atOwner, writable,
        signed, isSource, isOwner⟩
  · intro checks
    rcases checks with
      ⟨enough, sourceAccount, owner, source, atSource, atOwner, writable,
       signed, isSource, isOwner⟩
    have usable := state_of_unpack isSource.2
    refine
      ⟨enough, sourceAccount, atSource, owner, atOwner, writable, signed,
        source, isSource, isOwner, .of_returns (write_returns ?_)⟩
    apply writeTokenAccount_returns
    · exact usable
    · omega

theorem mintTo_accepts :
    (mintTo codec body).Accepts context state ↔
      MintToChecks codec context body state.accounts := by
  simp only [mintTo, accepts_check, ne_eq, rejectBuiltin_yields, not_lt,
    readU64_yields, zero_add, List.drop_zero, requireSlots_yields,
    slot_yields, requireWritable_yields, requireSigner_yields,
    readMint_yields, readTokenAccount_yields, Decidable.not_not,
    okOrBuiltin_yields, checkedAdd_eq_some, ↓existsAndEq, exists_const,
    and_true, true_and]
  constructor
  · intro accepted
    rcases accepted with
      ⟨long, _, enough, mintAccount, atMint, destinationAccount,
       atDestination, authority, atAuthority, writable, writable', signed,
       mint, isMint, destination, isDestination, ofMint, isAuthority,
       supply, fitsSupply, received, fits, _⟩
    refine
      ⟨long, enough, mintAccount, destinationAccount, authority, mint,
        destination, atMint, atDestination, atAuthority, writable,
        writable', signed, isMint, isDestination, ofMint, isAuthority, ?_,
        ?_⟩
    · exact lt_of_eq_of_lt fitsSupply supply.toNat_lt
    · exact lt_of_eq_of_lt fits received.toNat_lt
  · intro checks
    rcases checks with
      ⟨long, enough, mintAccount, destinationAccount, authority, mint,
       destination, atMint, atDestination, atAuthority, writable,
       writable', signed, isMint, isDestination, ofMint, isAuthority,
       fitsSupply, fits⟩
    obtain ⟨supply, minted⟩ := exists_checkedAdd fitsSupply
    obtain ⟨received, added⟩ := exists_checkedAdd fits
    refine
      ⟨long, long, enough, mintAccount, atMint, destinationAccount,
        atDestination, authority, atAuthority, writable, writable', signed,
        mint, isMint, destination, isDestination, ofMint, isAuthority,
        supply, minted, received, added, .of_returns ?_⟩
    have usable := isInitialized_of_unpack_mint isMint.2
    have usable' := state_of_unpack isDestination.2
    apply writes_returns
    · apply writeMint_returns
      · exact usable
      · omega
    · intro state' sameLength
      apply writeTokenAccount_returns
      · exact usable'
      · omega

theorem burn_accepts :
    (burn codec body).Accepts context state ↔
      BurnChecks codec context body state.accounts := by
  simp only [burn, accepts_check, ne_eq, rejectBuiltin_yields, not_lt,
    readU64_yields, zero_add, List.drop_zero, requireSlots_yields,
    slot_yields, requireWritable_yields, requireSigner_yields,
    readTokenAccount_yields, readMint_yields, Decidable.not_not,
    authorizeBurn_yields, rejectIf_yields, UInt64.not_lt,
    drawnBy_amount, ↓existsAndEq, exists_const, and_true]
  constructor
  · intro accepted
    rcases accepted with
      ⟨long, _, enough, sourceAccount, atSource, mintAccount, atMint,
       authority, atAuthority, writable, writable', signed, source,
       isSource, mint, isMint, ofMint, mayMove, covered, _⟩
    exact
      ⟨long, enough, sourceAccount, mintAccount, authority, source, mint,
        atSource, atMint, atAuthority, writable, writable', signed,
        isSource, isMint, ofMint, mayMove, covered⟩
  · intro checks
    rcases checks with
      ⟨long, enough, sourceAccount, mintAccount, authority, source, mint,
       atSource, atMint, atAuthority, writable, writable', signed,
       isSource, isMint, ofMint, mayMove, covered⟩
    refine
      ⟨long, long, enough, sourceAccount, atSource, mintAccount, atMint,
        authority, atAuthority, writable, writable', signed, source,
        isSource, mint, isMint, ofMint, mayMove, covered, .of_returns ?_⟩
    have usable := state_of_unpack isSource.2
    have usable' := isInitialized_of_unpack_mint isMint.2
    apply writes_returns
    · apply writeTokenAccount_returns
      · rw [drawnBy_state]
        exact usable
      · omega
    · intro state' sameLength
      apply writeMint_returns
      · exact usable'
      · omega

end SplToken

end Hopper
