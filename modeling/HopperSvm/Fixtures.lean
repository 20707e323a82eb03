import HopperSvm.Allowance
import HopperSvm.Library.Patch
import HopperSvm.Simulation

/-!
The verbs that write the account overlay without running a program, the
forced balances and supplies among them.  Forcing a balance copies eight
bytes to where a token account keeps its amount, without a look at what the
account is; on a mint the same bytes lie in the freeze authority, and a
forced supply lies in the owner of a token account.
-/

namespace Hopper

open Bytes Words

/-- `store.remove(address)`. -/
def AccountStore.remove (store : AccountStore) (address : Pubkey) :
    AccountStore where
  get other := if other = address then none else store.get other

@[simp]
theorem AccountStore.get_remove (store : AccountStore)
    (address other : Pubkey) :
    (store.remove address).get other =
      if other = address then none else store.get other := rfl

theorem AccountStore.Filed.remove {store : AccountStore}
    (filed : store.Filed) (address : Pubkey) :
    (store.remove address).Filed := by
  intro other account found
  rw [get_remove] at found
  by_cases same : other = address
  · rw [if_pos same] at found
    cases found
  · rw [if_neg same] at found
    exact filed other account found

namespace HopperSvm

section Verbs

variable (svm : HopperSvm)

/-- `HopperSvm::set_account`. -/
def setAccount (account : KeyedAccount) : HopperSvm :=
  { svm with accountStore := svm.accountStore.insert account }

/-- `HopperSvm::get_account`. -/
def getAccount (address : Pubkey) : Option KeyedAccount :=
  svm.accountStore.get address

/-- `HopperSvm::remove_account`. -/
def removeAccount (address : Pubkey) : Option KeyedAccount × HopperSvm :=
  (svm.accountStore.get address,
    { svm with accountStore := svm.accountStore.remove address })

/-- `HopperSvm::clear_accounts`. -/
def clearAccounts : HopperSvm :=
  { svm with accountStore := .empty }

/-- `HopperSvm::snapshot_accounts`. -/
def snapshotAccounts : AccountStore :=
  svm.accountStore

/-- Assign through `store.get_mut(address)`, or insert at the address. -/
def putAccount (address : Pubkey) (account : KeyedAccount) : HopperSvm :=
  { svm with accountStore := svm.accountStore.put address account }

/-- `HopperSvm::airdrop`. -/
def airdrop (address : Pubkey) (lamports : UInt64) : HopperSvm :=
  match svm.accountStore.get address with
  | some existing =>
      svm.putAccount address
        { existing with
          lamports := saturatingAdd existing.lamports lamports }
  | none =>
      svm.putAccount address
        { address
          lamports
          data := []
          owner := systemProgramId
          executable := false
          rentEpoch := 0 }

/-- `HopperSvm::create_account`. -/
def createAccount (minimumBalance : Rent → ℕ → UInt64)
    (address : Pubkey) (space : ℕ) (owner : Pubkey) : HopperSvm :=
  svm.putAccount address
    { address
      lamports := minimumBalance svm.sysvars.rent space
      data := List.replicate space 0
      owner
      executable := false
      rentEpoch := 0 }

/-- `acct.data[start..start + 8].copy_from_slice(&word.to_le_bytes())` for
an account that is there and long enough; a panic otherwise. -/
def forceWord (start : ℕ) (address : Pubkey) (word : UInt64) :
    Option HopperSvm :=
  match svm.accountStore.get address with
  | none => none
  | some account =>
      if account.data.length < start + 8 then
        none
      else
        some
          (svm.putAccount address
            { account with
              data :=
                copyInto account.data start (leBytes 8 word.toNat) })

/-- `HopperSvm::set_token_balance`. -/
def setTokenBalance (address : Pubkey) (amount : UInt64) :
    Option HopperSvm :=
  svm.forceWord 64 address amount

/-- `HopperSvm::set_mint_supply`. -/
def setMintSupply (address : Pubkey) (supply : UInt64) :
    Option HopperSvm :=
  svm.forceWord 36 address supply

end Verbs

variable {svm svm' : HopperSvm} {address : Pubkey} {word : UInt64}
  {start : ℕ}

/-- What forcing a word does to the overlay. -/
theorem forceWord_eq_some :
    svm.forceWord start address word = some svm' ↔
      ∃ account, svm.getAccount address = some account ∧
        start + 8 ≤ account.data.length ∧
        svm' =
          svm.putAccount address
            { account with
              data :=
                copyInto account.data start (leBytes 8 word.toNat) } := by
  unfold forceWord getAccount
  cases svm.accountStore.get address with
  | none =>
      simp
  | some account =>
      by_cases short : account.data.length < start + 8
      · simp only [if_pos short, reduceCtorEq, Option.some.injEq,
          existsAndEq, false_iff]
        omega
      · simp only [if_neg short, Option.some.injEq, existsAndEq, true_and]
        constructor
        · intro same
          exact ⟨by omega, same.symm⟩
        · intro same
          exact same.2.symm

end HopperSvm

/-! ## Records under a forced word -/

/-- Eight bytes of a key replaced. -/
def Pubkey.overwrite (key : Pubkey) (start : ℕ) (word : UInt64)
    (fits : start + 8 ≤ 32) : Pubkey where
  bytes := copyInto key.bytes start (leBytes 8 word.toNat)
  length_eq := by
    have inside : start + (leBytes 8 word.toNat).length ≤
        key.bytes.length := by
      rw [length_leBytes, key.length_eq]
      exact fits
    rw [length_copyInto inside, key.length_eq]

namespace Layout

theorem word64_patch (value : UInt64) :
    Bytes.Layout.Patch .word64 0 (leBytes 8 value.toNat)
      fun _ => value :=
  .whole (fun _ _ => rfl) value

theorem key_patch (start : ℕ) (word : UInt64) (fits : start + 8 ≤ 32) :
    Bytes.Layout.Patch key start (leBytes 8 word.toNat)
      fun old => old.overwrite start word fits where
  fits := by
    rw [length_leBytes]
    exact fits
  read_copyInto data sized := by
    have sized : data.length = 32 := sized
    have copied :
        copyInto data start (leBytes 8 word.toNat) =
          (Pubkey.overwrite ⟨data, sized⟩ start word fits).bytes :=
      rfl
    have before :
        Pubkey.newFromArray data = some ⟨data, sized⟩ :=
      Pubkey.newFromArray_eq_some.mpr rfl
    have after :=
      Pubkey.newFromArray_eq_some.mpr copied
    change
      Pubkey.newFromArray (copyInto data start _) =
        (Pubkey.newFromArray data).map _
    rw [before, after]
    rfl

/-- The amount of a token account. -/
theorem tokenAccount_patch_amount (amount : UInt64) :
    Bytes.Layout.Patch tokenAccount 64 (leBytes 8 amount.toNat)
      fun token => { token with amount } := by
  refine
    .imap (.pair_snd (.pair_snd (.pair_fst (word64_patch amount)) rfl) rfl)
      ?_
  intro token
  rfl

/-- Part of the owner of a token account. -/
theorem tokenAccount_patch_owner (word : UInt64) :
    Bytes.Layout.Patch tokenAccount 36 (leBytes 8 word.toNat)
      fun token =>
        { token with
          owner := token.owner.overwrite 4 word (by decide) } := by
  refine .imap (.pair_snd (.pair_fst (key_patch 4 word ?_)) rfl) ?_
  · decide
  · intro token
    rfl

/-- The supply of a mint. -/
theorem mint_patch_supply (supply : UInt64) :
    Bytes.Layout.Patch mint 36 (leBytes 8 supply.toNat)
      fun record => { record with supply } := by
  refine .imap (.pair_snd (.pair_fst (word64_patch supply)) rfl) ?_
  intro record
  rfl

/-- Part of the freeze authority of a mint. -/
theorem mint_patch_freezeAuthority (word : UInt64) :
    Bytes.Layout.Patch mint 64 (leBytes 8 word.toNat)
      fun record =>
        { record with
          freezeAuthority :=
            record.freezeAuthority.map fun key =>
              key.overwrite 14 word (by decide) } := by
  have authority := (key_patch 14 word (by decide)).optional rfl
  refine
    .imap
      (.pair_snd (.pair_snd (.pair_snd (.pair_snd authority rfl) rfl) rfl)
        rfl)
      ?_
  intro record
  rfl

end Layout

/-- A patched record unpacks exactly when it did before. -/
theorem Pack.unpack_patch {α : Type} {layout : Layout α}
    (isInitialized : α → Bool) {start : ℕ} {bytes data : List UInt8}
    {update : α → α} (patch : layout.Patch start bytes update)
    (same : ∀ record, isInitialized (update record) = isInitialized record)
    (fits : start + bytes.length ≤ data.length) :
    ((Pack.ofLayout layout isInitialized).unpack
        (copyInto data start bytes)).toOption =
      ((Pack.ofLayout layout isInitialized).unpack data).toOption.map
        update := by
  simp only [Pack.ofLayout, length_copyInto fits]
  by_cases sized : data.length = layout.width
  · rw [if_pos sized, if_pos sized, patch.read_copyInto data sized]
    cases read : layout.read data with
    | none =>
        rfl
    | some record =>
        simp only [Option.map_some, same record]
        by_cases initialized : isInitialized record = true
        · rw [if_pos initialized, if_pos initialized]
          rfl
        · rw [if_neg initialized, if_neg initialized]
          rfl
  · rw [if_neg sized, if_neg sized]
    rfl

/-- The mint an account holds. -/
def mintOf (codec : TokenCodec) (programId : Pubkey)
    (account : KeyedAccount) : Option Mint :=
  if account.owner = programId then
    (codec.mint.unpack account.data).toOption
  else
    none

/-- The codec reads records by their documented layouts. -/
structure TokenCodec.ReadsByLayout (codec : TokenCodec) : Prop where
  mint : codec.mint.unpack = splCodec.mint.unpack
  account : codec.account.unpack = splCodec.account.unpack

/-- The account with the word over its data. -/
def KeyedAccount.forced (account : KeyedAccount) (start : ℕ)
    (word : UInt64) : KeyedAccount :=
  { account with
    data := copyInto account.data start (leBytes 8 word.toNat) }

section Records

variable {codec : TokenCodec} {programId : Pubkey}
  {account : KeyedAccount} {start : ℕ} {word : UInt64}

theorem tokenOf_forced (reads : codec.ReadsByLayout)
    {update : TokenAccount → TokenAccount}
    (patch :
      Layout.tokenAccount.Patch start (leBytes 8 word.toNat) update)
    (same : ∀ token, (update token).state = token.state)
    (fits : start + 8 ≤ account.data.length) :
    tokenOf codec programId (account.forced start word) =
      (tokenOf codec programId account).map update := by
  rw [← length_leBytes 8 word.toNat] at fits
  have read :=
    Pack.unpack_patch (fun record => record.state ≠ .uninitialized) patch
      (fun token => by rw [same]) fits
  by_cases owned : account.owner = programId
  · have owned' : (account.forced start word).owner = programId := owned
    rw [tokenOf, tokenOf, if_pos owned, if_pos owned', reads.account]
    exact read
  · have foreign : (account.forced start word).owner ≠ programId := owned
    rw [tokenOf, tokenOf, if_neg owned, if_neg foreign]
    rfl

theorem mintOf_forced (reads : codec.ReadsByLayout)
    {update : Mint → Mint}
    (patch : Layout.mint.Patch start (leBytes 8 word.toNat) update)
    (same : ∀ record,
      (update record).isInitialized = record.isInitialized)
    (fits : start + 8 ≤ account.data.length) :
    mintOf codec programId (account.forced start word) =
      (mintOf codec programId account).map update := by
  rw [← length_leBytes 8 word.toNat] at fits
  have read := Pack.unpack_patch Mint.isInitialized patch same fits
  by_cases owned : account.owner = programId
  · have owned' : (account.forced start word).owner = programId := owned
    rw [mintOf, mintOf, if_pos owned, if_pos owned', reads.mint]
    exact read
  · have foreign : (account.forced start word).owner ≠ programId := owned
    rw [mintOf, mintOf, if_neg owned, if_neg foreign]
    rfl

end Records

namespace HopperSvm

/-- The overlays agree but for the data of the account at the address. -/
structure Rewrote (svm svm' : HopperSvm) (address : Pubkey)
    (before after : KeyedAccount) : Prop where
  found : svm.getAccount address = some before
  left : svm'.getAccount address = some after
  same : after = { before with data := after.data }
  length : after.data.length = before.data.length
  frame : ∀ other, other ≠ address →
    svm'.getAccount other = svm.getAccount other

variable {svm svm' : HopperSvm} {address : Pubkey} {word : UInt64}
  {start : ℕ}

theorem forceWord_rewrote
    (ran : svm.forceWord start address word = some svm') :
    ∃ account, start + 8 ≤ account.data.length ∧
      Rewrote svm svm' address account (account.forced start word) := by
  obtain ⟨account, found, fits, rfl⟩ := forceWord_eq_some.mp ran
  refine ⟨account, fits, found, if_pos rfl, rfl, ?_, ?_⟩
  · rw [← length_leBytes 8 word.toNat] at fits
    exact length_copyInto fits
  · intro other different
    exact if_neg different.symm

theorem forceWord_eq_none :
    svm.forceWord start address word = none ↔
      ∀ account, svm.getAccount address = some account →
        account.data.length < start + 8 := by
  constructor
  · intro panics account found
    by_contra long
    have ran :
        svm.forceWord start address word =
          some (svm.putAccount address (account.forced start word)) :=
      forceWord_eq_some.mpr ⟨account, found, Nat.not_lt.mp long, rfl⟩
    rw [panics] at ran
    cases ran
  · intro short
    by_contra returns
    obtain ⟨svm', ran⟩ := Option.ne_none_iff_exists'.mp returns
    obtain ⟨account, found, fits, _⟩ := forceWord_eq_some.mp ran
    have shorter := short account found
    omega

/-- Forcing a balance panics exactly when the account is missing or has
fewer than 72 bytes, and gives a token account the amount and a mint eight
other bytes in its freeze authority, if it has one. -/
theorem setTokenBalance_records {amount : UInt64} :
    (svm.setTokenBalance address amount = none ↔
        ∀ account, svm.getAccount address = some account →
          account.data.length < 72) ∧
      ∀ svm', svm.setTokenBalance address amount = some svm' →
        ∃ before after, Rewrote svm svm' address before after ∧
          ∀ codec : TokenCodec, codec.ReadsByLayout → ∀ programId,
            tokenOf codec programId after =
                (tokenOf codec programId before).map
                  (fun token => { token with amount }) ∧
              mintOf codec programId after =
                (mintOf codec programId before).map fun record =>
                  { record with
                    freezeAuthority :=
                      record.freezeAuthority.map fun key =>
                        key.overwrite 14 amount (by decide) } := by
  refine ⟨forceWord_eq_none, ?_⟩
  intro svm' ran
  obtain ⟨account, fits, rewrote⟩ := forceWord_rewrote ran
  refine ⟨account, _, rewrote, fun codec reads programId => ⟨?_, ?_⟩⟩
  · exact
      tokenOf_forced reads (Layout.tokenAccount_patch_amount amount)
        (fun _ => rfl) fits
  · exact
      mintOf_forced reads (Layout.mint_patch_freezeAuthority amount)
        (fun _ => rfl) fits

/-- Forcing a supply panics exactly when the account is missing or has
fewer than 44 bytes, and gives a mint the supply and a token account eight
other bytes in its owner. -/
theorem setMintSupply_records {supply : UInt64} :
    (svm.setMintSupply address supply = none ↔
        ∀ account, svm.getAccount address = some account →
          account.data.length < 44) ∧
      ∀ svm', svm.setMintSupply address supply = some svm' →
        ∃ before after, Rewrote svm svm' address before after ∧
          ∀ codec : TokenCodec, codec.ReadsByLayout → ∀ programId,
            mintOf codec programId after =
                (mintOf codec programId before).map
                  (fun record => { record with supply }) ∧
              tokenOf codec programId after =
                (tokenOf codec programId before).map fun token =>
                  { token with
                    owner :=
                      token.owner.overwrite 4 supply (by decide) } := by
  refine ⟨forceWord_eq_none, ?_⟩
  intro svm' ran
  obtain ⟨account, fits, rewrote⟩ := forceWord_rewrote ran
  refine ⟨account, _, rewrote, fun codec reads programId => ⟨?_, ?_⟩⟩
  · exact
      mintOf_forced reads (Layout.mint_patch_supply supply)
        (fun _ => rfl) fits
  · exact
      tokenOf_forced reads (Layout.tokenAccount_patch_owner supply)
        (fun _ => rfl) fits

end HopperSvm

end Hopper
