import HopperSvm.AtaGuarantees
import HopperSvm.Fixtures

/-!
The factories pack a record into an account of a token program, and what
they make reads back as the record they were given, with an unset state
taken for an initialized one.  The associated account they make is the one
the associated-token-account program makes, lamports apart, so the program
finds it where a test has filed it.
-/

namespace Hopper

/-- `DEFAULT_TEST_LAMPORTS`. -/
def defaultTestLamports : UInt64 := 1000000000

/-- `create_keyed_system_account`. -/
def createKeyedSystemAccount (address : Pubkey) (lamports : UInt64) :
    KeyedAccount :=
  .new address lamports systemProgramId [] false

section Factories

variable (codec : TokenCodec)

/-- `create_keyed_mint_account_with_program`; `none` when packing
panics. -/
def createKeyedMintAccountWithProgram (address : Pubkey) (mint : Mint)
    (tokenProgram : Pubkey) : Option KeyedAccount :=
  (codec.mint.pack mint (List.replicate mintLen 0)).toOption.map
    fun data =>
      .new address defaultTestLamports tokenProgram data false

/-- `create_keyed_mint_account`. -/
def createKeyedMintAccount (address : Pubkey) (mint : Mint) :
    Option KeyedAccount :=
  createKeyedMintAccountWithProgram codec address mint splTokenId

/-- An unset state taken for an initialized one. -/
def TokenAccount.setState (token : TokenAccount) : TokenAccount :=
  if token.state = .uninitialized then
    { token with state := .initialized }
  else
    token

/-- `create_keyed_token_account_with_program`. -/
def createKeyedTokenAccountWithProgram (address : Pubkey)
    (token : TokenAccount) (tokenProgram : Pubkey) :
    Option KeyedAccount :=
  (codec.account.pack token.setState
    (List.replicate tokenAccountLen 0)).toOption.map
    fun data =>
      .new address defaultTestLamports tokenProgram data false

/-- `create_keyed_token_account`. -/
def createKeyedTokenAccount (address : Pubkey) (token : TokenAccount) :
    Option KeyedAccount :=
  createKeyedTokenAccountWithProgram codec address token splTokenId

/-- `create_keyed_associated_token_account_with_program`. -/
def createKeyedAssociatedTokenAccountWithProgram
    (findProgramAddress : FindProgramAddress) (wallet mint : Pubkey)
    (amount : UInt64) (tokenProgram : Pubkey) : Option KeyedAccount :=
  createKeyedTokenAccountWithProgram codec
    (AtaProgram.associatedTokenAddress findProgramAddress wallet mint
      tokenProgram)
    { mint
      owner := wallet
      amount
      delegate := none
      state := .initialized
      isNative := none
      delegatedAmount := 0
      closeAuthority := none }
    tokenProgram

/-- `create_keyed_associated_token_account`. -/
def createKeyedAssociatedTokenAccount
    (findProgramAddress : FindProgramAddress) (wallet mint : Pubkey)
    (amount : UInt64) : Option KeyedAccount :=
  createKeyedAssociatedTokenAccountWithProgram codec findProgramAddress
    wallet mint amount splTokenId

end Factories

section Made

variable {codec : TokenCodec} {address tokenProgram : Pubkey}

theorem TokenAccount.state_setState (token : TokenAccount) :
    token.setState.state ≠ .uninitialized := by
  unfold TokenAccount.setState
  by_cases unset : token.state = .uninitialized
  · rw [if_pos unset]
    intro still
    cases still
  · rw [if_neg unset]
    exact unset

/-- An account with the defaults of the factories. -/
def factoryAccount (address tokenProgram : Pubkey) (data : List UInt8) :
    KeyedAccount :=
  .new address defaultTestLamports tokenProgram data false

/-- An initialized mint is made, and reads back. -/
theorem createKeyedMintAccountWithProgram_spec {mint : Mint}
    (initialized : mint.isInitialized = true) :
    ∃ data,
      createKeyedMintAccountWithProgram codec address mint tokenProgram =
          some (factoryAccount address tokenProgram data) ∧
        codec.mint.unpack data = .ok mint := by
  rw [← codec.mint_isInitialized] at initialized
  obtain ⟨data, packs, unpacks⟩ :=
    codec.mint.pack_unpack mint _ initialized List.length_replicate
  refine ⟨data, ?_, unpacks⟩
  rw [createKeyedMintAccountWithProgram, packs]
  rfl

/-- Every token account is made, and reads back with its state set. -/
theorem createKeyedTokenAccountWithProgram_spec (token : TokenAccount) :
    ∃ data,
      createKeyedTokenAccountWithProgram codec address token
          tokenProgram =
          some (factoryAccount address tokenProgram data) ∧
        codec.account.pack token.setState
            (List.replicate tokenAccountLen 0) = .ok data ∧
          codec.account.unpack data = .ok token.setState := by
  have initialized :
      codec.account.isInitialized token.setState = true := by
    rw [codec.account_isInitialized]
    exact decide_eq_true token.state_setState
  obtain ⟨data, packs, unpacks⟩ :=
    codec.account.pack_unpack _ _ initialized List.length_replicate
  refine ⟨data, ?_, packs, unpacks⟩
  rw [createKeyedTokenAccountWithProgram, packs]
  rfl

/-- What the factories make is a mint, or a token account, of its
program. -/
theorem factories_read_back (tokenProgram : Pubkey) :
    (∀ address mint, mint.isInitialized = true →
        ∃ account,
          createKeyedMintAccountWithProgram codec address mint
              tokenProgram = some account ∧
            account.address = address ∧
            mintOf codec tokenProgram account = some mint) ∧
      ∀ address token,
        ∃ account,
          createKeyedTokenAccountWithProgram codec address token
              tokenProgram = some account ∧
            account.address = address ∧
            tokenOf codec tokenProgram account = some token.setState := by
  constructor
  · intro address mint initialized
    obtain ⟨data, made, unpacks⟩ :=
      createKeyedMintAccountWithProgram_spec initialized
    have owned :
        (factoryAccount address tokenProgram data).owner = tokenProgram :=
      rfl
    refine ⟨_, made, rfl, ?_⟩
    rw [mintOf, if_pos owned]
    exact congrArg Except.toOption unpacks
  · intro address token
    obtain ⟨data, made, _, unpacks⟩ :=
      createKeyedTokenAccountWithProgram_spec token
    have owned :
        (factoryAccount address tokenProgram data).owner = tokenProgram :=
      rfl
    refine ⟨_, made, rfl, ?_⟩
    rw [tokenOf, if_pos owned]
    exact congrArg Except.toOption unpacks

end Made

namespace AtaProgram

open Routine

section Agreement

variable {codec : TokenCodec} {findProgramAddress : FindProgramAddress}
  {context : InvokeContext} {state final : InvokeState}
  {data : List UInt8}

/-- The associated account that the factory makes for the slots. -/
abbrev Slots.made (codec : TokenCodec)
    (findProgramAddress : FindProgramAddress)
    {accounts : List KeyedAccount} (slots : Slots accounts)
    (amount : UInt64) : Option KeyedAccount :=
  createKeyedAssociatedTokenAccountWithProgram codec findProgramAddress
    slots.wallet.address slots.mint.address amount
    slots.tokenProgram.address

/-- The factory's account with no tokens has the packed record of a new
associated account. -/
theorem Slots.made_zero {accounts : List KeyedAccount}
    (slots : Slots accounts) :
    ∃ packed,
      codec.account.pack
          (openedToken slots.mint.address slots.wallet.address)
          (List.replicate tokenAccountLen 0) = .ok packed ∧
        slots.made codec findProgramAddress 0 =
          some
            (factoryAccount
              (associatedTokenAddress findProgramAddress
                slots.wallet.address slots.mint.address
                slots.tokenProgram.address)
              slots.tokenProgram.address packed) := by
  obtain ⟨packed, made, packs, _⟩ :=
    createKeyedTokenAccountWithProgram_spec
      (openedToken slots.mint.address slots.wallet.address)
  exact ⟨packed, packs, made⟩

/-- The account the factory makes is one that CreateIdempotent lets
through. -/
theorem Slots.made_found {accounts : List KeyedAccount}
    (slots : Slots accounts) {amount : UInt64}
    (made : slots.made codec findProgramAddress amount = some slots.ata) :
    ¬ Fresh slots.ata ∧ slots.ata.owner = slots.tokenProgram.address ∧
      ∀ token, codec.account.unpack slots.ata.data = .ok token →
        token.mint = slots.mint.address ∧
          token.owner = slots.wallet.address := by
  obtain ⟨packed, made', _, unpacks⟩ :=
    createKeyedTokenAccountWithProgram_spec
      { openedToken slots.mint.address slots.wallet.address with amount }
  have same : slots.ata = factoryAccount _ _ packed :=
    Option.some.inj (made.symm.trans made')
  rw [same]
  refine ⟨?_, rfl, ?_⟩
  · intro fresh
    have empty : defaultTestLamports = 0 := fresh.1
    exact absurd empty (by decide)
  · intro token unpacked
    cases unpacks.symm.trans unpacked
    exact ⟨rfl, rfl⟩

/-- A creation leaves the factory's account with no tokens in slot 1, with
lamports of its own. -/
theorem create_leaves_made (slots : Slots state.accounts)
    (checked : Checked findProgramAddress context slots)
    (yields :
      (create codec slots.funding slots.ata slots.wallet.address
        slots.mint.address slots.tokenProgram.address).Yields context
          state () final) :
    ∃ account,
      slots.made codec findProgramAddress 0 = some account ∧
        final.accounts[1]? =
          some
            { account with
              lamports := ataDefaultLamports
              rentEpoch := slots.ata.rentEpoch } := by
  obtain ⟨packed, packs, made⟩ := slots.made_zero
  refine ⟨_, made, ?_⟩
  unfold openedToken at packs
  simp only [create, yields_bind, requireFunds_yields, expect_yields,
    packs, Except.toOption, Option.some.injEq, writeSlot_yields,
    log_yields, ↓existsAndEq, and_true, true_and, exists_const] at yields
  obtain ⟨_, payer, atPayer, blank, atBlank, rfl⟩ := yields
  rw [List.getElem?_set_ne (by decide)] at atBlank
  cases slots.atAta.symm.trans atBlank
  have bound : 1 < state.accounts.length :=
    (List.getElem?_eq_some_iff.mp slots.atAta).1
  change ((state.accounts.set 0 _).set 1 _)[1]? = _
  rw [List.getElem?_set_self (by rwa [List.length_set]),
    ← checked.derived]
  rfl

/-- Where the factory's account is filed, CreateIdempotent goes through and
changes nothing and Create is refused; where nothing is, Create makes the
factory's account. -/
theorem factory_account_agrees {slots : Slots state.accounts}
    (checked : Checked findProgramAddress context slots) :
    (∀ amount,
        slots.made codec findProgramAddress amount = some slots.ata →
          (∀ body, ∃ final,
              (invoke codec findProgramAddress (1 :: body)).Yields context
                  state () final ∧
                final.accounts = state.accounts) ∧
            ∀ final body, data = [] ∨ data = 0 :: body →
              ¬ (invoke codec findProgramAddress data).Yields context
                state () final) ∧
      (Fresh slots.ata → ∀ final,
        (invoke codec findProgramAddress data).Yields context state ()
            final →
          ∃ account,
            slots.made codec findProgramAddress 0 = some account ∧
              final.accounts[1]? =
                some
                  { account with
                    lamports := ataDefaultLamports
                    rentEpoch := slots.ata.rentEpoch }) := by
  constructor
  · intro amount made
    obtain ⟨present, owned, right⟩ := slots.made_found made
    refine ⟨found_again checked present owned right rfl, ?_⟩
    intro final body creates yields
    obtain ⟨idempotent, read, slots', _, ended⟩ := invoke_yields.mp yields
    cases slots'.unique slots
    rw [if_neg present, acceptExisting_yields] at ended
    have isIdempotent : idempotent = true := ended.1
    subst isIdempotent
    rcases creates with empty | tagged
    · rw [empty, readTag] at read
      simp at read
    · rw [tagged, readTag] at read
      simp at read
  · intro fresh final yields
    obtain ⟨idempotent, _, slots', _, ended⟩ := invoke_yields.mp yields
    cases slots'.unique slots
    rw [if_pos fresh] at ended
    exact create_leaves_made slots checked ended

end Agreement

/-- The factory's account of seven tokens, filed at the derived address. -/
theorem filed_made :
    ∃ filed : KeyedAccount, filed.address = .filled 2 ∧
      (requestSlots filed).made splCodec derivesTwo 7 = some filed := by
  obtain ⟨packed, made, _⟩ :=
    @createKeyedTokenAccountWithProgram_spec splCodec (.filled 2)
      splTokenId
      { openedToken (.filled 1) (.filled 3) with amount := 7 }
  exact ⟨_, rfl, made⟩

theorem factory_account_agrees_filed :
    (∃ filed : KeyedAccount,
        (requestSlots filed).made splCodec derivesTwo 7 = some filed ∧
          (∃ final,
            (invoke splCodec derivesTwo [1]).Yields requestContext
                (requestState filed) () final ∧
              final.accounts = requestAccounts filed) ∧
          ∀ final,
            ¬ (invoke splCodec derivesTwo [0]).Yields requestContext
              (requestState filed) () final) ∧
      ∃ final,
        (invoke splCodec derivesTwo [0]).Yields requestContext
            (requestState blankAta) () final ∧
          ∃ account,
            (requestSlots blankAta).made splCodec derivesTwo 0 =
                some account ∧
              final.accounts[1]? =
                some { account with lamports := ataDefaultLamports } := by
  constructor
  · obtain ⟨filed, address, made⟩ := filed_made
    have checked :
        Checked derivesTwo requestContext (requestSlots filed) :=
      requestSlots_checked address
    have agrees :=
      @factory_account_agrees splCodec derivesTwo requestContext
        (requestState filed) [0] _ checked
    obtain ⟨found, refused⟩ := agrees.1 7 made
    exact
      ⟨filed, made, found [], fun final => refused final [] (Or.inr rfl)⟩
  · obtain ⟨final, yields⟩ := request_creates
    have checked :
        Checked derivesTwo requestContext (requestSlots blankAta) :=
      requestSlots_checked rfl
    obtain ⟨account, made, left⟩ :=
      (factory_account_agrees checked).2 (by decide) final yields
    have noRent : account.rentEpoch = 0 := by
      obtain ⟨packed, _, made'⟩ := (requestSlots blankAta).made_zero
      cases made.symm.trans made'
      rfl
    refine ⟨final, yields, account, made, left.trans ?_⟩
    cases account
    cases noRent
    rfl

end AtaProgram

end Hopper
