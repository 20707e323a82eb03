import HopperSvm.AtaEffects
import HopperSvm.TokenSupply

/-!
A created account is usable, and a second request finds what the first one
left.  An account that was there is taken as it is where its data holds no
record.
-/

namespace Hopper

namespace AtaProgram

open Routine

/-- A list has its six slots in one way. -/
theorem Slots.unique {accounts : List KeyedAccount}
    (left right : Slots accounts) : left = right := by
  rcases left with
    ⟨funding, ata, wallet, mint, system, tokenProgram, atFunding, atAta,
     atWallet, atMint, atSystem, atTokenProgram⟩
  rcases right with
    ⟨funding', ata', wallet', mint', system', tokenProgram', atFunding',
     atAta', atWallet', atMint', atSystem', atTokenProgram'⟩
  cases atFunding.symm.trans atFunding'
  cases atAta.symm.trans atAta'
  cases atWallet.symm.trans atWallet'
  cases atMint.symm.trans atMint'
  cases atSystem.symm.trans atSystem'
  cases atTokenProgram.symm.trans atTokenProgram'
  rfl

/-- The slots after a creation. -/
def Slots.afterCreate {accounts : List KeyedAccount}
    (slots : Slots accounts) (packed : List UInt8) :
    Slots
      ((accounts.set 0 (debited slots.funding)).set 1
        (opened slots.ata packed slots.tokenProgram.address)) :=
  { slots with
    funding := debited slots.funding
    ata := opened slots.ata packed slots.tokenProgram.address
    atFunding := by
      rw [List.getElem?_set_ne (by decide), List.getElem?_set_self',
        slots.atFunding]
      rfl
    atAta := by
      rw [List.getElem?_set_self', List.getElem?_set_ne (by decide),
        slots.atAta]
      rfl
    atWallet := by
      rw [List.getElem?_set_ne (by decide),
        List.getElem?_set_ne (by decide), slots.atWallet]
    atMint := by
      rw [List.getElem?_set_ne (by decide),
        List.getElem?_set_ne (by decide), slots.atMint]
    atSystem := by
      rw [List.getElem?_set_ne (by decide),
        List.getElem?_set_ne (by decide), slots.atSystem]
    atTokenProgram := by
      rw [List.getElem?_set_ne (by decide),
        List.getElem?_set_ne (by decide), slots.atTokenProgram] }

/-- The account in slot 1 belongs to the token program and holds a record
for the mint and the wallet, in one of these states. -/
structure Usable (codec : TokenCodec) (states : List AccountState)
    {accounts : List KeyedAccount} (slots : Slots accounts) : Prop where
  owned : slots.ata.owner = slots.tokenProgram.address
  unpacks : ∃ token, codec.account.unpack slots.ata.data = .ok token ∧
    token.mint = slots.mint.address ∧ token.owner = slots.wallet.address ∧
      token.state ∈ states

section Guarantees

variable {codec : TokenCodec} {findProgramAddress : FindProgramAddress}
  {context : InvokeContext} {state final : InvokeState}
  {data : List UInt8} {states : List AccountState}

/-- What an accepted request did: it created the account, or found one that
the checks let through. -/
theorem created_or_found
    (yields :
      (invoke codec findProgramAddress data).Yields context state ()
        final) :
    ∃ slots : Slots state.accounts,
      Checked findProgramAddress context slots ∧
        ((Fresh slots.ata ∧ ∃ packed,
            codec.account.unpack packed =
                .ok (openedToken slots.mint.address slots.wallet.address) ∧
              final.accounts =
                (state.accounts.set 0 (debited slots.funding)).set 1
                  (opened slots.ata packed slots.tokenProgram.address)) ∨
          (¬ Fresh slots.ata ∧
            slots.ata.owner = slots.tokenProgram.address ∧
            (∀ token, codec.account.unpack slots.ata.data = .ok token →
              token.mint = slots.mint.address ∧
                token.owner = slots.wallet.address) ∧
            final.accounts = state.accounts)) := by
  obtain ⟨idempotent, _, slots, checked, ended⟩ := invoke_yields.mp yields
  refine ⟨slots, checked, ?_⟩
  by_cases fresh : Fresh slots.ata
  · left
    rw [if_pos fresh] at ended
    exact ⟨fresh, accounts_of_create slots.atFunding slots.atAta ended⟩
  · right
    rw [if_neg fresh, acceptExisting_yields] at ended
    rcases ended with ⟨_, owned, matches', rfl⟩
    exact ⟨fresh, owned, matches', rfl⟩

theorem usable_of_opened {accounts : List KeyedAccount}
    {slots : Slots accounts} {packed : List UInt8}
    (member : .initialized ∈ states)
    (unpacks : codec.account.unpack packed =
      .ok (openedToken slots.mint.address slots.wallet.address)) :
    Usable codec states (slots.afterCreate packed) where
  owned := rfl
  unpacks := ⟨_, unpacks, rfl, rfl, member⟩

/-- An accepted request leaves a usable account in just the cases in which
slot 1 was fresh or held a record in a usable state. -/
theorem invoke_usable_iff (member : .initialized ∈ states)
    (yields :
      (invoke codec findProgramAddress data).Yields context state ()
        final) :
    (∃ slots : Slots final.accounts, Usable codec states slots) ↔
      ∃ slots : Slots state.accounts, Fresh slots.ata ∨
        ∃ token, codec.account.unpack slots.ata.data = .ok token ∧
          token.state ∈ states := by
  obtain ⟨slots, _, created | found⟩ := created_or_found yields
  · rcases created with ⟨fresh, packed, unpacks, left⟩
    rw [left]
    apply iff_of_true
    · exact ⟨slots.afterCreate packed, usable_of_opened member unpacks⟩
    · exact ⟨slots, Or.inl fresh⟩
  · rcases found with ⟨notFresh, owned, right, left⟩
    rw [left]
    constructor
    · intro usable
      rcases usable with ⟨slots', _, token, unpacks, _, _, usable⟩
      exact ⟨slots', Or.inr ⟨token, unpacks, usable⟩⟩
    · intro before
      rcases before with ⟨slots', fresh | ⟨token, unpacks, usable⟩⟩
      · cases slots.unique slots'
        exact absurd fresh notFresh
      · cases slots.unique slots'
        obtain ⟨sameMint, sameWallet⟩ := right token unpacks
        exact ⟨slots, owned, token, unpacks, sameMint, sameWallet, usable⟩

/-- A request that may find the account passes when it is there. -/
theorem found_again {accounts : List KeyedAccount}
    {slots : Slots accounts}
    (checked : Checked findProgramAddress context slots)
    (present : ¬ Fresh slots.ata)
    (owned : slots.ata.owner = slots.tokenProgram.address)
    (right : ∀ token, codec.account.unpack slots.ata.data = .ok token →
      token.mint = slots.mint.address ∧ token.owner = slots.wallet.address)
    {again : InvokeState} (handed : again.accounts = accounts)
    (body : List UInt8) :
    ∃ final, (invoke codec findProgramAddress (1 :: body)).Yields context
        again () final ∧
      final.accounts = again.accounts := by
  subst handed
  have accepts : ∃ final,
      (acceptExisting codec true slots.ata slots.wallet.address
          slots.mint.address slots.tokenProgram.address).Yields context
        again () final ∧
        final.accounts = again.accounts := by
    simp only [acceptExisting_yields, true_and]
    exact ⟨_, ⟨owned, right, rfl⟩, rfl⟩
  rcases accepts with ⟨final, ended, same⟩
  refine ⟨final, invoke_yields.mpr ⟨true, rfl, slots, checked, ?_⟩, same⟩
  rw [if_neg present]
  exact ended

/-- The checks look at nothing that a creation changes. -/
theorem Checked.afterCreate {accounts : List KeyedAccount}
    {slots : Slots accounts}
    (checked : Checked findProgramAddress context slots)
    (packed : List UInt8) :
    Checked findProgramAddress context (slots.afterCreate packed) where
  signer := checked.signer
  fundingWritable := checked.fundingWritable
  ataWritable := checked.ataWritable
  system := checked.system
  supported := checked.supported
  derived := checked.derived
  minted := checked.minted

/-- What an accepted request left, CreateIdempotent accepts and leaves
alone. -/
theorem createIdempotent_after_invoke
    (yields :
      (invoke codec findProgramAddress data).Yields context state ()
        final)
    (again : InvokeState) (handed : again.accounts = final.accounts)
    (body : List UInt8) :
    ∃ final', (invoke codec findProgramAddress (1 :: body)).Yields context
        again () final' ∧
      final'.accounts = again.accounts := by
  obtain ⟨slots, checked, created | found⟩ := created_or_found yields
  · rcases created with ⟨_, packed, unpacks, left⟩
    rw [left] at handed
    have funded : ataDefaultLamports ≠ 0 := by decide
    have present : ¬ Fresh (slots.afterCreate packed).ata := by
      intro fresh
      exact funded fresh.1
    have right : ∀ token,
        codec.account.unpack (slots.afterCreate packed).ata.data =
            .ok token →
          token.mint = slots.mint.address ∧
            token.owner = slots.wallet.address := by
      intro token unpacked
      cases unpacks.symm.trans unpacked
      exact ⟨rfl, rfl⟩
    exact
      found_again (checked.afterCreate packed) present rfl right handed
        body
  · rcases found with ⟨notFresh, owned, right, left⟩
    rw [left] at handed
    exact found_again checked notFresh owned right handed body

end Guarantees

/-- Every address derives to `2..2`. -/
def derivesTwo : FindProgramAddress :=
  fun _ _ => (.filled 2, 255)

def ataPayer : KeyedAccount :=
  .new (.filled 5) 3000000 systemProgramId [] false

def blankAta : KeyedAccount :=
  .new (.filled 2) 0 systemProgramId [] false

/-- The payer, the account, the wallet, the mint and the two programs. -/
def requestAccounts (ata : KeyedAccount) : List KeyedAccount :=
  [ataPayer, ata, tokenWallet, tenMintAccount,
    .new systemProgramId 1 systemProgramId [] true,
    .new splTokenId 1 systemProgramId [] true]

def requestMetas : List AccountMeta :=
  [⟨.filled 5, true, true⟩, ⟨.filled 2, false, true⟩,
    ⟨.filled 3, false, false⟩, ⟨.filled 1, false, false⟩,
    ⟨systemProgramId, false, false⟩, ⟨splTokenId, false, false⟩]

def requestContext : InvokeContext :=
  { programId := ataProgramId
    accountMetas := requestMetas
    sysvars := .default }

def requestState (ata : KeyedAccount) : InvokeState :=
  { accounts := requestAccounts ata
    logs := .empty
    budget := .default
    cells := ⟨none, 0⟩ }

def requestSlots (ata : KeyedAccount) : Slots (requestAccounts ata) :=
  ⟨ataPayer, ata, tokenWallet, tenMintAccount, _, _, rfl,
    rfl, rfl, rfl, rfl, rfl⟩

theorem ataPayer_signer :
    IsSigner requestContext ataPayer.address := by
  decide +kernel

theorem ataPayer_writable :
    IsWritable requestContext ataPayer.address := by
  decide +kernel

theorem requestSlots_checked {ata : KeyedAccount}
    (address : ata.address = .filled 2) :
    Checked derivesTwo requestContext (requestSlots ata) where
  signer := ataPayer_signer
  fundingWritable := ataPayer_writable
  ataWritable := by
    have writable : IsWritable requestContext (.filled 2) := by
      decide +kernel
    rw [← address] at writable
    exact writable
  system := rfl
  supported := Or.inl rfl
  derived := address
  minted := rfl

/-- Create on a blank account. -/
theorem request_creates :
    ∃ final, (invoke splCodec derivesTwo [0]).Yields requestContext
      (requestState blankAta) () final := by
  have fresh : Fresh blankAta := ⟨rfl, rfl, rfl⟩
  have accepts : ∃ final,
      (create splCodec ataPayer blankAta (.filled 3) (.filled 1)
          splTokenId).Yields requestContext (requestState blankAta) ()
        final :=
    create_accepts rfl rfl (by decide)
  rcases accepts with ⟨final, ended⟩
  refine
    ⟨final,
      invoke_yields.mpr
        ⟨false, rfl, requestSlots blankAta, requestSlots_checked rfl, ?_⟩⟩
  rw [requestSlots, if_pos fresh]
  exact ended

theorem invoke_usable_iff_blank :
    ∃ final, (invoke splCodec derivesTwo [0]).Yields requestContext
        (requestState blankAta) () final ∧
      ((∃ slots : Slots final.accounts,
          Usable splCodec [.initialized] slots) ↔
        ∃ slots : Slots (requestAccounts blankAta), Fresh slots.ata ∨
          ∃ token, splCodec.account.unpack slots.ata.data = .ok token ∧
            token.state ∈ [AccountState.initialized]) := by
  obtain ⟨final, yields⟩ := request_creates
  exact ⟨final, yields, invoke_usable_iff (by decide) yields⟩

/-- One byte, in an account of the token program. -/
def malformedAta : KeyedAccount :=
  .new (.filled 2) 2039280 splTokenId [1] false

theorem unpack_malformedAta (token : TokenAccount) :
    splCodec.account.unpack malformedAta.data ≠ .ok token := by
  intro unpacked
  have sized := splCodec.account.length_of_unpack unpacked
  exact absurd sized (by decide)

/-- CreateIdempotent accepts a malformed account and leaves it. -/
theorem malformed_account_accepted :
    ∃ final, (invoke splCodec derivesTwo [1]).Yields requestContext
        (requestState malformedAta) () final ∧
      ¬ ∃ slots : Slots final.accounts,
        Usable splCodec [.initialized, .frozen] slots := by
  have present : ¬ Fresh malformedAta := by
    decide +kernel
  have right : ∀ token,
      splCodec.account.unpack malformedAta.data = .ok token →
        token.mint = .filled 1 ∧ token.owner = .filled 3 := by
    intro token unpacked
    exact absurd unpacked (unpack_malformedAta token)
  have handed : (requestState malformedAta).accounts =
      requestAccounts malformedAta := rfl
  obtain ⟨final, yields, same⟩ :=
    found_again (requestSlots_checked rfl) present rfl right handed []
  refine ⟨final, yields, ?_⟩
  rw [same]
  intro usable
  rcases usable with ⟨slots, _, token, unpacks, _⟩
  cases slots.unique (requestSlots malformedAta)
  exact unpack_malformedAta token unpacks

/-- Create, then CreateIdempotent. -/
theorem createIdempotent_after_invoke_blank :
    ∃ final, (invoke splCodec derivesTwo [0]).Yields requestContext
        (requestState blankAta) () final ∧
      ∃ final', (invoke splCodec derivesTwo [1]).Yields requestContext
          final () final' ∧
        final'.accounts = final.accounts := by
  obtain ⟨final, yields⟩ := request_creates
  exact ⟨final, yields, createIdempotent_after_invoke yields final rfl []⟩

end AtaProgram

end Hopper
