import HopperSvm.AtaProgram
import HopperSvm.Refusal
import HopperSvm.Validation

namespace Hopper

namespace AtaProgram

open Routine

/-- The six accounts of a request. -/
structure Slots (accounts : List KeyedAccount) where
  funding : KeyedAccount
  ata : KeyedAccount
  wallet : KeyedAccount
  mint : KeyedAccount
  system : KeyedAccount
  tokenProgram : KeyedAccount
  atFunding : accounts[0]? = some funding
  atAta : accounts[1]? = some ata
  atWallet : accounts[2]? = some wallet
  atMint : accounts[3]? = some mint
  atSystem : accounts[4]? = some system
  atTokenProgram : accounts[5]? = some tokenProgram

/-- The checks before the account in slot 1 is looked at. -/
structure Checked (findProgramAddress : FindProgramAddress)
    (context : InvokeContext) {accounts : List KeyedAccount}
    (slots : Slots accounts) : Prop where
  signer : IsSigner context slots.funding.address
  fundingWritable : IsWritable context slots.funding.address
  ataWritable : IsWritable context slots.ata.address
  system : slots.system.address = systemProgramId
  supported :
    slots.tokenProgram.address = splTokenId ∨
      slots.tokenProgram.address = splToken2022Id
  derived :
    slots.ata.address =
      associatedTokenAddress findProgramAddress slots.wallet.address
        slots.mint.address slots.tokenProgram.address
  minted : slots.mint.owner = slots.tokenProgram.address

/-- The record of a new account. -/
def openedToken (mint wallet : Pubkey) : TokenAccount :=
  { mint
    owner := wallet
    amount := 0
    delegate := none
    state := .initialized
    isNative := none
    delegatedAmount := 0
    closeAuthority := none }

section Handlers

variable {codec : TokenCodec} {findProgramAddress : FindProgramAddress}
  {context : InvokeContext} {state final : InvokeState}
  {data : List UInt8}

@[simp]
theorem acceptExisting_yields {idempotent : Bool} {ata : KeyedAccount}
    {wallet mint tokenProgram : Pubkey} {result : Unit} :
    (acceptExisting codec idempotent ata wallet mint tokenProgram).Yields
        context state result final ↔
      idempotent = true ∧ ata.owner = tokenProgram ∧
        (∀ token, codec.account.unpack ata.data = .ok token →
          token.mint = mint ∧ token.owner = wallet) ∧
        { state with
          logs :=
            state.logs.programLog
              s!"spl-ata::CreateIdempotent: {ata.address} already exists, no-op" } =
          final := by
  simp only [acceptExisting]
  cases unpacked : codec.account.unpack ata.data with
  | error err =>
      simp [yields_bind]
  | ok token =>
      simp [yields_bind]

/-- The funding account after a creation. -/
def debited (funding : KeyedAccount) : KeyedAccount :=
  { funding with lamports := funding.lamports - ataDefaultLamports }

/-- The new account, with its record packed. -/
def opened (ata : KeyedAccount) (packed : List UInt8)
    (tokenProgram : Pubkey) : KeyedAccount :=
  { ata with
    lamports := ataDefaultLamports
    data := packed
    owner := tokenProgram
    executable := false }

/-- The record of a new account packs, and reads back. -/
theorem exists_packed (codec : TokenCodec) (mint wallet : Pubkey) :
    ∃ packed,
      codec.account.pack (openedToken mint wallet)
          (List.replicate tokenAccountLen 0) = .ok packed ∧
        codec.account.unpack packed = .ok (openedToken mint wallet) := by
  apply codec.account.pack_unpack
  · rw [codec.account_isInitialized]
    rfl
  · exact List.length_replicate

section Create

variable {funding ata : KeyedAccount} {wallet mint tokenProgram : Pubkey}

/-- A creation writes slots 0 and 1, and the record in slot 1 reads back. -/
theorem accounts_of_create (atFunding : state.accounts[0]? = some funding)
    (atAta : state.accounts[1]? = some ata)
    (yields :
      (create codec funding ata wallet mint tokenProgram).Yields context
        state () final) :
    ∃ packed,
      codec.account.unpack packed = .ok (openedToken mint wallet) ∧
        final.accounts =
          (state.accounts.set 0 (debited funding)).set 1
            (opened ata packed tokenProgram) := by
  obtain ⟨packed, packs, unpacks⟩ := exists_packed codec mint wallet
  simp only [openedToken] at packs
  simp only [create, yields_bind, requireFunds_yields, expect_yields,
    packs, Except.toOption, Option.some.injEq, writeSlot_yields,
    log_yields, ↓existsAndEq, and_true, true_and, exists_const] at yields
  rcases yields with ⟨_, payer, atPayer, blank, atBlank, rfl⟩
  cases atFunding.symm.trans atPayer
  rw [List.getElem?_set_ne (by decide)] at atBlank
  cases atAta.symm.trans atBlank
  exact ⟨packed, unpacks, rfl⟩

/-- A funded creation goes through. -/
theorem create_accepts (atFunding : state.accounts[0]? = some funding)
    (atAta : state.accounts[1]? = some ata)
    (funded : ¬ funding.lamports < ataDefaultLamports) :
    ∃ final,
      (create codec funding ata wallet mint tokenProgram).Yields context
        state () final := by
  obtain ⟨packed, packs, _⟩ := exists_packed codec mint wallet
  simp only [openedToken] at packs
  have behind : (state.accounts.set 0 (debited funding))[1]? = some ata := by
    rw [List.getElem?_set_ne (by decide)]
    exact atAta
  simp only [create, yields_bind, requireFunds_yields, expect_yields,
    packs, Except.toOption, Option.some.injEq, writeSlot_yields,
    log_yields, ↓existsAndEq, and_true, true_and, exists_const]
  exact ⟨funding, ata, funded, atFunding, behind⟩

end Create

instance (data : List UInt8) : ReadOnly (readTag data) := by
  simp only [readTag]
  split
  · infer_instance
  · split
    · infer_instance
    · split
      · infer_instance
      · infer_instance

/-- `already_exists` is the opposite of being fresh. -/
theorem if_exists_eq (ata : KeyedAccount) (existing new : Routine Unit) :
    (if ata.lamports ≠ 0 ∨ ata.data ≠ [] ∨ ata.owner ≠ systemProgramId then
        existing
      else new) =
      if Fresh ata then new else existing := by
  by_cases fresh : Fresh ata
  · rw [if_pos fresh, if_neg]
    rcases fresh with ⟨empty, blank, owned⟩
    simp [empty, blank, owned]
  · rw [if_neg fresh, if_pos]
    simp only [Fresh] at fresh
    rw [not_and_or, not_and_or] at fresh
    exact fresh

/-- An accepted request passed the checks, and created the account unless
it was there. -/
theorem invoke_yields :
    (invoke codec findProgramAddress data).Yields context state () final ↔
      ∃ idempotent, (readTag data).Yields context state idempotent state ∧
        ∃ slots : Slots state.accounts,
          Checked findProgramAddress context slots ∧
            (if Fresh slots.ata then
                create codec slots.funding slots.ata slots.wallet.address
                  slots.mint.address slots.tokenProgram.address
              else
                acceptExisting codec idempotent slots.ata
                  slots.wallet.address slots.mint.address
                  slots.tokenProgram.address).Yields context state ()
              final := by
  rw [invoke, yields_bind]
  constructor
  · intro yields
    rcases yields with ⟨idempotent, middle, tag, rest⟩
    cases ReadOnly.eq_of_yields tag
    simp only [yields_bind, rejectBuiltin_yields, requireSlots_yields,
      slot_yields, requireWritable_yields, requireSigner_yields,
      if_exists_eq, ne_eq, not_not, not_and_or, ↓existsAndEq, and_true,
      exists_const] at rest
    rcases rest with
      ⟨_, funding, atFunding, ata, atAta, wallet, atWallet, mint, atMint,
       system, atSystem, tokenProgram, atTokenProgram, signer,
       fundingWritable, ataWritable, isSystem, supported, derived, minted,
       ended⟩
    exact
      ⟨idempotent, tag,
        ⟨funding, ata, wallet, mint, system, tokenProgram, atFunding,
          atAta, atWallet, atMint, atSystem, atTokenProgram⟩,
        ⟨signer, fundingWritable, ataWritable, isSystem, supported,
          derived, minted⟩,
        ended⟩
  · intro passed
    rcases passed with ⟨idempotent, tag, slots, checked, ended⟩
    refine ⟨idempotent, state, tag, ?_⟩
    have enough : 6 ≤ state.accounts.length :=
      (List.getElem?_eq_some_iff.mp slots.atTokenProgram).1
    simp only [yields_bind, rejectBuiltin_yields, requireSlots_yields,
      slot_yields, requireWritable_yields, requireSigner_yields,
      if_exists_eq, ne_eq, not_not, not_and_or, ↓existsAndEq, and_true,
      exists_const]
    exact
      ⟨enough, slots.funding, slots.atFunding, slots.ata, slots.atAta,
        slots.wallet, slots.atWallet, slots.mint, slots.atMint,
        slots.system, slots.atSystem, slots.tokenProgram,
        slots.atTokenProgram, checked.signer, checked.fundingWritable,
        checked.ataWritable, checked.system, checked.supported,
        checked.derived, checked.minted, ended⟩

end Handlers

end AtaProgram

end Hopper
