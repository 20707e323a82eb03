import HopperSvm.AtaGuarantees
import HopperSvm.CreateAccount
import HopperSvm.SystemPanics
import HopperSvm.TokenGuards

/-!
Closing a token account takes its lamports and its owner but leaves a full
record of zero bytes behind.  Everything that creates an account wants its
data empty, so the address is never free again.
-/

namespace Hopper

open Bytes Routine

/-- An account that was never created. -/
def vacantAt (address : Pubkey) : KeyedAccount :=
  .new address 0 systemProgramId [] false

theorem fresh_vacantAt (address : Pubkey) : Fresh (vacantAt address) :=
  ⟨rfl, rfl, rfl⟩

/-- What a closing leaves of an account. -/
def closedForm (account : KeyedAccount) : KeyedAccount :=
  { account with
    lamports := 0
    data := List.replicate tokenAccountLen 0
    owner := systemProgramId }

theorem closedForm_data {account : KeyedAccount} :
    (closedForm account).data ≠ [] := by
  intro blank
  have sized := congrArg List.length blank
  rw [closedForm, List.length_replicate] at sized
  cases sized

theorem not_fresh_closedForm (account : KeyedAccount) :
    ¬ Fresh (closedForm account) :=
  fun fresh => closedForm_data fresh.2.1

variable {codec : TokenCodec} {context : InvokeContext}
  {state final : InvokeState}

/-- What a closing leaves in slot 0. -/
theorem SplToken.closeAccount_leaves
    (yields : (closeAccount codec).Yields context state () final) :
    ∃ account, state.accounts[0]? = some account ∧
      final.accounts[0]? = some (closedForm account) := by
  obtain ⟨account, destination, token, atAccount, _, _, _, _, left⟩ :=
    closeAccount_closes yields
  have inRange : 0 < state.accounts.length :=
    (List.getElem?_eq_some_iff.mp atAccount).1
  refine ⟨account, atAccount, ?_⟩
  rw [left, List.getElem?_set_self (by rwa [List.length_set])]
  rfl

/-- A creation of either kind refuses the account that was left behind. -/
theorem AtaProgram.not_accepts_closedForm
    {findProgramAddress : FindProgramAddress} {data : List UInt8}
    {account : KeyedAccount}
    (atAta : state.accounts[1]? = some (closedForm account)) :
    ¬ (invoke codec findProgramAddress data).Accepts context state := by
  intro accepts
  rcases accepts with ⟨_, final, yields⟩
  obtain ⟨idempotent, _, slots, checked, ran⟩ := invoke_yields.mp yields
  have left : closedForm account = slots.ata :=
    Option.some.inj (atAta.symm.trans slots.atAta)
  rw [← left, if_neg (not_fresh_closedForm account),
    acceptExisting_yields] at ran
  have owned : systemProgramId = slots.tokenProgram.address := ran.2.1
  rcases checked.supported with token | token2022
  · rw [token] at owned
    exact absurd owned (by decide)
  · rw [token2022] at owned
    exact absurd owned (by decide)

theorem SystemProgram.blank_of_createAccount_accepts {body : List UInt8}
    (accepts : (createAccount body).Accepts context state) :
    ∃ target, state.accounts[1]? = some target ∧ target.data = [] := by
  rcases accepts with ⟨_, final, yields⟩
  simp only [createAccount, ne_eq, yields_bind, rejectBuiltin_yields,
    readU64_yields, readPubkey_yields, requireSlots_yields, slot_yields,
    requireSigner_yields, requireWritable_yields, requireFunds_yields,
    not_or, Decidable.not_not, ↓existsAndEq, and_true, exists_const]
    at yields
  rcases yields with
    ⟨_, _, _, owner, _, _, funder, _, target, atTarget, _, _, _, _, _,
     ⟨_, noData⟩, _⟩
  exact ⟨target, atTarget, noData⟩

theorem SystemProgram.not_accepts_closedForm {crates : Crates}
    {data : List UInt8} {account : KeyedAccount}
    (tag : tagOf data = 0)
    (atTarget : state.accounts[1]? = some (closedForm account)) :
    ¬ (invoke crates data).Accepts context state := by
  intro accepts
  rcases accepts with ⟨_, final, yields⟩
  simp only [invoke, yields_bind, rejectBuiltin_yields, readU32_yields,
    ↓existsAndEq, and_true, exists_const] at yields
  rcases yields with ⟨_, _, ran⟩
  simp only [tagOf_eq, tag] at ran
  obtain ⟨target, atSlot, noData⟩ :=
    blank_of_createAccount_accepts ⟨(), final, ran⟩
  cases atTarget.symm.trans atSlot
  exact closedForm_data noData

/-- A state that hands these slots over. -/
def stateOf (accounts : List KeyedAccount) : InvokeState :=
  { accounts
    logs := .empty
    budget := .default
    cells := ⟨none, 0⟩ }

/-- A payer of five million lamports. -/
def payerAt (address : Pubkey) : KeyedAccount :=
  .new address 5000000 systemProgramId [] false

/-- Both the payer and the account sign and may be written. -/
def creatingContext (programId payer created : Pubkey) : InvokeContext :=
  { programId
    accountMetas := [⟨payer, true, true⟩, ⟨created, true, true⟩]
    sysvars := .default }

theorem creatingContext_flagged {programId payer created address : Pubkey}
    (named : address = payer ∨ address = created) :
    IsSigner (creatingContext programId payer created) address ∧
      IsWritable (creatingContext programId payer created) address := by
  unfold IsSigner IsWritable metaFor creatingContext
  by_cases first : payer = address
  · simp [first]
  · have second : created = address :=
      (named.resolve_left (Ne.symm first)).symm
    simp [first, second]

/-- The system program creates a fresh account. -/
theorem SystemProgram.accepts_vacantAt (crates : Crates)
    (payer address : Pubkey) :
    ∃ data, tagOf data = 0 ∧
      (invoke crates data).Accepts
        (creatingContext systemProgramId payer address)
        (stateOf [payerAt payer, vacantAt address]) := by
  let request : Creation :=
    { funder := ⟨payer, true, true⟩
      target := ⟨address, true, true⟩
      lamports := 1
      space := 0
      owner := systemProgramId }
  have payerFlagged := @creatingContext_flagged systemProgramId payer
    address payer (Or.inl rfl)
  have flagged := @creatingContext_flagged systemProgramId payer address
    address (Or.inr rfl)
  have handled : request.HandlerAccepts
      (creatingContext systemProgramId payer address) (payerAt payer)
      (vacantAt address) :=
    { funderSigns := payerFlagged.1
      targetSigns := flagged.1
      funderWritable := payerFlagged.2
      targetWritable := flagged.2
      covered := (by decide : (1 : UInt64) ≤ 5000000)
      noLamports := rfl
      noData := rfl }
  have slots : (stateOf [payerAt payer, vacantAt address]).accounts =
      [payerAt payer, vacantAt address] := rfl
  have created :=
    (request.createAccount_yields slots).mpr
      ⟨handled, (by decide : (0 : UInt64).toNat ≤ Words.isizeMax), rfl⟩
  refine
    ⟨request.instruction.data, ?_, (), _, request.invoke_yields.mpr created⟩
  have tag := request.tag_of_data
  rw [tagOf, u32At, field, List.drop_zero, tag]
  rfl

/-- The associated-token-account program creates a fresh account at the
address of a wallet and a mint. -/
theorem AtaProgram.accepts_vacantAt (codec : TokenCodec)
    {findProgramAddress : FindProgramAddress}
    {payer address wallet mint : Pubkey}
    (derived : address =
      associatedTokenAddress findProgramAddress wallet mint splTokenId) :
    (invoke codec findProgramAddress [0]).Accepts
      (creatingContext ataProgramId payer address)
      (stateOf
        [payerAt payer, vacantAt address,
          .new wallet 1 systemProgramId [] false,
          .new mint 1 splTokenId [] false,
          .new systemProgramId 1 systemProgramId [] true,
          .new splTokenId 1 systemProgramId [] true]) := by
  have payerFlagged := @creatingContext_flagged ataProgramId payer address
    payer (Or.inl rfl)
  have flagged := @creatingContext_flagged ataProgramId payer address
    address (Or.inr rfl)
  obtain ⟨final, created⟩ :=
    @create_accepts codec (creatingContext ataProgramId payer address)
      (stateOf
        [payerAt payer, vacantAt address,
          .new wallet 1 systemProgramId [] false,
          .new mint 1 splTokenId [] false,
          .new systemProgramId 1 systemProgramId [] true,
          .new splTokenId 1 systemProgramId [] true])
      (payerAt payer) (vacantAt address) wallet mint splTokenId rfl rfl
      (by decide : ¬ (5000000 : UInt64) < ataDefaultLamports)
  refine
    ⟨(), final,
      invoke_yields.mpr
        ⟨false, rfl,
          ⟨payerAt payer, vacantAt address, _, _, _, _, rfl, rfl, rfl, rfl,
            rfl, rfl⟩,
          ⟨payerFlagged.1, payerFlagged.2, flagged.2, rfl, Or.inl rfl,
            derived, rfl⟩, ?_⟩⟩
  rw [if_pos (fresh_vacantAt address)]
  exact created

/-- The account that a closing leaves behind is not fresh, and neither
program creates it again, though both would create a fresh account at its
address. -/
theorem closeAccount_never_frees (codec : TokenCodec) (crates : Crates)
    (findProgramAddress : FindProgramAddress) {context : InvokeContext}
    {state final : InvokeState} {body : List UInt8}
    {closed : KeyedAccount}
    (yields :
      (SplToken.invoke codec (9 :: body)).Yields context state () final)
    (atClosed : final.accounts[0]? = some closed) :
    ¬ Fresh closed ∧
      (∀ data context state, state.accounts[1]? = some closed →
        ¬ (AtaProgram.invoke codec findProgramAddress data).Accepts context
          state) ∧
      (∀ data context state, tagOf data = 0 →
        state.accounts[1]? = some closed →
          ¬ (SystemProgram.invoke crates data).Accepts context state) ∧
      (∀ payer wallet mint,
        closed.address =
            AtaProgram.associatedTokenAddress findProgramAddress wallet mint
              splTokenId →
          ∃ context state,
            state.accounts[1]? = some (vacantAt closed.address) ∧
              (AtaProgram.invoke codec findProgramAddress [0]).Accepts
                context state ∧
              state.accounts[0]? = some (payerAt payer)) ∧
      ∀ payer, ∃ data context, tagOf data = 0 ∧
        (SystemProgram.invoke crates data).Accepts context
          (stateOf [payerAt payer, vacantAt closed.address]) := by
  obtain ⟨account, _, left⟩ := SplToken.closeAccount_leaves yields
  cases left.symm.trans atClosed
  refine ⟨not_fresh_closedForm account, ?_, ?_, ?_, ?_⟩
  · intro data context state atAta
    exact AtaProgram.not_accepts_closedForm atAta
  · intro data context state tag atTarget
    exact SystemProgram.not_accepts_closedForm tag atTarget
  · intro payer wallet mint derived
    exact
      ⟨_, _, rfl, AtaProgram.accepts_vacantAt codec derived, rfl⟩
  · intro payer
    obtain ⟨data, tag, accepts⟩ :=
      SystemProgram.accepts_vacantAt crates payer
        (closedForm account).address
    exact ⟨data, _, tag, accepts⟩

def emptyHolder : KeyedAccount := holderOf (.filled 2) 0

theorem emptyHolder_closes :
    ∃ final,
      (SplToken.invoke splCodec [9]).Yields SplToken.guardContext
        (SplToken.guardState emptyHolder) () final := by
  have unpacked := unpack_holderOf (.filled 2) 0
  change ∃ final,
    (SplToken.closeAccount splCodec).Yields SplToken.guardContext
      (SplToken.guardState emptyHolder) () final
  simp only [SplToken.closeAccount, ne_eq, yields_bind,
    rejectBuiltin_yields, requireSlots_yields, slot_yields,
    requireWritable_yields, requireSigner_yields,
    SplToken.readTokenAccount_yields, Decidable.not_not, writeSlot_yields,
    log_yields, ↓existsAndEq, and_true, exists_const]
  exact
    ⟨emptyHolder, tenMintAccount, tokenWallet, _, tenMintAccount,
      emptyHolder, by decide, rfl, rfl, rfl, by decide, by decide,
      by decide, ⟨rfl, unpacked⟩, rfl, fun other => other.1 rfl, rfl, rfl⟩

theorem closeAccount_never_frees_emptyHolder :
    ∃ final : InvokeState, ∃ closed ∈ final.accounts[0]?,
      (SplToken.invoke splCodec [9]).Yields SplToken.guardContext
          (SplToken.guardState emptyHolder) () final ∧
        ¬ Fresh closed := by
  obtain ⟨final, yields⟩ := emptyHolder_closes
  obtain ⟨account, _, atClosed⟩ := SplToken.closeAccount_leaves yields
  exact
    ⟨final, _, atClosed, yields,
      (closeAccount_never_frees splCodec Creation.idleCrates
        AtaProgram.derivesTwo yields
        atClosed).1⟩

/-- The request that creates a blank account at the address is refused for
the one that was closed there. -/
theorem closed_account_not_recreated :
    ∃ final closed,
      (SplToken.invoke splCodec [9]).Yields SplToken.guardContext
          (SplToken.guardState emptyHolder) () final ∧
        final.accounts[0]? = some closed ∧
        ¬ Fresh closed ∧
        (AtaProgram.invoke splCodec AtaProgram.derivesTwo [0]).Accepts
          AtaProgram.requestContext
          (AtaProgram.requestState AtaProgram.blankAta) ∧
        ¬ (AtaProgram.invoke splCodec AtaProgram.derivesTwo [0]).Accepts
          AtaProgram.requestContext (AtaProgram.requestState closed) := by
  obtain ⟨final, yields⟩ := emptyHolder_closes
  obtain ⟨account, _, atClosed⟩ := SplToken.closeAccount_leaves yields
  obtain ⟨created, creates⟩ := AtaProgram.request_creates
  exact
    ⟨final, _, yields, atClosed, not_fresh_closedForm account,
      ⟨(), created, creates⟩, AtaProgram.not_accepts_closedForm rfl⟩

end Hopper
