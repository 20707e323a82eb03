import HopperSvm.SlotEffects
import HopperSvm.TokenHandlers
import HopperSvm.TokenSupply

namespace Hopper

/-- The token account an account holds. -/
def tokenOf (codec : TokenCodec) (programId : Pubkey)
    (account : KeyedAccount) : Option TokenAccount :=
  if account.owner = programId then
    (codec.account.unpack account.data).toOption
  else
    none

/-- What the delegate may still spend. -/
def TokenAccount.allowance (token : TokenAccount) : ℕ :=
  if token.delegate.isSome then token.delegatedAmount.toNat else 0

namespace SplToken

open Routine Words

/-- The slot that holds the authority of an instruction. -/
def authorityIndex : ℕ → Option ℕ
  | 3 => some 2
  | 4 => some 2
  | 5 => some 1
  | 7 => some 2
  | 8 => some 2
  | 9 => some 2
  | _ => none

/-- What an instruction with this tag and authority makes of the token
account in a slot. -/
inductive RecordChange (tag : ℕ) (authority : Option Pubkey) :
    Option TokenAccount → Option TokenAccount → Prop
  | kept {record : Option TokenAccount} :
      RecordChange tag authority record record
  | cleared {record : Option TokenAccount} (clears : tag = 0 ∨ tag = 9) :
      RecordChange tag authority record none
  | opened {record : Option TokenAccount} {token : TokenAccount}
      (opens : tag = 1) (undelegated : token.delegate = none) :
      RecordChange tag authority record (some token)
  | received {token : TokenAccount} {amount : UInt64}
      (more : token.amount.toNat ≤ amount.toNat) :
      RecordChange tag authority (some token) (some { token with amount })
  | spent {token : TokenAccount} {key : Pubkey} {amount : UInt64}
      (signed : authority = some key) (mayMove : MayMove key amount token)
      (covered : amount ≤ token.amount) :
      RecordChange tag authority (some token)
        (some
          { drawnBy key amount token with
            amount := token.amount - amount })
  | delegated {token token' : TokenAccount}
      (signed : authority = some token.owner) :
      RecordChange tag authority (some token) (some token')

/-- What is still to be spent from a record. -/
def remaining (record : Option TokenAccount) : ℕ :=
  (record.map TokenAccount.allowance).getD 0

/-- The tokens of a record. -/
def tokensIn (record : Option TokenAccount) : ℕ :=
  (record.map fun token => token.amount.toNat).getD 0

@[simp]
theorem allowance_with_amount {token : TokenAccount} {amount : UInt64} :
    ({ token with amount } : TokenAccount).allowance = token.allowance :=
  rfl

/-- What a delegate takes comes out of its allowance. -/
theorem allowance_drawnBy {key : Pubkey} {amount : UInt64}
    {token : TokenAccount} (stranger : token.owner ≠ key)
    (mayMove : MayMove key amount token) :
    amount.toNat + (drawnBy key amount token).allowance ≤
      token.allowance := by
  rcases mayMove with isOwner | ⟨delegated, enough⟩
  · exact absurd isOwner stranger
  · have covered : amount.toNat ≤ token.delegatedAmount.toNat :=
      UInt64.le_iff_toNat_le.mp enough
    have before : token.allowance = token.delegatedAmount.toNat := by
      simp [TokenAccount.allowance, delegated]
    have after :
        (drawnBy key amount token).allowance ≤
          token.delegatedAmount.toNat - amount.toNat := by
      rw [← toNat_saturatingSub, drawnBy, if_neg stranger]
      simp only [TokenAccount.allowance]
      split
      · exact Nat.le_refl _
      · exact Nat.zero_le _
    omega

/-- A change made without the owner: what a transfer or a burn takes, and
what may be taken after it, was allowed. -/
theorem RecordChange.pays {tag : ℕ} {authority : Option Pubkey}
    {before after : Option TokenAccount}
    (change : RecordChange tag authority before after)
    (stranger : ∀ token, before = some token →
      authority ≠ some token.owner) :
    (if tag = 3 ∨ tag = 8 then tokensIn before - tokensIn after else 0) +
        remaining after ≤
      remaining before := by
  cases change with
  | kept =>
      simp
  | cleared clears =>
      rcases clears with rfl | rfl <;> simp [remaining]
  | opened opens undelegated =>
      subst opens
      simp [remaining, TokenAccount.allowance, undelegated]
  | received more =>
      simp only [tokensIn, remaining, Option.map_some, Option.getD_some,
        allowance_with_amount]
      split
      · omega
      · omega
  | @spent token key amount signed mayMove covered =>
      have isStranger : token.owner ≠ key := by
        intro isOwner
        apply stranger token rfl
        rw [isOwner]
        exact signed
      have paid := allowance_drawnBy isStranger mayMove
      have left := UInt64.toNat_sub_of_le token.amount amount covered
      have covered' : amount.toNat ≤ token.amount.toNat :=
        UInt64.le_iff_toNat_le.mp covered
      simp only [tokensIn, remaining, Option.map_some, Option.getD_some,
        allowance_with_amount]
      split
      · omega
      · omega
  | delegated signed =>
      exact absurd signed (stranger _ rfl)

section Handlers

variable {codec : TokenCodec} {context : InvokeContext}
  {state final : InvokeState} {body : List UInt8}

theorem tokenOf_of_unpack {account : KeyedAccount} {token : TokenAccount}
    (isToken : IsToken codec context account token) :
    tokenOf codec context.programId account = some token := by
  rw [tokenOf, if_pos isToken.1, isToken.2]
  rfl

/-- A mint holds no tokens. -/
theorem tokenOf_of_mint {programId : Pubkey} {account : KeyedAccount}
    {mint : Mint} (unpacked : codec.mint.unpack account.data = .ok mint) :
    tokenOf codec programId account = none := by
  simp only [tokenOf]
  split
  · cases asToken : codec.account.unpack account.data with
    | error err =>
        rfl
    | ok token =>
        have notMint := codec.unpack_mint_of_account asToken
        exact absurd unpacked (notMint mint)
  · rfl

/-- Slots before and after an instruction with this tag and authority. -/
abbrev RecordsChange (codec : TokenCodec) (programId : Pubkey) (tag : ℕ)
    (authority : Option Pubkey) :
    List KeyedAccount → List KeyedAccount → Prop :=
  SlotWise fun _ p n =>
    RecordChange tag authority (tokenOf codec programId p)
      (tokenOf codec programId n)

theorem writeTokenAccount_holds {index : ℕ} {account : KeyedAccount}
    {token : TokenAccount}
    (found : state.accounts[index]? = some account)
    (owned : account.owner = context.programId)
    (yields :
      (writeTokenAccount codec index token).Yields context state () final)
    (usable : token.state ≠ .uninitialized) :
    ∃ account', final.accounts = state.accounts.set index account' ∧
      tokenOf codec context.programId account' = some token := by
  obtain ⟨same, packed, found', unpacks, rfl⟩ :=
    writeRecord_yields (isInitialized_token usable) yields
  rw [found, Option.some.injEq] at found'
  subst found'
  refine ⟨_, rfl, tokenOf_of_unpack ⟨?_, unpacks⟩⟩
  exact owned

theorem writeMint_holds {index : ℕ} {mint : Mint}
    (yields : (writeMint codec index mint).Yields context state () final)
    (usable : mint.isInitialized = true) :
    ∃ account', final.accounts = state.accounts.set index account' ∧
      tokenOf codec context.programId account' = none := by
  rw [← codec.mint_isInitialized] at usable
  obtain ⟨same, packed, found', unpacks, rfl⟩ :=
    writeRecord_yields usable yields
  exact ⟨_, rfl, tokenOf_of_mint unpacks⟩

/-- An instruction that rewrites two slots. -/
theorem RecordsChange.of_two {programId : Pubkey} {tag : ℕ}
    {authority : Option Pubkey} {slots : List KeyedAccount}
    {index index' : ℕ} {first first' second second' : KeyedAccount}
    (atFirst : slots[index]? = some first)
    (atSecond : slots[index']? = some second)
    (changed : RecordChange tag authority (tokenOf codec programId first)
      (tokenOf codec programId first'))
    (changed' : RecordChange tag authority
      (tokenOf codec programId second) (tokenOf codec programId second')) :
    RecordsChange codec programId tag authority slots
      ((slots.set index first').set index' second') :=
  SlotWise.set_two (fun _ _ _ => .kept) atFirst atSecond changed changed'

/-- An instruction that rewrites slot 0. -/
theorem RecordsChange.of_one {programId : Pubkey} {tag : ℕ}
    {authority : Option Pubkey} {slots : List KeyedAccount}
    {first first' : KeyedAccount} (atFirst : slots[0]? = some first)
    (changed : RecordChange tag authority (tokenOf codec programId first)
      (tokenOf codec programId first')) :
    RecordsChange codec programId tag authority slots
      (slots.set 0 first') :=
  SlotWise.set_one (fun _ _ _ => .kept) atFirst changed

theorem transfer_changes
    (yields : (transfer codec body).Yields context state () final) :
    RecordsChange codec context.programId 3
      (state.accounts[2]?.map KeyedAccount.address) state.accounts
      final.accounts := by
  simp only [transfer, ne_eq, yields_bind, rejectBuiltin_yields, not_lt,
    readU64_yields, zero_add, List.drop_zero, requireSlots_yields,
    slot_yields, requireWritable_yields, requireSigner_yields,
    readTokenAccount_yields, Decidable.not_not,
    authorizeTransfer_yields, rejectIf_yields, UInt64.not_lt,
    okOrBuiltin_yields, checkedAdd_eq_some, drawnBy_amount, log_yields,
    ↓existsAndEq, and_true, exists_const, and_self_left] at yields
  rcases yields with
    ⟨_, _, sourceAccount, atSource, destinationAccount, atDestination,
     authority, atAuthority, _, _, _, source, isSource, destination,
     isDestination, _, _, _, mayMove, covered, received, added, _, middle,
     wroteSource, _, written, wroteDestination, rfl⟩
  have sourceUsable := state_of_unpack isSource.2
  have destinationUsable := state_of_unpack isDestination.2
  obtain ⟨source', middle_eq, holdsSource⟩ :=
    writeTokenAccount_holds atSource isSource.1 wroteSource
      (by rwa [drawnBy_state])
  have atDestination' :
      middle.accounts[1]? = some destinationAccount := by
    rw [middle_eq, List.getElem?_set_ne (by decide)]
    exact atDestination
  obtain ⟨destination', written_eq, holdsDestination⟩ :=
    writeTokenAccount_holds atDestination' isDestination.1
      wroteDestination destinationUsable
  change
    RecordsChange codec context.programId 3 _ state.accounts
      written.accounts
  rw [written_eq, middle_eq]
  apply RecordsChange.of_two atSource atDestination
  · rw [tokenOf_of_unpack isSource, holdsSource]
    exact .spent (by rw [atAuthority]; rfl) mayMove covered
  · rw [tokenOf_of_unpack isDestination, holdsDestination]
    exact .received (by omega)

theorem burn_changes
    (yields : (burn codec body).Yields context state () final) :
    RecordsChange codec context.programId 8
      (state.accounts[2]?.map KeyedAccount.address) state.accounts
      final.accounts := by
  simp only [burn, ne_eq, yields_bind, rejectBuiltin_yields, not_lt,
    readU64_yields, zero_add, List.drop_zero, requireSlots_yields,
    slot_yields, requireWritable_yields, requireSigner_yields,
    readTokenAccount_yields, readMint_yields, Decidable.not_not,
    authorizeBurn_yields, rejectIf_yields, UInt64.not_lt,
    drawnBy_amount, log_yields, ↓existsAndEq, and_true, exists_const,
    and_self_left] at yields
  rcases yields with
    ⟨_, _, sourceAccount, atSource, mintAccount, atMint, authority,
     atAuthority, _, _, _, source, isSource, mint, isMint, _, mayMove,
     covered, _, middle, wroteSource, _, written, wroteMint, rfl⟩
  have sourceUsable := state_of_unpack isSource.2
  obtain ⟨source', middle_eq, holdsSource⟩ :=
    writeTokenAccount_holds atSource isSource.1 wroteSource
      (by rwa [drawnBy_state])
  have mintUsable := isInitialized_of_unpack_mint isMint.2
  obtain ⟨mint', written_eq, holdsMint⟩ :=
    writeMint_holds wroteMint mintUsable
  change
    RecordsChange codec context.programId 8 _ state.accounts
      written.accounts
  rw [written_eq, middle_eq]
  apply RecordsChange.of_two atSource atMint
  · rw [tokenOf_of_unpack isSource, holdsSource]
    exact .spent (by rw [atAuthority]; rfl) mayMove covered
  · rw [tokenOf_of_mint isMint.2, holdsMint]
    exact .kept

theorem mintTo_changes
    (yields : (mintTo codec body).Yields context state () final) :
    RecordsChange codec context.programId 7
      (state.accounts[2]?.map KeyedAccount.address) state.accounts
      final.accounts := by
  simp only [mintTo, ne_eq, yields_bind, rejectBuiltin_yields, not_lt,
    readU64_yields, zero_add, List.drop_zero, requireSlots_yields,
    slot_yields, requireWritable_yields, requireSigner_yields,
    readMint_yields, readTokenAccount_yields, Decidable.not_not,
    okOrBuiltin_yields, checkedAdd_eq_some, log_yields, ↓existsAndEq,
    and_true, true_and, exists_const, and_self_left] at yields
  rcases yields with
    ⟨_, _, mintAccount, atMint, destinationAccount, atDestination, _, _, _,
     _, _, mint, isMint, destination, isDestination, _, _, supply, _,
     received, added, _, middle, wroteMint, _, written, wroteDestination,
     rfl⟩
  have mintUsable := isInitialized_of_unpack_mint isMint.2
  obtain ⟨mint', middle_eq, holdsMint⟩ :=
    writeMint_holds wroteMint mintUsable
  have atDestination' :
      middle.accounts[1]? = some destinationAccount := by
    rw [middle_eq, List.getElem?_set_ne (by decide)]
    exact atDestination
  have destinationUsable := state_of_unpack isDestination.2
  obtain ⟨destination', written_eq, holdsDestination⟩ :=
    writeTokenAccount_holds atDestination' isDestination.1
      wroteDestination destinationUsable
  change
    RecordsChange codec context.programId 7 _ state.accounts
      written.accounts
  rw [written_eq, middle_eq]
  apply RecordsChange.of_two atMint atDestination
  · rw [tokenOf_of_mint isMint.2, holdsMint]
    exact .kept
  · rw [tokenOf_of_unpack isDestination, holdsDestination]
    exact .received (by omega)

theorem approve_changes
    (yields : (approve codec body).Yields context state () final) :
    RecordsChange codec context.programId 4
      (state.accounts[2]?.map KeyedAccount.address) state.accounts
      final.accounts := by
  simp only [approve, ne_eq, yields_bind, rejectBuiltin_yields, not_lt,
    readU64_yields, zero_add, List.drop_zero, requireSlots_yields,
    slot_yields, requireWritable_yields, requireSigner_yields,
    readTokenAccount_yields, Decidable.not_not, log_yields, ↓existsAndEq,
    and_true, exists_const, and_self_left] at yields
  rcases yields with
    ⟨_, _, sourceAccount, atSource, _, _, owner, atOwner, _, _, source,
     isSource, isOwner, _, written, wrote, rfl⟩
  have usable := state_of_unpack isSource.2
  obtain ⟨source', written_eq, holdsSource⟩ :=
    writeTokenAccount_holds atSource isSource.1 wrote usable
  change
    RecordsChange codec context.programId 4 _ state.accounts
      written.accounts
  rw [written_eq]
  apply RecordsChange.of_one atSource
  rw [tokenOf_of_unpack isSource, holdsSource]
  exact .delegated (by rw [atOwner, isOwner]; rfl)

theorem revoke_changes
    (yields : (revoke codec).Yields context state () final) :
    RecordsChange codec context.programId 5
      (state.accounts[1]?.map KeyedAccount.address) state.accounts
      final.accounts := by
  simp only [revoke, ne_eq, yields_bind, rejectBuiltin_yields,
    requireSlots_yields, slot_yields, requireWritable_yields,
    requireSigner_yields, readTokenAccount_yields, Decidable.not_not,
    log_yields, ↓existsAndEq, and_true, exists_const] at yields
  rcases yields with
    ⟨_, sourceAccount, atSource, owner, atOwner, _, _, source, isSource,
     isOwner, _, written, wrote, rfl⟩
  have usable := state_of_unpack isSource.2
  obtain ⟨source', written_eq, holdsSource⟩ :=
    writeTokenAccount_holds atSource isSource.1 wrote usable
  change
    RecordsChange codec context.programId 5 _ state.accounts
      written.accounts
  rw [written_eq]
  apply RecordsChange.of_one atSource
  rw [tokenOf_of_unpack isSource, holdsSource]
  exact .delegated (by rw [atOwner, isOwner]; rfl)

theorem initializeMint_changes {authority : Option Pubkey}
    (yields : (initializeMint codec body).Yields context state () final) :
    RecordsChange codec context.programId 0 authority state.accounts
      final.accounts := by
  simp only [initializeMint, yields_bind, rejectBuiltin_yields, not_lt,
    requireSlots_yields, slot_yields, requireWritable_yields,
    expect_yields, readPubkey_yields, environment_yields,
    writeSlot_yields, log_yields, ↓existsAndEq, and_true, true_and,
    exists_const] at yields
  rcases yields with
    ⟨_, _, first, atFirst, _, _, _, _, _, _, _, readFreeze, _, _, _,
     middle, wrote, claimed, atClaimed, rfl⟩
  cases state_of_readFreezeAuthority readFreeze
  obtain ⟨first', _, _, unpacks, written⟩ :=
    writeRecord_claimed (by rw [codec.mint_isInitialized]) atFirst wrote
      atClaimed context.programId
  rw [written]
  apply RecordsChange.of_one atFirst
  rw [tokenOf_of_mint unpacks]
  exact .cleared (Or.inl rfl)

theorem initializeAccount_changes {authority : Option Pubkey}
    (yields : (initializeAccount codec).Yields context state () final) :
    RecordsChange codec context.programId 1 authority state.accounts
      final.accounts := by
  simp only [initializeAccount, yields_bind, rejectBuiltin_yields, not_lt,
    requireSlots_yields, slot_yields, requireWritable_yields,
    readMint_yields, environment_yields, writeSlot_yields, log_yields,
    ↓existsAndEq, and_true, true_and, exists_const] at yields
  rcases yields with
    ⟨_, first, atFirst, _, _, _, _, _, _, _, _, _, _, _, middle, wrote,
     claimed, atClaimed, rfl⟩
  obtain ⟨first', _, owned, unpacks, written⟩ :=
    writeRecord_claimed (isInitialized_token (by simp)) atFirst wrote
      atClaimed context.programId
  rw [written]
  apply RecordsChange.of_one atFirst
  rw [tokenOf_of_unpack ⟨owned, unpacks⟩]
  exact .opened rfl rfl

theorem closeAccount_changes {authority : Option Pubkey}
    (notSystem : context.programId ≠ systemProgramId)
    (yields : (closeAccount codec).Yields context state () final) :
    RecordsChange codec context.programId 9 authority state.accounts
      final.accounts := by
  obtain
    ⟨closed, destination, token, atClosed, atDestination, _, _, _, left⟩ :=
    closeAccount_closes yields
  have credited :
      tokenOf codec context.programId
          { destination with
            lamports :=
              saturatingAdd destination.lamports closed.lamports } =
        tokenOf codec context.programId destination :=
    rfl
  -- The closed account goes to the system program, so it holds nothing.
  have gone :
      tokenOf codec context.programId
          { closed with
            lamports := 0
            data := List.replicate tokenAccountLen 0
            owner := systemProgramId } =
        none :=
    if_neg notSystem.symm
  rw [left]
  apply RecordsChange.of_two atDestination atClosed
  · rw [credited]
    exact .kept
  · rw [gone]
    exact .cleared (Or.inr rfl)

/-- The key in the authority slot of an instruction. -/
def authorityIn (tag : ℕ) (keys : List Pubkey) : Option Pubkey :=
  (authorityIndex tag).bind fun index => keys[index]?

/-- What an accepted instruction does to the records. -/
theorem invoke_changes {data : List UInt8}
    (notSystem : context.programId ≠ systemProgramId)
    (yields : (invoke codec data).Yields context state () final) :
    ∃ tag body, data = tag :: body ∧
      RecordsChange codec context.programId tag.toNat
        (authorityIn tag.toNat (addresses state.accounts)) state.accounts
        final.accounts := by
  have key (index : ℕ) : (addresses state.accounts)[index]? =
      state.accounts[index]?.map KeyedAccount.address :=
    List.getElem?_map
  cases data with
  | nil =>
      simp [invoke] at yields
  | cons tag body =>
      refine ⟨tag, body, rfl, ?_⟩
      unfold invoke at yields
      dsimp only at yields
      generalize tag.toNat = number at yields ⊢
      split at yields
      · exact initializeMint_changes yields
      · exact initializeAccount_changes yields
      · rw [authorityIn, authorityIndex, Option.bind_some, key]
        exact transfer_changes yields
      · rw [authorityIn, authorityIndex, Option.bind_some, key]
        exact approve_changes yields
      · rw [authorityIn, authorityIndex, Option.bind_some, key]
        exact revoke_changes yields
      · rw [authorityIn, authorityIndex, Option.bind_some, key]
        exact mintTo_changes yields
      · rw [authorityIn, authorityIndex, Option.bind_some, key]
        exact burn_changes yields
      · exact closeAccount_changes notSystem yields
      · simp at yields

end Handlers

/-! ## Runs without the owner -/

/-- The key in the authority slot, if the instruction has one. -/
def authorityOf (ix : Instruction) : Option Pubkey :=
  match ix.data with
  | [] => none
  | tag :: _ =>
      authorityIn tag.toNat (ix.accounts.map AccountMeta.pubkey)

/-- The instruction is a transfer or a burn. -/
def MovesTokens (ix : Instruction) : Prop :=
  ix.data.head? = some 3 ∨ ix.data.head? = some 8

instance (ix : Instruction) : Decidable (MovesTokens ix) :=
  inferInstanceAs (Decidable (_ ∨ _))

theorem movesTokens_iff {ix : Instruction} {tag : UInt8}
    {body : List UInt8} (data_eq : ix.data = tag :: body) :
    MovesTokens ix ↔ tag.toNat = 3 ∨ tag.toNat = 8 := by
  rw [MovesTokens, data_eq, List.head?_cons, Option.some.injEq,
    Option.some.injEq, ← UInt8.toNat_inj, ← UInt8.toNat_inj]
  rfl

section Runs

variable {codec : TokenCodec} {address : Pubkey}

/-- By how much a step lowered the amount of the account, if it was a
successful transfer or burn. -/
def spentIn (codec : TokenCodec)
    (entry : Labelled.Entry KeyedAccount
      (Call splTokenId (splTokenSimulator codec))) : ℕ :=
  if entry.event.Succeeded ∧ MovesTokens entry.event.ix then
    tokensIn (tokenOf codec splTokenId entry.before) -
      tokensIn (tokenOf codec splTokenId entry.after)
  else
    0

/-- The authority slot does not hold the owner stored in the account. -/
def WithoutOwner (codec : TokenCodec)
    (entry : Labelled.Entry KeyedAccount
      (Call splTokenId (splTokenSimulator codec))) : Prop :=
  ∀ token, tokenOf codec splTokenId entry.before = some token →
    authorityOf entry.event.ix ≠ some token.owner

/-- A step without the owner pays out of the allowance. -/
theorem WithoutOwner.pays
    {entry : Labelled.Entry KeyedAccount
      (Call splTokenId (splTokenSimulator codec))}
    (stranger : WithoutOwner codec entry)
    (moves : entry.event.Moves address entry.before entry.after) :
    spentIn codec entry +
        remaining (tokenOf codec splTokenId entry.after) ≤
      remaining (tokenOf codec splTokenId entry.before) := by
  rcases entry with ⟨p, call, n⟩
  dsimp only at moves ⊢
  have unchanged (same : n = p) :
      spentIn codec ⟨p, call, n⟩ +
          remaining (tokenOf codec splTokenId n) ≤
        remaining (tokenOf codec splTokenId p) := by
    subst same
    simp [spentIn]
  by_cases success : call.Succeeded
  · rcases moves.through_slot BuiltinProgram.keepsAddresses_ofRoutine
        success with
      ⟨_, same⟩ |
        ⟨received, state, index, completed, before, after, _⟩
    · exact unchanged same
    · obtain ⟨started, sameSlots, ran⟩ := completed.invoked
      have notSystem : call.context.programId ≠ systemProgramId := by
        change splTokenId ≠ systemProgramId
        decide
      obtain ⟨tag, body, data_eq, changes⟩ := invoke_changes notSystem ran
      have keys := addresses_of_resolved completed.reached.resolved
      rw [sameSlots, keys] at changes
      have authority :
          authorityOf call.ix =
            authorityIn tag.toNat
              (call.ix.accounts.map AccountMeta.pubkey) := by
        rw [authorityOf, data_eq]
      have change := changes index p n before after
      rw [← authority] at change
      have paid := change.pays stranger
      have spent_eq : spentIn codec ⟨p, call, n⟩ =
          if tag.toNat = 3 ∨ tag.toNat = 8 then
            tokensIn (tokenOf codec splTokenId p) -
              tokensIn (tokenOf codec splTokenId n)
          else
            0 := by
        simp only [spentIn, success, movesTokens_iff data_eq, true_and]
      rw [spent_eq]
      exact paid
  · exact unchanged (moves.eq_of_failed success)

/-- In a run without its owner, no more leaves a token account by transfers
and burns than the allowance stored in it at the start. -/
theorem delegate_spends_at_most_allowance {start finish : KeyedAccount}
    {entries : List
      (Labelled.Entry KeyedAccount
        (Call splTokenId (splTokenSimulator codec)))}
    (run : Call.Run splTokenId (splTokenSimulator codec) address start
      entries finish)
    {token : TokenAccount}
    (holds : tokenOf codec splTokenId start = some token)
    (strangers : ∀ entry ∈ entries, WithoutOwner codec entry) :
    (entries.map (spentIn codec)).sum ≤
      if token.delegate.isSome then token.delegatedAmount.toNat else 0 := by
  have bounded :
      (entries.map (spentIn codec)).sum +
          remaining (tokenOf codec splTokenId finish) ≤
        remaining (tokenOf codec splTokenId start) := by
    apply Labelled.Trace.sum_cost_le run
    intro entry member moves
    exact (strangers entry member).pays moves
  have potential :
      remaining (tokenOf codec splTokenId start) = token.allowance := by
    rw [holds]
    rfl
  rw [potential] at bounded
  exact (Nat.le_add_right _ _).trans bounded

/-- Seven tokens of which wallet 5 may spend four. -/
def delegatedTokens : TokenAccount :=
  { tokensOf 7 with
    delegate := some (.filled 5)
    delegatedAmount := 4 }

def delegatedHolder : KeyedAccount :=
  .new (.filled 2) 1 splTokenId
    (Layout.tokenAccount.write delegatedTokens
      (List.replicate tokenAccountLen 0))
    false

theorem tokenOf_delegatedHolder :
    tokenOf splCodec splTokenId delegatedHolder = some delegatedTokens := by
  have unpacked :
      splCodec.account.unpack delegatedHolder.data = .ok delegatedTokens :=
    Pack.unpack_write rfl List.length_replicate
  have owned : delegatedHolder.owner = splTokenId := rfl
  rw [tokenOf, if_pos owned, unpacked]
  rfl

/-- Wallet 5 moves three tokens. -/
def spendIx : Instruction :=
  { programId := splTokenId
    accounts :=
      [⟨.filled 2, false, true⟩, ⟨.filled 4, false, true⟩,
        ⟨.filled 5, true, false⟩]
    data := 3 :: Bytes.leBytes 8 3 }

def spendAccounts : List KeyedAccount :=
  [delegatedHolder, holderOf (.filled 4) 0,
    .new (.filled 5) 1 systemProgramId [] false]

theorem spendIx_returns :
    (tokenHarness.processInstruction spendIx spendAccounts).isSome := by
  decide +kernel

def spendCall : Call splTokenId (splTokenSimulator splCodec) :=
  (StrictCall.ofReturns tokenHarness spendIx spendAccounts ⟨rfl, rfl⟩ rfl
    rfl spendIx_returns).toCall

def spentHolder : KeyedAccount :=
  { delegatedHolder with
    data :=
      Layout.tokenAccount.write
        { delegatedTokens with
          amount := 4
          delegatedAmount := 1 }
        (List.replicate tokenAccountLen 0) }

theorem spendCall_moves :
    spendCall.Moves (.filled 2) delegatedHolder spentHolder := by
  simp only [Call.Moves]
  decide +kernel

theorem delegate_spends_at_most_allowance_spend :
    ([⟨delegatedHolder, spendCall, spentHolder⟩].map
      (spentIn splCodec)).sum ≤ 4 := by
  refine
    delegate_spends_at_most_allowance (.cons spendCall_moves .nil)
      tokenOf_delegatedHolder ?_
  intro entry member token holds
  cases List.mem_singleton.mp member
  cases tokenOf_delegatedHolder.symm.trans holds
  decide

end Runs

end SplToken

end Hopper
