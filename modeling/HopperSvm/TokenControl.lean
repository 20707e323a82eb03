import HopperSvm.Isolation
import HopperSvm.WalletSafety

/-!
A usable token account of the base layout keeps its record, and its tokens
only grow, through every accepted instruction that neither its owner, nor
its delegate, nor its close authority has signed, with one exception: the
mint initialiser takes any account of the token program that holds no mint.
-/

namespace Hopper

open HopperSvm Labelled Routine

namespace SplToken

/-- The record with at least as many tokens. -/
def Grown (token : TokenAccount) (record : Option TokenAccount) : Prop :=
  ∃ amount, token.amount.toNat ≤ amount.toNat ∧
    record = some { token with amount }

theorem Grown.refl (token : TokenAccount) : Grown token (some token) :=
  ⟨token.amount, Nat.le_refl _, rfl⟩

/-- One of the keys stored in the record has signed. -/
def Approved (signs : Pubkey → Prop) (token : TokenAccount) : Prop :=
  signs token.owner ∨
    (∃ key, token.delegate = some key ∧ signs key) ∨
    ∃ key, token.closeAuthority = some key ∧ signs key

/-- What becomes of a usable record: it grows, it was approved, or the slot
was made a mint. -/
def Guards (codec : TokenCodec) (context : InvokeContext)
    (data : List UInt8) : SlotRelation :=
  fun index p n =>
    ∀ token, tokenOf codec context.programId p = some token →
      token.state = .initialized →
        Grown token (tokenOf codec context.programId n) ∨
          Approved (IsSigner context) token ∨
          (index = 0 ∧ data.head? = some 0)

section Slots

variable {codec : TokenCodec} {context : InvokeContext}
  {data body : List UInt8} {index : ℕ} {p n : KeyedAccount}
  {state final : InvokeState}

theorem isToken_of_tokenOf {programId : Pubkey} {token : TokenAccount}
    (holds : tokenOf codec programId p = some token) :
    p.owner = programId ∧ codec.account.unpack p.data = .ok token := by
  rw [tokenOf] at holds
  by_cases owned : p.owner = programId
  · rw [if_pos owned] at holds
    cases unpacked : codec.account.unpack p.data with
    | error err =>
        rw [unpacked] at holds
        cases holds
    | ok token' =>
        rw [unpacked] at holds
        cases holds
        exact ⟨owned, rfl⟩
  · rw [if_neg owned] at holds
    cases holds

/-- A slot whose record stays. -/
theorem Guards.of_same
    (same : tokenOf codec context.programId n =
      tokenOf codec context.programId p) :
    Guards codec context data index p n := by
  intro token holds _
  rw [same, holds]
  exact Or.inl (.refl token)

/-- A slot that a transfer, an approval, a revocation, a minting or a
burning left. -/
theorem Guards.of_change {tag : ℕ} {authority : Option Pubkey}
    (notCleared : ¬ (tag = 0 ∨ tag = 9)) (notOpened : tag ≠ 1)
    (signed : ∀ key, authority = some key → IsSigner context key)
    (change : RecordChange tag authority
      (tokenOf codec context.programId p)
      (tokenOf codec context.programId n)) :
    Guards codec context data index p n := by
  intro token holds _
  rw [holds] at change
  generalize tokenOf codec context.programId n = record at change ⊢
  cases change with
  | kept =>
      exact Or.inl (.refl token)
  | cleared clears =>
      exact absurd clears notCleared
  | opened opens undelegated =>
      exact absurd opens notOpened
  | @received _ amount more =>
      exact Or.inl ⟨amount, more, rfl⟩
  | @spent _ key amount isAuthority mayMove covered =>
      have signs := signed key isAuthority
      cases mayMove with
      | inl isOwner =>
          exact Or.inr (Or.inl (Or.inl (isOwner ▸ signs)))
      | inr delegated =>
          exact Or.inr (Or.inl (Or.inr (Or.inl ⟨key, delegated.1, signs⟩)))
  | delegated isOwner =>
      exact Or.inr (Or.inl (Or.inl (signed _ isOwner)))

theorem guards_of_changes {tag : ℕ} {authority : Option Pubkey}
    {slots left : List KeyedAccount}
    (notCleared : ¬ (tag = 0 ∨ tag = 9)) (notOpened : tag ≠ 1)
    (signed : ∀ key, authority = some key → IsSigner context key)
    (changes :
      RecordsChange codec context.programId tag authority slots left) :
    SlotWise (Guards codec context data) slots left :=
  fun index p n before after =>
    .of_change notCleared notOpened signed (changes index p n before after)

/-- The key in a slot that was checked has signed. -/
theorem signed_of_slot {place : ℕ} {authority : KeyedAccount}
    (atAuthority : state.accounts[place]? = some authority)
    (signed : IsSigner context authority.address) (key : Pubkey)
    (isKey : state.accounts[place]?.map KeyedAccount.address = some key) :
    IsSigner context key := by
  rw [atAuthority] at isKey
  cases isKey
  exact signed

theorem transfer_guards
    (yields : (transfer codec body).Yields context state () final) :
    SlotWise (Guards codec context data) state.accounts
      final.accounts := by
  obtain
    ⟨_, _, _, _, authority, _, _, _, _, atAuthority, _, _, signed, _⟩ :=
    transfer_accepts.mp ⟨(), final, yields⟩
  exact
    guards_of_changes (by decide) (by decide)
      (signed_of_slot atAuthority signed) (transfer_changes yields)

theorem approve_guards
    (yields : (approve codec body).Yields context state () final) :
    SlotWise (Guards codec context data) state.accounts
      final.accounts := by
  obtain ⟨_, _, _, owner, _, _, atOwner, _, signed, _⟩ :=
    approve_accepts.mp ⟨(), final, yields⟩
  exact
    guards_of_changes (by decide) (by decide)
      (signed_of_slot atOwner signed) (approve_changes yields)

theorem revoke_guards
    (yields : (revoke codec).Yields context state () final) :
    SlotWise (Guards codec context data) state.accounts
      final.accounts := by
  obtain ⟨_, _, owner, _, _, atOwner, _, signed, _⟩ :=
    revoke_accepts.mp ⟨(), final, yields⟩
  exact
    guards_of_changes (by decide) (by decide)
      (signed_of_slot atOwner signed) (revoke_changes yields)

theorem mintTo_guards
    (yields : (mintTo codec body).Yields context state () final) :
    SlotWise (Guards codec context data) state.accounts
      final.accounts := by
  obtain
    ⟨_, _, _, _, authority, _, _, _, _, atAuthority, _, _, signed, _⟩ :=
    mintTo_accepts.mp ⟨(), final, yields⟩
  exact
    guards_of_changes (by decide) (by decide)
      (signed_of_slot atAuthority signed) (mintTo_changes yields)

theorem burn_guards
    (yields : (burn codec body).Yields context state () final) :
    SlotWise (Guards codec context data) state.accounts
      final.accounts := by
  obtain
    ⟨_, _, _, _, authority, _, _, _, _, atAuthority, _, _, signed, _⟩ :=
    burn_accepts.mp ⟨(), final, yields⟩
  exact
    guards_of_changes (by decide) (by decide)
      (signed_of_slot atAuthority signed) (burn_changes yields)

/-- Making a mint of slot 0. -/
theorem initializeMint_guards
    (yields : (initializeMint codec body).Yields context state () final) :
    SlotWise (Guards codec context (0 :: body)) state.accounts
      final.accounts := by
  simp only [initializeMint, yields_bind, rejectBuiltin_yields, not_lt,
    requireSlots_yields, slot_yields, requireWritable_yields,
    expect_yields, readPubkey_yields, environment_yields,
    writeSlot_yields, log_yields, ↓existsAndEq, and_true, true_and,
    exists_const] at yields
  obtain
    ⟨_, _, first, atFirst, _, _, _, _, _, _, _, readFreeze, _, _, _,
     middle, wrote, claimed, atClaimed, rfl⟩ := yields
  cases state_of_readFreezeAuthority readFreeze
  obtain ⟨first', _, _, unpacks, written⟩ :=
    writeRecord_claimed (by rw [codec.mint_isInitialized]) atFirst wrote
      atClaimed context.programId
  rw [written]
  refine .set_one (fun _ _ _ => .of_same rfl) atFirst ?_
  intro token _ _
  exact Or.inr (Or.inr ⟨rfl, rfl⟩)

/-- The account initialiser refuses a usable record. -/
theorem initializeAccount_guards
    (yields : (initializeAccount codec).Yields context state () final) :
    SlotWise (Guards codec context data) state.accounts
      final.accounts := by
  obtain
    ⟨_, account, _, _, atAccount, _, _, _, _, unusable⟩ :=
    initializeAccount_accepts.mp ⟨(), final, yields⟩
  simp only [initializeAccount, yields_bind, rejectBuiltin_yields, not_lt,
    requireSlots_yields, slot_yields, requireWritable_yields,
    readMint_yields, environment_yields, writeSlot_yields, log_yields,
    ↓existsAndEq, and_true, true_and, exists_const] at yields
  obtain
    ⟨_, first, atFirst, _, _, _, _, _, _, _, _, _, _, _, middle, wrote,
     claimed, atClaimed, rfl⟩ := yields
  obtain ⟨first', _, owned, unpacks, written⟩ :=
    writeRecord_claimed (isInitialized_token (by simp)) atFirst wrote
      atClaimed context.programId
  rw [written]
  refine .set_one (fun _ _ _ => .of_same rfl) atFirst ?_
  intro token holds usable
  cases atAccount.symm.trans atFirst
  exact absurd usable (unusable token (isToken_of_tokenOf holds).2)

/-- Closing takes a signature of the owner or of the close authority. -/
theorem closeAccount_guards
    (yields : (closeAccount codec).Yields context state () final) :
    SlotWise (Guards codec context data) state.accounts
      final.accounts := by
  simp only [closeAccount, ne_eq, yields_bind, rejectBuiltin_yields,
    requireSlots_yields, slot_yields, requireWritable_yields,
    requireSigner_yields, readTokenAccount_yields, Decidable.not_not,
    writeSlot_yields, log_yields, not_and, ↓existsAndEq, and_true,
    exists_const] at yields
  obtain
    ⟨_, closed, atClosed, destination, atDestination, authority, _, _, _,
     signed, token, isToken, _, mayClose, target, atTarget, emptied,
     atEmptied, rfl⟩ := yields
  cases atDestination.symm.trans atTarget
  rw [List.getElem?_set_ne (by decide)] at atEmptied
  cases atClosed.symm.trans atEmptied
  refine
    .set_two (fun _ _ _ => .of_same rfl) atDestination atClosed
      (.of_same rfl) ?_
  intro token' holds _
  have sameToken : token' = token := by
    have here := tokenOf_of_unpack isToken
    exact Option.some.inj (holds.symm.trans here)
  rw [sameToken]
  by_cases isOwner : token.owner = authority.address
  · exact Or.inr (Or.inl (Or.inl (isOwner ▸ signed)))
  · have isCloser := mayClose isOwner
    exact
      Or.inr
        (Or.inl (Or.inr (Or.inr ⟨authority.address, isCloser, signed⟩)))

theorem invoke_guards
    (yields : (invoke codec data).Yields context state () final) :
    SlotWise (Guards codec context data) state.accounts
      final.accounts := by
  cases data with
  | nil =>
      simp [invoke] at yields
  | cons tag body =>
      unfold invoke at yields
      dsimp only at yields
      split at yields
      · rename_i isZero
        have zero : tag = 0 := UInt8.toNat_inj.mp isZero
        rw [zero]
        exact initializeMint_guards yields
      · exact initializeAccount_guards yields
      · exact transfer_guards yields
      · exact approve_guards yields
      · exact revoke_guards yields
      · exact mintTo_guards yields
      · exact burn_guards yields
      · exact closeAccount_guards yields
      · simp at yields

end Slots

/-- The two token programs at their IDs. -/
inductive TokenProgramAt (codec : TokenCodec) :
    Pubkey → BuiltinProgram → Prop
  | legacy : TokenProgramAt codec splTokenId (splTokenSimulator codec)
  | token2022 :
      TokenProgramAt codec splToken2022Id (splToken2022Simulator codec)

theorem TokenProgramAt.effects {codec : TokenCodec} {programId : Pubkey}
    {program : BuiltinProgram}
    (tokenProgram : TokenProgramAt codec programId program) :
    program.Effects (Guards codec) := by
  cases tokenProgram with
  | legacy =>
      exact BuiltinProgram.effects_ofRoutine fun _ _ _ _ => invoke_guards
  | token2022 =>
      exact
        BuiltinProgram.effects_ofRoutine fun _ _ _ _ ran =>
          invoke_guards (Token2022.delegated_of_yields ran)

theorem Grown.trans {token : TokenAccount} {amount : UInt64}
    {record : Option TokenAccount}
    (more : token.amount.toNat ≤ amount.toNat)
    (grown : Grown { token with amount } record) :
    Grown token record := by
  obtain ⟨later, further, same⟩ := grown
  exact ⟨later, more.trans further, same⟩

end SplToken

/-! ## Accepted instructions -/

open SplToken

/-- An instruction to the token program that a key stored in the record
signs, or a mint initialisation of the address. -/
def Instruction.Commands (programId address : Pubkey)
    (token : TokenAccount) (ix : Instruction) : Prop :=
  ix.programId = programId ∧
    (Approved ix.Signs token ∨
      (ix.data.head? = some 0 ∧
        (ix.accounts.map AccountMeta.pubkey)[0]? = some address))

section Accepting

variable {registry : Registry} {codec : TokenCodec}
  {programId address : Pubkey} {program : BuiltinProgram}
  {ix : Instruction} {accounts after : List KeyedAccount}
  {p n : KeyedAccount} {token : TokenAccount}

theorem SplToken.Approved.signs {context : InvokeContext}
    (sameMetas : context.accountMetas = ix.accounts)
    (approved : Approved (IsSigner context) token) :
    Approved ix.Signs token := by
  have signs {key : Pubkey} (signer : IsSigner context key) :
      ix.Signs key := by
    have flagged := exists_meta_of_first signer
    rwa [sameMetas] at flagged
  rcases approved with
    owner | ⟨key, isDelegate, signer⟩ | ⟨key, isCloser, signer⟩
  · exact Or.inl (signs owner)
  · exact Or.inr (Or.inl ⟨key, isDelegate, signs signer⟩)
  · exact Or.inr (Or.inr ⟨key, isCloser, signs signer⟩)

theorem tokenOf_of_isolated (isolated : Isolated p n) :
    tokenOf codec programId n = tokenOf codec programId p := by
  rw [tokenOf, isolated.owner, isolated.data]
  rfl

theorem SplToken.TokenProgramAt.ne_system
    (tokenProgram : TokenProgramAt codec programId program) :
    programId ≠ systemProgramId := by
  cases tokenProgram with
  | legacy =>
      decide
  | token2022 =>
      decide

/-- An accepted instruction that does not command a usable token account
leaves its record, with no fewer tokens. -/
theorem Accepted.grown (accepted : Accepted registry ix accounts after)
    (tokenProgram : TokenProgramAt codec programId program)
    (linked : registry programId = some program)
    (distinct : (addresses accounts).Nodup)
    (before : findAccount address accounts = some p)
    (holds : tokenOf codec programId p = some token)
    (usable : token.state = .initialized)
    (idle : ¬ ix.Commands programId address token) :
    ∃ n, findAccount address after = some n ∧
      Grown token (tokenOf codec programId n) := by
  obtain ⟨n, left⟩ := accepted.exists_account before
  refine ⟨n, left, ?_⟩
  by_cases toToken : ix.programId = programId
  · cases accepted with
    | «by» found bundled strict succeeds =>
        subst toToken
        rw [linked] at found
        cases found
        rcases succeeds.reached.merged_slot bundled.keepsAddresses before
            left with ⟨_, same⟩ | ⟨index, atReceived, atLeft, last⟩
        · rw [same, holds]
          exact .refl token
        · have guards :=
            tokenProgram.effects _ _ _ _ succeeds.reached.invoked index p n
              atReceived atLeft token holds usable
          rcases guards with grown | approved | ⟨first, initialises⟩
          · exact grown
          · have signed : Approved ix.Signs token := approved.signs rfl
            exact absurd ⟨rfl, Or.inl signed⟩ idle
          · rw [first] at last
            exact absurd ⟨rfl, Or.inr ⟨initialises, last.1⟩⟩ idle
  · have owned : p.owner = programId := (isToken_of_tokenOf holds).1
    have foreign : p.owner ≠ ix.programId := by
      rw [owned]
      exact Ne.symm toToken
    have inUse : ¬ Fresh p := by
      intro fresh
      exact tokenProgram.ne_system (owned.symm.trans fresh.2.2)
    have isolated := accepted.isolated distinct before left foreign inUse
    rw [tokenOf_of_isolated isolated, holds]
    exact .refl token

end Accepting

/-- A fee leaves every record. -/
theorem Request.Charged.tokenOf_eq {request : Request} {fee : UInt64}
    {accounts charged : List KeyedAccount} {address : Pubkey}
    {p : KeyedAccount} (codec : TokenCodec) (programId : Pubkey)
    (charges : request.Charged accounts fee charged)
    (before : findAccount address accounts = some p) :
    ∃ n, findAccount address charged = some n ∧
      tokenOf codec programId n = tokenOf codec programId p := by
  cases charges with
  | free =>
      exact ⟨p, before, rfl⟩
  | @fee ixs feePayer payer accounts fee found covered =>
      rw [findAccount_debitPayer, before]
      split
      · exact ⟨_, rfl, rfl⟩
      · exact ⟨p, rfl, rfl⟩

namespace Session

/-- The event holds an instruction that commands the token account. -/
def Event.Commands (programId address : Pubkey) (token : TokenAccount) :
    Event → Prop
  | .process request _ =>
      ∃ ix ∈ request.instructions, ix.Commands programId address token
  | .configure => False

/-- The account at the address has the record, with no fewer tokens. -/
def Holds (codec : TokenCodec) (programId address : Pubkey)
    (token : TokenAccount) (accounts : List KeyedAccount) : Prop :=
  ∃ n, findAccount address accounts = some n ∧
    Grown token (tokenOf codec programId n)

variable {registry : Registry} {codec : TokenCodec}
  {programId address : Pubkey} {program : BuiltinProgram}
  {accounts after : List KeyedAccount} {p : KeyedAccount}
  {token : TokenAccount}

/-- What commands a record does not depend on its amount. -/
theorem Holds.accepted {ix : Instruction}
    (held : Holds codec programId address token accounts)
    (accepted : Accepted registry ix accounts after)
    (tokenProgram : TokenProgramAt codec programId program)
    (linked : registry programId = some program)
    (distinct : (addresses accounts).Nodup)
    (usable : token.state = .initialized)
    (idle : ¬ ix.Commands programId address token) :
    Holds codec programId address token after := by
  obtain ⟨p, before, amount, more, record⟩ := held
  obtain ⟨n, left, grown⟩ :=
    accepted.grown tokenProgram linked distinct before record usable idle
  exact ⟨n, left, grown.trans more⟩

theorem Moves.holds {event : Event}
    (moves : Moves registry event accounts after)
    (tokenProgram : TokenProgramAt codec programId program)
    (linked : registry programId = some program)
    (distinct : (addresses accounts).Nodup)
    (usable : token.state = .initialized)
    (idle : ¬ event.Commands programId address token)
    (held : Holds codec programId address token accounts) :
    Holds codec programId address token after := by
  cases moves with
  | @process request result accounts charged after charges applies =>
      have distinct' : (addresses charged).Nodup :=
        charges.addresses_eq ▸ distinct
      have initial : Holds codec programId address token charged := by
        obtain ⟨p, before, grown⟩ := held
        obtain ⟨n, left, same⟩ := charges.tokenOf_eq codec programId before
        exact ⟨n, left, same ▸ grown⟩
      refine
        applies.invariant (Holds codec programId address token) distinct' ?_
          initial
      intro ix member before left distinctBefore accepted held
      have idleHere : ¬ ix.Commands programId address token :=
        fun commands => idle ⟨ix, member, commands⟩
      exact
        held.accepted accepted tokenProgram linked distinctBefore usable
          idleHere
  | configure =>
      exact held

end Session

end Hopper
