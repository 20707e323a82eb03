import HopperSvm.Session
import HopperSvm.SystemEffects

/-!
A wallet is an account of the system program without data.  An accepted
instruction leaves a wallet that holds lamports as it is, or richer, unless
it goes to the system program and carries the wallet's signature, or that of
a base the wallet's address is derived from.  So over a session in which the
wallet neither signs nor pays a fee it only gains.
-/

namespace Hopper

open HopperSvm Labelled Routine Words

/-- An account of the system program without data. -/
structure Wallet (account : KeyedAccount) : Prop where
  owned : account.owner = systemProgramId
  blank : account.data = []

/-- The second account is the wallet of the first, no poorer. -/
structure Retains (p n : KeyedAccount) : Prop where
  wallet : Wallet n
  lamports : p.lamports ≤ n.lamports

namespace SystemProgram

/-- The address has signed, or a base that derives it has. -/
def Vouched (crates : Crates) (context : InvokeContext)
    (address : Pubkey) : Prop :=
  IsSigner context address ∨
    ∃ base seed owner, crates.createWithSeed base seed owner = .ok address ∧
      IsSigner context base

/-- A wallet that holds lamports is kept or has vouched. -/
def Spares (crates : Crates) (context : InvokeContext) : SlotRelation :=
  fun _ p n => Wallet p → p.lamports ≠ 0 →
    Retains p n ∨ Vouched crates context p.address

section Slots

variable {crates : Crates} {context : InvokeContext} {index : ℕ}
  {p n : KeyedAccount}

theorem Spares.refl : Spares crates context index p p :=
  fun wallet _ => Or.inl ⟨wallet, UInt64.le_refl _⟩

theorem Spares.of_vouched (vouched : Vouched crates context p.address) :
    Spares crates context index p n :=
  fun _ _ => Or.inr vouched

theorem Spares.of_signed (signed : IsSigner context p.address) :
    Spares crates context index p n :=
  .of_vouched (Or.inl signed)

theorem Spares.of_data (holds : p.data ≠ []) :
    Spares crates context index p n :=
  fun wallet _ => absurd wallet.blank holds

theorem Spares.of_unfunded (unfunded : p.lamports = 0) :
    Spares crates context index p n :=
  fun _ funded => absurd unfunded funded

theorem Spares.credit {amount : UInt64} :
    Spares crates context index p
      { p with lamports := saturatingAdd p.lamports amount } := by
  intro wallet _
  refine Or.inl ⟨⟨wallet.owned, wallet.blank⟩, ?_⟩
  have bound := toNat_le_u64Max p.lamports
  rw [UInt64.le_iff_toNat_le, toNat_saturatingAdd]
  exact Nat.le_min.mpr ⟨Nat.le_add_right _ _, bound⟩

variable {slots left : List KeyedAccount} {first written : KeyedAccount}
  {amount : UInt64}

theorem spares_set (atFirst : slots[0]? = some first)
    (own : Spares crates context 0 first written) :
    SlotWise (Spares crates context) slots (slots.set 0 written) :=
  .set_one (fun _ _ _ => .refl) atFirst own

theorem Pays.spares {place : ℕ} (pays : Pays place amount slots left)
    (vouched : ∀ payer, slots[0]? = some payer →
      Vouched crates context payer.address) :
    SlotWise (Spares crates context) slots left := by
  obtain ⟨payer, payee, atPayer, atPayee, _, rfl⟩ := pays
  exact
    .set_two (fun _ _ _ => .refl) atPayer atPayee
      (.of_vouched (vouched payer atPayer)) .credit

theorem Funds.spares (funds : Funds amount slots left)
    (signed : ∀ funder, slots[0]? = some funder →
      IsSigner context funder.address) :
    SlotWise (Spares crates context) slots left := by
  obtain
    ⟨funder, target, bytes, owner, atFunder, atTarget, _, unfunded, _,
     rfl⟩ := funds
  exact
    .set_two (fun _ _ _ => .refl) atFunder atTarget
      (.of_signed (signed funder atFunder)) (.of_unfunded unfunded)

theorem data_ne_nil_of_decoded {data : List UInt8} {stored : NonceState}
    (decoded : decodeNonce data = some stored) : data ≠ [] := by
  intro empty
  have long := length_of_decodeNonce decoded
  rw [empty] at long
  exact absurd long (by decide)

end Slots

section Handlers

variable {crates : Crates} {context : InvokeContext}
  {state final : InvokeState} {data body : List UInt8}

theorem createAccount_signed {funder : KeyedAccount}
    (yields : (createAccount body).Yields context state () final)
    (atFunder : state.accounts[0]? = some funder) :
    IsSigner context funder.address := by
  simp only [createAccount, yields_bind, rejectBuiltin_yields,
    readU64_yields, readPubkey_yields, requireSlots_yields, slot_yields,
    requireSigner_yields, ↓existsAndEq, and_true, exists_const] at yields
  obtain ⟨_, _, _, owner, _, _, funder', atFunder', target, _, signed, _⟩ :=
    yields
  cases atFunder.symm.trans atFunder'
  exact signed

theorem assign_spares
    (yields : (assign body).Yields context state () final) :
    SlotWise (Spares crates context) state.accounts final.accounts := by
  simp only [assign, yields_bind, rejectBuiltin_yields,
    readPubkey_yields, requireSlots_yields, slot_yields,
    requireSigner_yields, requireWritable_yields, writeSlot_yields,
    log_yields, ↓existsAndEq, and_true, exists_const] at yields
  obtain
    ⟨_, owner, _, _, account, atAccount, signed, _, assigned, atAssigned,
     rfl⟩ := yields
  cases atAccount.symm.trans atAssigned
  exact spares_set atAccount (.of_signed signed)

theorem transfer_signed {source : KeyedAccount}
    (yields : (transfer body).Yields context state () final)
    (atSource : state.accounts[0]? = some source) :
    IsSigner context source.address := by
  simp only [transfer, yields_bind, rejectBuiltin_yields, readU64_yields,
    requireSlots_yields, slot_yields, requireSigner_yields, ↓existsAndEq,
    and_true, exists_const] at yields
  obtain ⟨_, _, _, source', atSource', destination, _, signed, _⟩ := yields
  cases atSource.symm.trans atSource'
  exact signed

theorem allocate_spares
    (yields : (allocate body).Yields context state () final) :
    SlotWise (Spares crates context) state.accounts final.accounts := by
  simp only [allocate, yields_bind, rejectBuiltin_yields, readU64_yields,
    requireSlots_yields, slot_yields, requireSigner_yields,
    requireWritable_yields, zeroed_yields, writeSlot_yields, log_yields,
    ↓existsAndEq, and_true, exists_const] at yields
  obtain
    ⟨_, _, _, account, atAccount, signed, _, _, _, allocated, atAllocated,
     rfl⟩ := yields
  cases atAccount.symm.trans atAllocated
  exact spares_set atAccount (.of_signed signed)

theorem createAccountWithSeed_signed {funder : KeyedAccount}
    (yields :
      (createAccountWithSeed crates body).Yields context state () final)
    (atFunder : state.accounts[0]? = some funder) :
    IsSigner context funder.address := by
  simp only [createAccountWithSeed, yields_bind, rejectBuiltin_yields,
    addUsize_yields, slice_yields, orBuiltin_yields, readU64_yields,
    readPubkey_yields, requireSlots_yields, slot_yields,
    requireSigner_yields, ↓existsAndEq, and_true, exists_const] at yields
  obtain
    ⟨_, base, _, _, _, _, _, _, seed, _, _, _, owner, _, _, funder',
     atFunder', target, atTarget, derived, _, _, signed, _⟩ := yields
  cases atFunder.symm.trans atFunder'
  exact signed

theorem assignWithSeed_spares
    (yields :
      (assignWithSeed crates body).Yields context state () final) :
    SlotWise (Spares crates context) state.accounts final.accounts := by
  simp only [assignWithSeed, ne_eq, yields_bind, rejectBuiltin_yields,
    addUsize_yields, slice_yields, orBuiltin_yields, readU64_yields,
    readPubkey_yields, requireSlots_yields, slot_yields,
    requireSigner_yields, requireWritable_yields, writeSlot_yields,
    log_yields, Decidable.not_not, ↓existsAndEq, and_true, true_and,
    exists_const] at yields
  obtain
    ⟨_, base, _, _, _, _, _, _, seed, _, owner, _, _, target, atTarget, _,
     signed, derived, assigned, atAssigned, rfl⟩ := yields
  cases atTarget.symm.trans atAssigned
  have vouched : Vouched crates context target.address :=
    Or.inr ⟨base, seed, owner, derived, signed⟩
  exact spares_set atTarget (.of_vouched vouched)

theorem transferWithSeed_vouched {source : KeyedAccount}
    (yields :
      (transferWithSeed crates body).Yields context state () final)
    (atSource : state.accounts[0]? = some source) :
    Vouched crates context source.address := by
  simp only [transferWithSeed, ne_eq, yields_bind, rejectBuiltin_yields,
    addUsize_yields, slice_yields, orBuiltin_yields, readU64_yields,
    readPubkey_yields, requireSlots_yields, slot_yields,
    requireSigner_yields, requireWritable_yields, Decidable.not_not,
    ↓existsAndEq, and_true, true_and, exists_const] at yields
  obtain
    ⟨_, _, _, _, _, _, _, seed, _, fromOwner, _, _, source', atSource',
     fromBase, _, destination, _, _, _, signed, derived, _⟩ := yields
  cases atSource.symm.trans atSource'
  exact Or.inr ⟨fromBase.address, seed, fromOwner, derived, signed⟩

theorem initializeNonceAccount_spares
    (yields :
      (initializeNonceAccount crates body).Yields context state ()
        final) :
    SlotWise (Spares crates context) state.accounts final.accounts := by
  simp only [initializeNonceAccount, clockSlot, yields_bind,
    rejectBuiltin_yields, readPubkey_yields, requireSlots_yields,
    slot_yields, requireWritable_yields, readNonceState_yields,
    environment_yields, yields_pure, writeSlot_yields, log_yields,
    ↓existsAndEq, and_true, true_and, exists_const] at yields
  obtain
    ⟨_, authority, _, _, nonce, atNonce, _, _, stored, decoded, _, opened,
     atOpened, rfl⟩ := yields
  cases atNonce.symm.trans atOpened
  exact spares_set atNonce (.of_data (data_ne_nil_of_decoded decoded))

theorem advanceNonceAccount_spares
    (yields :
      (advanceNonceAccount crates).Yields context state () final) :
    SlotWise (Spares crates context) state.accounts final.accounts := by
  simp only [advanceNonceAccount, clockSlot, yields_bind,
    rejectBuiltin_yields, requireSlots_yields, slot_yields,
    requireWritable_yields, requireSigner_yields, readNonceState_yields,
    environment_yields, yields_pure, writeSlot_yields, log_yields,
    ↓existsAndEq, and_true, true_and, exists_const] at yields
  obtain
    ⟨_, nonce, atNonce, authority, _, _, _, stored, decoded, _, _,
     advanced, atAdvanced, rfl⟩ := yields
  cases atNonce.symm.trans atAdvanced
  exact spares_set atNonce (.of_data (data_ne_nil_of_decoded decoded))

theorem withdrawNonceAccount_spares
    (yields : (withdrawNonceAccount body).Yields context state () final) :
    SlotWise (Spares crates context) state.accounts final.accounts := by
  simp only [withdrawNonceAccount, yields_bind, rejectBuiltin_yields,
    readU64_yields, requireSlots_yields, slot_yields,
    requireWritable_yields, requireSigner_yields, readNonceState_yields,
    requireFunds_yields, writeSlot_yields, log_yields, ↓existsAndEq,
    and_true, exists_const] at yields
  obtain
    ⟨_, _, _, nonce, atNonce, destination, atDestination, authority, _, _,
     _, _, stored, decoded, _, _, debited, atDebited, credited, atCredited,
     rfl⟩ := yields
  cases atNonce.symm.trans atDebited
  rw [List.getElem?_set_ne (by decide)] at atCredited
  cases atDestination.symm.trans atCredited
  exact
    .set_two (fun _ _ _ => .refl) atNonce atDestination
      (.of_data (data_ne_nil_of_decoded decoded)) .credit

theorem authorizeNonceAccount_spares
    (yields : (authorizeNonceAccount body).Yields context state () final) :
    SlotWise (Spares crates context) state.accounts final.accounts := by
  simp only [authorizeNonceAccount, yields_bind, rejectBuiltin_yields,
    readPubkey_yields, requireSlots_yields, slot_yields,
    requireWritable_yields, requireSigner_yields, readNonceState_yields,
    writeSlot_yields, log_yields, ↓existsAndEq, and_true, exists_const]
    at yields
  obtain
    ⟨_, newAuthority, _, _, nonce, atNonce, authority, _, _, _, stored,
     decoded, _, _, authorized, atAuthorized, rfl⟩ := yields
  cases atNonce.symm.trans atAuthorized
  exact spares_set atNonce (.of_data (data_ne_nil_of_decoded decoded))

theorem upgradeNonceAccount_spares
    (yields : upgradeNonceAccount.Yields context state () final) :
    SlotWise (Spares crates context) state.accounts final.accounts := by
  simp only [upgradeNonceAccount, yields_bind, requireSlots_yields,
    slot_yields, requireWritable_yields, ↓existsAndEq, and_true,
    exists_const] at yields
  obtain ⟨_, nonce, atNonce, _, ran⟩ := yields
  by_cases long : 4 ≤ nonce.data.length
  · rw [if_pos long] at ran
    simp only [yields_bind, writeSlot_yields, log_yields, ↓existsAndEq,
      and_true, exists_const] at ran
    obtain ⟨upgraded, atUpgraded, rfl⟩ := ran
    cases atNonce.symm.trans atUpgraded
    have holds : nonce.data ≠ [] := by
      intro empty
      rw [empty] at long
      exact absurd long (by decide)
    exact spares_set atNonce (.of_data holds)
  · rw [if_neg long, log_yields] at ran
    subst ran
    exact SlotWise.refl (fun _ _ => .refl) _

/-- An accepted instruction of the system program spares the wallets that
have not vouched. -/
theorem invoke_spares
    (yields : (invoke crates data).Yields context state () final) :
    SlotWise (Spares crates context) state.accounts final.accounts := by
  simp only [invoke, yields_bind, rejectBuiltin_yields, readU32_yields,
    ↓existsAndEq, and_true, exists_const] at yields
  obtain ⟨_, _, ran⟩ := yields
  split at ran
  · exact (createAccount_funds ran).spares fun _ => createAccount_signed ran
  · exact assign_spares ran
  · refine (transfer_pays ran).spares ?_
    intro source atSource
    exact Or.inl (transfer_signed ran atSource)
  · exact
      (createAccountWithSeed_funds ran).spares fun _ =>
        createAccountWithSeed_signed ran
  · exact advanceNonceAccount_spares ran
  · exact withdrawNonceAccount_spares ran
  · exact initializeNonceAccount_spares ran
  · exact authorizeNonceAccount_spares ran
  · exact allocate_spares ran
  · exact assignWithSeed_spares ran
  · exact
      (transferWithSeed_pays ran).spares fun _ =>
        transferWithSeed_vouched ran
  · exact upgradeNonceAccount_spares ran
  · simp at ran

end Handlers

end SystemProgram

/-! ## Accepted instructions -/

/-- Some meta of the instruction signs with the key. -/
def Instruction.Signs (ix : Instruction) (key : Pubkey) : Prop :=
  ∃ accountMeta ∈ ix.accounts,
    accountMeta.pubkey = key ∧ accountMeta.isSigner = true

/-- An instruction to the system program that the address signs, or a base
that derives it. -/
def Instruction.Uses (crates : Crates) (ix : Instruction)
    (address : Pubkey) : Prop :=
  ix.programId = systemProgramId ∧
    (ix.Signs address ∨
      ∃ base seed owner,
        crates.createWithSeed base seed owner = .ok address ∧
          ix.Signs base)

theorem Instruction.uses_of_vouched {crates : Crates} {ix : Instruction}
    {address : Pubkey} {context : InvokeContext}
    (toSystem : ix.programId = systemProgramId)
    (sameMetas : context.accountMetas = ix.accounts)
    (vouched : SystemProgram.Vouched crates context address) :
    ix.Uses crates address := by
  have signs {key : Pubkey} (signer : IsSigner context key) :
      ix.Signs key := by
    have flagged := exists_meta_of_first signer
    rwa [sameMetas] at flagged
  refine ⟨toSystem, ?_⟩
  cases vouched with
  | inl own =>
      exact Or.inl (signs own)
  | inr derived =>
      obtain ⟨base, seed, owner, derives, signer⟩ := derived
      exact Or.inr ⟨base, seed, owner, derives, signs signer⟩

section Accepting

variable {registry : Registry} {crates : Crates} {ix : Instruction}
  {accounts after : List KeyedAccount} {address : Pubkey}
  {p n : KeyedAccount}

theorem Retains.of_isolated (isolated : Isolated p n) (wallet : Wallet p) :
    Retains p n :=
  ⟨⟨isolated.owner.trans wallet.owned, isolated.data.trans wallet.blank⟩,
    isolated.lamports⟩

/-- An accepted instruction that does not use a wallet keeps it. -/
theorem Accepted.retains
    (accepted : Accepted registry ix accounts after)
    (linked : registry systemProgramId = some (systemProgram crates))
    (distinct : (addresses accounts).Nodup)
    (before : findAccount address accounts = some p) (wallet : Wallet p)
    (funded : p.lamports ≠ 0) (unused : ¬ ix.Uses crates address) :
    ∃ n, findAccount address after = some n ∧ Retains p n := by
  obtain ⟨n, left⟩ := accepted.exists_account before
  refine ⟨n, left, ?_⟩
  by_cases toSystem : ix.programId = systemProgramId
  · cases accepted with
    | «by» found bundled strict succeeds =>
        rw [toSystem, linked] at found
        cases found
        rcases succeeds.reached.merged_slot bundled.keepsAddresses before
            left with ⟨_, same⟩ | ⟨index, atReceived, atLeft, _⟩
        · rw [same]
          exact ⟨wallet, UInt64.le_refl _⟩
        · have spares :=
            SystemProgram.invoke_spares succeeds.reached.invoked index p n
              atReceived atLeft wallet funded
          rcases spares with kept | vouched
          · exact kept
          · have named : p.address = address :=
              KeyedList.key_of_lookup KeyedAccount.address before
            rw [named] at vouched
            exact
              absurd (Instruction.uses_of_vouched toSystem rfl vouched)
                unused
  · have foreign : p.owner ≠ ix.programId := by
      rw [wallet.owned]
      exact Ne.symm toSystem
    have inUse : ¬ Fresh p := fun fresh => funded fresh.1
    have isolated := accepted.isolated distinct before left foreign inUse
    exact .of_isolated isolated wallet

end Accepting

/-- The event uses the wallet at the address, or takes a fee from it. -/
def Session.Event.Uses (crates : Crates) (address : Pubkey) :
    Session.Event → Prop
  | .process request _ =>
      request.feePayer = some address ∨
        ∃ ix ∈ request.instructions, ix.Uses crates address
  | .configure => False

theorem Retains.trans {p m n : KeyedAccount} (first : Retains p m)
    (second : Retains m n) : Retains p n :=
  ⟨second.wallet, UInt64.le_trans first.lamports second.lamports⟩

theorem Retains.funded {p n : KeyedAccount} (retains : Retains p n)
    (funded : p.lamports ≠ 0) : n.lamports ≠ 0 := by
  have more := UInt64.le_iff_toNat_le.mp retains.lamports
  intro empty
  rw [empty, UInt64.toNat_zero, Nat.le_zero] at more
  exact funded (UInt64.toNat_inj.mp more)

namespace Session

/-- The account at the address is the wallet that it was, no poorer. -/
def Kept (address : Pubkey) (p : KeyedAccount)
    (accounts : List KeyedAccount) : Prop :=
  ∃ n, findAccount address accounts = some n ∧ Retains p n

theorem Moves.kept {registry : Registry} {crates : Crates} {event : Event}
    {accounts after : List KeyedAccount} {address : Pubkey}
    {p : KeyedAccount} (moves : Moves registry event accounts after)
    (linked : registry systemProgramId = some (systemProgram crates))
    (distinct : (addresses accounts).Nodup)
    (unused : ¬ event.Uses crates address) (funded : p.lamports ≠ 0)
    (kept : Kept address p accounts) : Kept address p after := by
  cases moves with
  | @process request result accounts charged after charges applies =>
      have notPayer : request.feePayer ≠ some address :=
        fun pays => unused (Or.inl pays)
      have distinct' : (addresses charged).Nodup :=
        charges.addresses_eq ▸ distinct
      have initial : Kept address p charged := by
        obtain ⟨n, found, retains⟩ := kept
        exact ⟨n, (charges.frame notPayer).trans found, retains⟩
      refine applies.invariant (Kept address p) distinct' ?_ initial
      intro ix member before left distinctBefore accepted kept
      obtain ⟨n, found, retains⟩ := kept
      have unusedHere : ¬ ix.Uses crates address :=
        fun uses => unused (Or.inr ⟨ix, member, uses⟩)
      obtain ⟨n', found', retains'⟩ :=
        accepted.retains linked distinctBefore found retains.wallet
          (retains.funded funded) unusedHere
      exact ⟨n', found', retains.trans retains'⟩
  | configure =>
      exact kept

/-- At the end of a session a wallet that held lamports is still one, no
poorer, unless some step used it or took a fee from it. -/
theorem wallet_kept {crates : Crates} {start finish : Session}
    {entries : List (Entry Session Event)}
    (run : Trace Step start entries finish) (sound : start.Sound)
    (linked :
      start.svm.registry systemProgramId = some (systemProgram crates))
    {address : Pubkey} {p : KeyedAccount}
    (before : findAccount address start.accounts = some p)
    (wallet : Wallet p) (funded : p.lamports ≠ 0) :
    (∃ n, findAccount address finish.accounts = some n ∧ Wallet n ∧
        p.lamports ≤ n.lamports) ∨
      ∃ entry ∈ entries, entry.event.Uses crates address := by
  by_cases used : ∃ entry ∈ entries, entry.event.Uses crates address
  · exact Or.inr used
  · have initial : Kept address p start.accounts :=
      ⟨p, before, wallet, UInt64.le_refl _⟩
    have each : ∀ entry ∈ entries, ¬ entry.event.Uses crates address :=
      fun entry member uses => used ⟨entry, member, uses⟩
    obtain ⟨n, found, retains⟩ :=
      invariant (Kept address p) run sound each
        (fun event accounts after unused distinct moves kept =>
          moves.kept linked distinct unused funded kept)
        initial
    exact Or.inl ⟨n, found, retains.wallet, retains.lamports⟩

open Simulator in
theorem wallet_kept_receiver :
    ∃ result finish,
      Trace Step payingSession
          [⟨payingSession, .process payingRequest result, finish⟩]
          finish ∧
        ((∃ n, findAccount receiverAddress finish.accounts = some n ∧
            Wallet n ∧ 7 ≤ n.lamports) ∨
          ∃ entry ∈ [(⟨payingSession, .process payingRequest result,
              finish⟩ : Entry Session Event)],
            entry.event.Uses Creation.idleCrates receiverAddress) := by
  obtain ⟨result, finish, run⟩ :
      ∃ result finish,
        Trace Step payingSession
          [⟨payingSession, .process payingRequest result, finish⟩]
          finish :=
    ⟨_, ⟨_, _⟩, .cons ⟨rfl, rfl⟩ .nil⟩
  have before :
      findAccount receiverAddress payingSession.accounts =
        some (walletOf receiverAddress 7) := by
    decide
  exact
    ⟨result, finish, run,
      wallet_kept run payingSession_sound rfl before ⟨rfl, rfl⟩
        (by decide)⟩

end Session

end Hopper
