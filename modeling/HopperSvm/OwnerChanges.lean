import HopperSvm.LamportAudit

/-!
The owner of an account is written in few ways.  A closing gives it to the
system program, and a program that makes an account its own writes its own
ID.  An `Assign` hands over a system account as it is.  A creation fills the
account with zeros, or, by the associated-token-account program, with a
record without tokens.  Every other write of a bundled program keeps the
owner.
-/

namespace Hopper

open Procedure Routine

/-- The owner is kept, or it becomes the system program. -/
def OwnerStays (p n : KeyedAccount) : Prop :=
  n.owner = p.owner ∨ n.owner = systemProgramId

theorem OwnerStays.trans {p m n : KeyedAccount} (first : OwnerStays p m)
    (second : OwnerStays m n) : OwnerStays p n := by
  rcases second with same | closed
  · rw [OwnerStays, same]
    exact first
  · exact Or.inr closed

/-- No slot comes to an owner other than the system program. -/
def OwnersStay (before after : InvokeState) : Prop :=
  ∀ index : ℕ,
    Option.Rel OwnerStays before.accounts[index]? after.accounts[index]?

theorem OwnersStay.of_same {before after : InvokeState}
    (same : after.accounts = before.accounts) :
    OwnersStay before after := by
  intro index
  rw [same]
  cases before.accounts[index]? with
  | none =>
      exact .none
  | some account =>
      exact .some (Or.inl rfl)

instance : Std.Refl OwnersStay := ⟨fun _ => .of_same rfl⟩

theorem OwnersStay.trans {before middle after : InvokeState}
    (first : OwnersStay before middle) (second : OwnersStay middle after) :
    OwnersStay before after := by
  intro index
  have first := first index
  have second := second index
  generalize before.accounts[index]? = left at *
  generalize middle.accounts[index]? = between at *
  generalize after.accounts[index]? = right at *
  cases first with
  | none =>
      exact second
  | some one =>
      cases second with
      | some other =>
          exact .some (one.trans other)

instance : IsTrans InvokeState OwnersStay :=
  ⟨fun _ _ _ => OwnersStay.trans⟩

namespace Routine

variable {α β : Type}

/-- The routine keeps the owners, however it ends. -/
class KeepsOwners (routine : Routine α) : Prop where
  kept : Keeps OwnersStay routine.run

/-- The update keeps the owner. -/
class SettlesOwner (update : KeyedAccount → KeyedAccount) : Prop where
  stays : ∀ account, OwnerStays account (update account)

instance {lamports : KeyedAccount → UInt64}
    {data : KeyedAccount → List UInt8}
    {executable : KeyedAccount → Bool} {rentEpoch : KeyedAccount → UInt64} :
    SettlesOwner fun account =>
      { address := account.address
        lamports := lamports account
        data := data account
        owner := account.owner
        executable := executable account
        rentEpoch := rentEpoch account } where
  stays _ := Or.inl rfl

instance {lamports : KeyedAccount → UInt64}
    {data : KeyedAccount → List UInt8}
    {executable : KeyedAccount → Bool} {rentEpoch : KeyedAccount → UInt64} :
    SettlesOwner fun account =>
      { address := account.address
        lamports := lamports account
        data := data account
        owner := systemProgramId
        executable := executable account
        rentEpoch := rentEpoch account } where
  stays _ := Or.inr rfl

/-- What follows a step that keeps the owners. -/
theorem KeepsOwners.after {first : Routine α} {next : α → Routine β}
    [KeepsOwners first] (rest : ∀ value, KeepsOwners (next value)) :
    KeepsOwners (first >>= next) where
  kept := Keeps.bind KeepsOwners.kept fun value => (rest value).kept

instance (priority := low) {routine : Routine α} [ReadOnly routine] :
    KeepsOwners routine where
  kept := ReadOnly.unchanged.mono fun same => .of_same (by rw [same])

instance {condition : Prop} [Decidable condition]
    {first second : Routine α} [KeepsOwners first] [KeepsOwners second] :
    KeepsOwners (if condition then first else second) := by
  split <;> infer_instance

instance (message : String) : KeepsOwners (log message) where
  kept := Keeps.modify fun _ => .of_same rfl

instance (index : Nat) (update : KeyedAccount → KeyedAccount)
    [SettlesOwner update]
    (sameAddress : ∀ account,
      (update account).address = account.address) :
    KeepsOwners (writeSlot index update sameAddress) where
  kept := by
    apply Handler.writeSlot_keeps
    intro state account found place
    dsimp only
    by_cases same : index = place
    · subst same
      rw [List.getElem?_set_self', found]
      have settled : OwnerStays account (update account) :=
        SettlesOwner.stays account
      exact .some settled
    · rw [List.getElem?_set_ne same]
      exact OwnersStay.of_same rfl place

/-- What a routine that keeps the owners leaves in a slot. -/
theorem KeepsOwners.slotWise {routine : Routine α} [KeepsOwners routine]
    {context : InvokeContext} {state final : InvokeState} {value : α}
    (yields : routine.Yields context state value final) :
    SlotWise (fun _ => OwnerStays) state.accounts final.accounts := by
  have kept : OwnersStay state final :=
    KeepsOwners.kept context state (.ok value) final yields
  intro index p n before after
  have stays := kept index
  rw [before, after] at stays
  cases stays with
  | some stays =>
      exact stays

end Routine

namespace SystemProgram

section Keeps

variable (crates : Crates) (body : List UInt8)

instance : KeepsOwners (transfer body) := by
  simp only [transfer]
  repeat refine .after fun _ => ?_
  infer_instance

instance : KeepsOwners (allocate body) := by
  simp only [allocate]
  repeat refine .after fun _ => ?_
  infer_instance

instance : KeepsOwners (transferWithSeed crates body) := by
  simp only [transferWithSeed]
  repeat refine .after fun _ => ?_
  infer_instance

instance : KeepsOwners (advanceNonceAccount crates) := by
  simp only [advanceNonceAccount]
  repeat refine .after fun _ => ?_
  infer_instance

instance : KeepsOwners (withdrawNonceAccount body) := by
  simp only [withdrawNonceAccount]
  repeat refine .after fun _ => ?_
  infer_instance

instance : KeepsOwners (initializeNonceAccount crates body) := by
  simp only [initializeNonceAccount]
  repeat refine .after fun _ => ?_
  infer_instance

instance : KeepsOwners (authorizeNonceAccount body) := by
  simp only [authorizeNonceAccount]
  repeat refine .after fun _ => ?_
  infer_instance

instance : KeepsOwners upgradeNonceAccount := by
  rw [upgradeNonceAccount]
  repeat refine .after fun _ => ?_
  dsimp only
  split
  · exact .after fun _ => inferInstance
  · infer_instance

end Keeps

end SystemProgram

namespace SplToken

variable (codec : TokenCodec) (body : List UInt8)

instance {α : Type} {len : ℕ} (pack : Pack α len) (index : ℕ)
    (record : α) : KeepsOwners (writeRecord pack index record) := by
  simp only [writeRecord]
  repeat refine .after fun _ => ?_
  infer_instance

instance (index : ℕ) (mint : Mint) :
    KeepsOwners (writeMint codec index mint) := by
  simp only [writeMint]
  repeat refine .after fun _ => ?_
  infer_instance

instance (index : ℕ) (token : TokenAccount) :
    KeepsOwners (writeTokenAccount codec index token) := by
  simp only [writeTokenAccount]
  repeat refine .after fun _ => ?_
  infer_instance

instance : KeepsOwners (transfer codec body) := by
  simp only [transfer]
  repeat refine .after fun _ => ?_
  infer_instance

instance : KeepsOwners (approve codec body) := by
  simp only [approve]
  repeat refine .after fun _ => ?_
  infer_instance

instance : KeepsOwners (revoke codec) := by
  simp only [revoke]
  repeat refine .after fun _ => ?_
  infer_instance

instance : KeepsOwners (mintTo codec body) := by
  simp only [mintTo]
  repeat refine .after fun _ => ?_
  infer_instance

instance : KeepsOwners (burn codec body) := by
  simp only [burn]
  repeat refine .after fun _ => ?_
  infer_instance

instance : KeepsOwners (closeAccount codec) := by
  simp only [closeAccount]
  repeat refine .after fun _ => ?_
  infer_instance

end SplToken

instance (data : List UInt8) : KeepsOwners (ConfigProgram.invoke data) := by
  simp only [ConfigProgram.invoke]
  repeat refine .after fun _ => ?_
  infer_instance

/-! ## How an account comes to an owner -/

/-- What lets a slot hold an account of an owner it did not have. -/
inductive Adopts (codec : TokenCodec) (id : Pubkey)
    (context : InvokeContext) (data : List UInt8) : SlotRelation
  | stays {index : Nat} {p n : KeyedAccount} (stays : OwnerStays p n) :
      Adopts codec id context data index p n
  | home {index : Nat} {p n : KeyedAccount}
      (own : n.owner = context.programId) :
      Adopts codec id context data index p n
  | zeros {index : Nat} {p n : KeyedAccount} {length : Nat}
      (created : n.data = List.replicate length 0) :
      Adopts codec id context data index p n
  | assigned {p n : KeyedAccount} (system : id = systemProgramId)
      (taking : SystemProgram.takingOf data = .reassign n.owner)
      (same : n.data = p.data) :
      Adopts codec id context data 0 p n
  | opened {index : Nat} {p n : KeyedAccount} {mint wallet : Pubkey}
      (unpacks : codec.account.unpack n.data =
        .ok (AtaProgram.openedToken mint wallet)) :
      Adopts codec id context data index p n

section Adopts

variable {codec : TokenCodec} {id : Pubkey} {context : InvokeContext}
  {state final : InvokeState} {data : List UInt8}

theorem Adopts.refl (index : Nat) (p : KeyedAccount) :
    Adopts codec id context data index p p :=
  .stays (Or.inl rfl)

theorem adopts_of_keepsOwners {routine : Routine Unit}
    [KeepsOwners routine]
    (yields : routine.Yields context state () final) :
    SlotWise (Adopts codec id context data) state.accounts
      final.accounts :=
  fun index p n before after =>
    .stays (KeepsOwners.slotWise yields index p n before after)

namespace SystemProgram

variable {crates : Crates}

theorem createAccount_adopts {body : List UInt8}
    (yields : (createAccount body).Yields context state () final) :
    SlotWise (Adopts codec id context data) state.accounts
      final.accounts := by
  simp only [createAccount, ne_eq, yields_bind, rejectBuiltin_yields,
    readU64_yields, readPubkey_yields, requireSlots_yields, slot_yields,
    requireSigner_yields, requireWritable_yields, requireFunds_yields,
    zeroed_yields, writeSlot_yields, log_yields, ↓existsAndEq, and_true,
    exists_const] at yields
  obtain
    ⟨_, _, _, owner, _, _, funder, atFunder, target, atTarget, _, _, _, _,
     _, _, _, debited, atDebited, created, atCreated, rfl⟩ := yields
  cases atFunder.symm.trans atDebited
  rw [List.getElem?_set_ne (by decide)] at atCreated
  cases atTarget.symm.trans atCreated
  exact
    .set_two (fun slot p _ => .refl slot p) atFunder atTarget
      (.stays (Or.inl rfl)) (.zeros rfl)

theorem createAccountWithSeed_adopts {body : List UInt8}
    (yields :
      (createAccountWithSeed crates body).Yields context state () final) :
    SlotWise (Adopts codec id context data) state.accounts
      final.accounts := by
  simp only [createAccountWithSeed, ne_eq, yields_bind,
    rejectBuiltin_yields, addUsize_yields, slice_yields, orBuiltin_yields,
    readU64_yields, readPubkey_yields, requireSlots_yields, slot_yields,
    requireSigner_yields, requireWritable_yields, Decidable.not_not,
    ↓existsAndEq, and_true, true_and, exists_const] at yields
  obtain
    ⟨_, base, _, _, _, _, _, _, seed, _, _, _, owner, _, _, funder,
     atFunder, target, atTarget, _, _, _, _, ran⟩ := yields
  have created := yields_of_requireSigner_if ran
  simp only [yields_bind, requireFunds_yields, rejectBuiltin_yields,
    zeroed_yields, writeSlot_yields, log_yields, ↓existsAndEq, and_true,
    exists_const] at created
  obtain
    ⟨_, _, _, debited, atDebited, opened, atOpened, rfl⟩ := created
  cases atFunder.symm.trans atDebited
  rw [List.getElem?_set_ne (by decide)] at atOpened
  cases atTarget.symm.trans atOpened
  exact
    .set_two (fun slot p _ => .refl slot p) atFunder atTarget
      (.stays (Or.inl rfl)) (.zeros rfl)

theorem assign_adopts (system : id = systemProgramId)
    (tag : tagOf data = 1)
    (yields : (assign (data.drop 4)).Yields context state () final) :
    SlotWise (Adopts codec id context data) state.accounts
      final.accounts := by
  simp only [assign, yields_bind, rejectBuiltin_yields,
    readPubkey_yields, requireSlots_yields, slot_yields,
    requireSigner_yields, requireWritable_yields, writeSlot_yields,
    log_yields, ↓existsAndEq, and_true, exists_const] at yields
  obtain
    ⟨_, owner, ⟨_, read⟩, _, account, atAccount, _, _, assigned,
     atAssigned, rfl⟩ := yields
  cases atAccount.symm.trans atAssigned
  have taking : takingOf data = .reassign owner := by
    rw [takingOf, tag]
    simp only [pubkeyAt_body read, Option.getD_some]
  exact
    .set_one (fun slot p _ => .refl slot p) atAccount
      (.assigned system taking rfl)

theorem assignWithSeed_adopts (system : id = systemProgramId)
    (tag : tagOf data = 9)
    (yields :
      (assignWithSeed crates (data.drop 4)).Yields context state ()
        final) :
    SlotWise (Adopts codec id context data) state.accounts
      final.accounts := by
  simp only [assignWithSeed, ne_eq, yields_bind, rejectBuiltin_yields,
    addUsize_yields, slice_yields, orBuiltin_yields, readU64_yields,
    readPubkey_yields, requireSlots_yields, slot_yields,
    requireSigner_yields, requireWritable_yields, writeSlot_yields,
    log_yields, u64At_body, Decidable.not_not, ↓existsAndEq, and_true,
    true_and, exists_const] at yields
  obtain
    ⟨_, base, _, _, _, _, _, _, seed, _, owner, ⟨_, read⟩, _, target,
     atTarget, _, _, _, assigned, atAssigned, rfl⟩ := yields
  cases atTarget.symm.trans atAssigned
  have stored := pubkeyAt_body read
  rw [← Nat.add_assoc] at stored
  have taking : takingOf data = .reassign owner := by
    rw [takingOf, tag, behindSeed]
    exact congrArg Taking.reassign (congrArg (Option.getD · _) stored)
  exact
    .set_one (fun slot p _ => .refl slot p) atTarget
      (.assigned system taking rfl)

theorem invoke_adopts (system : id = systemProgramId)
    (yields : (invoke crates data).Yields context state () final) :
    SlotWise (Adopts codec id context data) state.accounts
      final.accounts := by
  simp only [invoke, yields_bind, rejectBuiltin_yields, readU32_yields,
    ↓existsAndEq, and_true, exists_const] at yields
  obtain ⟨_, _, ran⟩ := yields
  simp only [tagOf_eq] at ran
  split at ran
  · exact createAccount_adopts ran
  · exact assign_adopts system ‹_› ran
  · exact adopts_of_keepsOwners ran
  · exact createAccountWithSeed_adopts ran
  · exact adopts_of_keepsOwners ran
  · exact adopts_of_keepsOwners ran
  · exact adopts_of_keepsOwners ran
  · exact adopts_of_keepsOwners ran
  · exact adopts_of_keepsOwners ran
  · exact assignWithSeed_adopts system ‹_› ran
  · exact adopts_of_keepsOwners ran
  · exact adopts_of_keepsOwners ran
  · simp at ran

end SystemProgram

namespace SplToken

variable {programCodec : TokenCodec} {body : List UInt8}

theorem initializeMint_adopts
    (yields :
      (initializeMint programCodec body).Yields context state () final) :
    SlotWise (Adopts codec id context data) state.accounts
      final.accounts := by
  simp only [initializeMint, yields_bind, rejectBuiltin_yields, not_lt,
    requireSlots_yields, slot_yields, requireWritable_yields,
    expect_yields, readPubkey_yields, environment_yields,
    writeSlot_yields, log_yields, ↓existsAndEq, and_true, true_and,
    exists_const] at yields
  obtain
    ⟨_, _, first, atFirst, _, _, _, _, _, _, _, readFreeze, _, _, _,
     middle, wrote, claimed, atClaimed, rfl⟩ := yields
  cases state_of_readFreezeAuthority readFreeze
  obtain ⟨first', _, owned, _, written⟩ :=
    writeRecord_claimed (by rw [programCodec.mint_isInitialized]) atFirst
      wrote atClaimed context.programId
  rw [written]
  exact
    .set_one (fun slot p _ => .refl slot p) atFirst (.home owned)

theorem initializeAccount_adopts
    (yields :
      (initializeAccount programCodec).Yields context state () final) :
    SlotWise (Adopts codec id context data) state.accounts
      final.accounts := by
  simp only [initializeAccount, yields_bind, rejectBuiltin_yields, not_lt,
    requireSlots_yields, slot_yields, requireWritable_yields,
    readMint_yields, environment_yields, writeSlot_yields, log_yields,
    ↓existsAndEq, and_true, true_and, exists_const] at yields
  obtain
    ⟨_, first, atFirst, _, _, _, _, _, _, _, _, _, _, _, middle, wrote,
     claimed, atClaimed, rfl⟩ := yields
  obtain ⟨first', _, owned, _, written⟩ :=
    writeRecord_claimed (isInitialized_token (by simp)) atFirst wrote
      atClaimed context.programId
  rw [written]
  exact
    .set_one (fun slot p _ => .refl slot p) atFirst (.home owned)

theorem invoke_adopts
    (yields : (invoke programCodec data).Yields context state () final) :
    SlotWise (Adopts codec id context data) state.accounts
      final.accounts := by
  cases data with
  | nil =>
      simp [invoke] at yields
  | cons tag body =>
      unfold invoke at yields
      dsimp only at yields
      split at yields
      · exact initializeMint_adopts yields
      · exact initializeAccount_adopts yields
      · exact adopts_of_keepsOwners yields
      · exact adopts_of_keepsOwners yields
      · exact adopts_of_keepsOwners yields
      · exact adopts_of_keepsOwners yields
      · exact adopts_of_keepsOwners yields
      · exact adopts_of_keepsOwners yields
      · simp at yields

end SplToken

theorem AltProgram.Change.adopts {index : Nat} {p n : KeyedAccount}
    (change : Change context data index p n) :
    Adopts codec id context data index p n := by
  cases change with
  | create tag blank =>
      exact .home rfl
  | close tag read signed closeable =>
      exact .stays (Or.inr rfl)
  | _ =>
      exact .stays (Or.inl rfl)

theorem StakeProgram.Change.adopts {index : Nat} {p n : KeyedAccount}
    (change : Change context data index p n) :
    Adopts codec id context data index p n := by
  cases change with
  | _ =>
      exact .stays (Or.inl rfl)

theorem VoteProgram.Change.adopts {index : Nat} {p n : KeyedAccount}
    {minimumBalance : Rent → Nat → UInt64}
    (change : Change minimumBalance context data index p n) :
    Adopts codec id context data index p n := by
  cases change with
  | _ =>
      exact .stays (Or.inl rfl)

/-- Only a creation changes an owner, and the record it packs is empty. -/
theorem AtaProgram.invoke_adopts
    {findProgramAddress : FindProgramAddress}
    (yields :
      (invoke codec findProgramAddress data).Yields context state ()
        final) :
    SlotWise (Adopts codec id context data) state.accounts
      final.accounts := by
  obtain ⟨idempotent, _, slots, _, ran⟩ := invoke_yields.mp yields
  by_cases fresh : Fresh slots.ata
  · rw [if_pos fresh] at ran
    obtain ⟨packed, unpacks, left⟩ :=
      accounts_of_create slots.atFunding slots.atAta ran
    rw [left]
    exact
      .set_two (fun slot p _ => .refl slot p) slots.atFunding slots.atAta
        (.stays (Or.inl rfl)) (.opened unpacks)
  · rw [if_neg fresh] at ran
    obtain ⟨_, _, _, rfl⟩ := acceptExisting_yields.mp ran
    exact SlotWise.refl Adopts.refl _

end Adopts

/-- The bundled programs other than the associated-token-account program,
which packs by its own codec. -/
theorem BundledAt.adopts {id : Pubkey} {program : BuiltinProgram}
    (bundled : BundledAt id program) (notAta : id ≠ ataProgramId)
    (codec : TokenCodec) : program.Effects (Adopts codec id) := by
  cases bundled with
  | system crates =>
      exact
        BuiltinProgram.effects_ofRoutine fun _ _ _ _ =>
          SystemProgram.invoke_adopts rfl
  | computeBudget =>
      intro data context state final ran
      have ended :=
        (ComputeBudgetProgram.invoke_eq data context state).symm.trans ran
      split at ended
      · cases ended
        exact SlotWise.refl Adopts.refl _
      · cases ended
  | alt createProgramAddress =>
      intro data context state final ran index p n before after
      exact
        (altProgramSimulator_effects createProgramAddress data context
          state final ran index p n before after).adopts
  | config =>
      exact
        BuiltinProgram.effects_ofRoutine fun _ _ _ _ =>
          adopts_of_keepsOwners
  | stake minimumBalance =>
      intro data context state final ran index p n before after
      exact
        (stakeProgramSimulator_effects minimumBalance data context state
          final ran index p n before after).adopts
  | vote minimumBalance =>
      intro data context state final ran index p n before after
      exact
        (voteProgramSimulator_effects minimumBalance data context state
          final ran index p n before after).adopts
  | splToken programCodec =>
      exact
        BuiltinProgram.effects_ofRoutine fun _ _ _ _ =>
          SplToken.invoke_adopts
  | splToken2022 programCodec =>
      exact
        BuiltinProgram.effects_ofRoutine fun _ _ _ _ ran =>
          SplToken.invoke_adopts (Token2022.delegated_of_yields ran)
  | splAta programCodec findProgramAddress =>
      exact absurd rfl notAta

end Hopper
