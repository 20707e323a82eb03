import HopperSvm.NonceRecord
import HopperSvm.SlotEffects
import HopperSvm.SystemProgram

/-!
Slot 0 pays, is assigned, is allocated, or holds the nonce; the slots behind
it are credited, created, or only named.  Lamports and ownership leave slot 0
in two ways: an instruction takes them, on the signature of the account or of
the base its address derives from, or a nonce account is withdrawn from.
-/

namespace Hopper

namespace SystemProgram

open Bytes Routine Words

/-- What an instruction takes from slot 0. -/
inductive Taking where
  | debit (lamports : UInt64)
  | reassign (owner : Pubkey)
  | nothing

/-- Where the instruction data goes on behind a base, a seed length and a
seed. -/
def behindSeed (data : List UInt8) : Nat :=
  44 + (u64At data 36).toNat

def takingOf (data : List UInt8) : Taking :=
  match tagOf data with
  | 0 => .debit (u64At data 4)
  | 1 => .reassign ((pubkeyAt data 4).getD .default)
  | 2 => .debit (u64At data 4)
  | 3 => .debit (u64At data (behindSeed data))
  | 9 => .reassign ((pubkeyAt data (behindSeed data)).getD .default)
  | 10 => .debit (u64At data 4)
  | _ => .nothing

/-- What becomes of the account in a slot. -/
inductive Change (crates : Crates) (context : InvokeContext)
    (data : List UInt8) : SlotRelation
  | bystander {index : Nat} {p : KeyedAccount} (behind : 0 < index) :
      Change crates context data index p p
  | credit {index : Nat} {p : KeyedAccount} {amount : UInt64}
      (behind : 0 < index) :
      Change crates context data index p
        { p with lamports := saturatingAdd p.lamports amount }
  | create {p : KeyedAccount} {lamports : UInt64} {bytes : List UInt8}
      {owner : Pubkey} (blank : p.data = []) :
      Change crates context data 1 p
        { p with lamports, data := bytes, owner, executable := false }
  | debit {p : KeyedAccount} {amount : UInt64}
      (taking : takingOf data = .debit amount)
      (covered : amount ≤ p.lamports) :
      Change crates context data 0 p
        { p with lamports := p.lamports - amount }
  | reassign {p : KeyedAccount} {owner : Pubkey}
      (taking : takingOf data = .reassign owner) :
      Change crates context data 0 p { p with owner }
  | allocate {p : KeyedAccount} {bytes : List UInt8}
      (tag : tagOf data = 8) (blank : p.data = []) :
      Change crates context data 0 p { p with data := bytes }
  | withdrawNonce {p : KeyedAccount} {stored : NonceState}
      {amount : UInt64} (tag : tagOf data = 5)
      (decoded : decodeNonce p.data = some stored)
      (guarded : stored.initialized = true →
        IsSigner context stored.authority) :
      Change crates context data 0 p
        { p with lamports := p.lamports - amount }
  | initializeNonce {p : KeyedAccount} {stored opened : NonceState}
      (tag : tagOf data = 6)
      (decoded : decodeNonce p.data = some stored)
      (unopened : stored.initialized = false) :
      Change crates context data 0 p
        { p with
          data := writeNonceState p.data opened
          owner := systemProgramId }
  | advanceNonce {p : KeyedAccount} {stored : NonceState}
      (tag : tagOf data = 4) (nonce : HoldsNonce p.data stored)
      (signed : IsSigner context stored.authority) :
      Change crates context data 0 p
        { p with
          data :=
            writeNonceState p.data
              { stored with
                initialized := true
                durableNonce :=
                  synthesiseNonceFromSlot crates
                    context.sysvars.clock.slot } }
  | authorizeNonce {p : KeyedAccount} {stored : NonceState}
      {newAuthority : Pubkey} (tag : tagOf data = 7)
      (nonce : HoldsNonce p.data stored)
      (signed : IsSigner context stored.authority) :
      Change crates context data 0 p
        { p with
          data :=
            writeNonceState p.data
              { stored with
                initialized := true
                authority := newAuthority } }
  | upgradeNonce {p : KeyedAccount} (tag : tagOf data = 11)
      (long : 4 ≤ p.data.length) :
      Change crates context data 0 p
        { p with
          data := copyInto p.data 0 (leBytes 4 nonceTagVersions) }
  | upgradeShort {p : KeyedAccount} (tag : tagOf data = 11) :
      Change crates context data 0 p p

section Slots

variable {crates : Crates} {context : InvokeContext} {data : List UInt8}
  {received : List KeyedAccount} {first : KeyedAccount}

/-- The slots behind slot 0 may stay as they are. -/
theorem Change.same_behind (slot : Nat) (p : KeyedAccount)
    (behind : slot ≠ 0) : Change crates context data slot p p :=
  .bystander (Nat.pos_of_ne_zero behind)

/-- An instruction that assigns to slot 0 alone. -/
theorem slotWise_set_first (atFirst : received[0]? = some first)
    {written : KeyedAccount}
    (own : Change crates context data 0 first written) :
    SlotWise (Change crates context data) received
      (received.set 0 written) :=
  SlotWise.set_one Change.same_behind atFirst own

/-- An instruction that assigns to slot 0 and to one behind it. -/
theorem slotWise_set_set (atFirst : received[0]? = some first)
    {second written written' : KeyedAccount} {place : Nat}
    (atSecond : received[place]? = some second)
    (own : Change crates context data 0 first written)
    (other : Change crates context data place second written') :
    SlotWise (Change crates context data) received
      ((received.set 0 written).set place written') :=
  SlotWise.set_two Change.same_behind atFirst atSecond own other

end Slots

/-- Slot 0 pays, and the slot at `place` is credited. -/
def Pays (place : Nat) (amount : UInt64)
    (slots left : List KeyedAccount) : Prop :=
  ∃ payer payee, slots[0]? = some payer ∧ slots[place]? = some payee ∧
    amount ≤ payer.lamports ∧
    left =
      (slots.set 0
          { payer with lamports := payer.lamports - amount }).set place
        { payee with lamports := saturatingAdd payee.lamports amount }

/-- Slot 0 pays for the account that is opened in slot 1. -/
def Funds (amount : UInt64) (slots left : List KeyedAccount) : Prop :=
  ∃ funder target bytes owner, slots[0]? = some funder ∧
    slots[1]? = some target ∧ amount ≤ funder.lamports ∧
    target.lamports = 0 ∧ target.data = [] ∧
    left =
      (slots.set 0
          { funder with lamports := funder.lamports - amount }).set 1
        { target with
          lamports := amount
          data := bytes
          owner
          executable := false }

section Paying

variable {crates : Crates} {context : InvokeContext} {data : List UInt8}
  {amount : UInt64} {place : Nat} {slots left : List KeyedAccount}

theorem Pays.slotWise (pays : Pays place amount slots left)
    (behind : 0 < place) (taking : takingOf data = .debit amount) :
    SlotWise (Change crates context data) slots left := by
  obtain ⟨payer, payee, atPayer, atPayee, covered, rfl⟩ := pays
  exact
    slotWise_set_set atPayer atPayee (.debit taking covered)
      (.credit behind)

theorem Funds.slotWise (funds : Funds amount slots left)
    (taking : takingOf data = .debit amount) :
    SlotWise (Change crates context data) slots left := by
  obtain
    ⟨funder, target, bytes, owner, atFunder, atTarget, covered, _, blank,
     rfl⟩ := funds
  exact
    slotWise_set_set atFunder atTarget (.debit taking covered)
      (.create blank)

end Paying

/-! ## The handlers -/

section Handlers

variable {crates : Crates} {context : InvokeContext}
  {state final : InvokeState} {data : List UInt8}

theorem u64At_body (start : Nat) :
    UInt64.ofNat (leNat (((data.drop 4).drop start).take 8)) =
      u64At data (4 + start) := by
  rw [u64At, ← field_drop]
  rfl

theorem pubkeyAt_body {start : Nat} {address : Pubkey}
    (read : ((data.drop 4).drop start).take 32 = address.bytes) :
    pubkeyAt data (4 + start) = some address := by
  rw [pubkeyAt, ← field_drop, Pubkey.newFromArray_eq_some]
  exact read

theorem createAccount_funds
    (yields :
      (createAccount (data.drop 4)).Yields context state () final) :
    Funds (u64At data 4) state.accounts final.accounts := by
  simp only [createAccount, ne_eq, yields_bind, rejectBuiltin_yields,
    readU64_yields, readPubkey_yields, requireSlots_yields, slot_yields,
    requireSigner_yields, requireWritable_yields, requireFunds_yields,
    zeroed_yields, writeSlot_yields, log_yields, u64At_body, not_or,
    Decidable.not_not, UInt64.not_lt, ↓existsAndEq, and_true,
    exists_const] at yields
  rcases yields with
    ⟨_, _, _, owner, _, _, funder, atFunder, target, atTarget, _, _, _, _,
     covered, ⟨unfunded, blank⟩, _, debited, atDebited, created, atCreated,
     rfl⟩
  cases atFunder.symm.trans atDebited
  rw [List.getElem?_set_ne (by decide)] at atCreated
  cases atTarget.symm.trans atCreated
  exact
    ⟨funder, target, _, owner, atFunder, atTarget, covered, unfunded,
      blank, rfl⟩

theorem createAccount_effect (tag : tagOf data = 0)
    (yields :
      (createAccount (data.drop 4)).Yields context state () final) :
    SlotWise (Change crates context data) state.accounts
      final.accounts := by
  have taking : takingOf data = .debit (u64At data 4) := by
    rw [takingOf, tag]
    rfl
  exact (createAccount_funds yields).slotWise taking

theorem assign_effect (tag : tagOf data = 1)
    (yields : (assign (data.drop 4)).Yields context state () final) :
    SlotWise (Change crates context data) state.accounts
      final.accounts := by
  simp only [assign, yields_bind, rejectBuiltin_yields,
    readPubkey_yields, requireSlots_yields, slot_yields,
    requireSigner_yields, requireWritable_yields, writeSlot_yields,
    log_yields, ↓existsAndEq, and_true, exists_const] at yields
  rcases yields with
    ⟨_, owner, ⟨_, read⟩, _, account, atAccount, _, _, assigned,
     atAssigned, rfl⟩
  cases atAccount.symm.trans atAssigned
  have taking : takingOf data = .reassign owner := by
    rw [takingOf, tag]
    simp only [pubkeyAt_body read, Option.getD_some]
  exact slotWise_set_first atAccount (.reassign taking)

theorem transfer_pays
    (yields : (transfer (data.drop 4)).Yields context state () final) :
    Pays 1 (u64At data 4) state.accounts final.accounts := by
  simp only [transfer, ne_eq, yields_bind, rejectBuiltin_yields,
    readU64_yields, requireSlots_yields, slot_yields,
    requireSigner_yields, requireWritable_yields, requireFunds_yields,
    writeSlot_yields, log_yields, u64At_body, Decidable.not_not,
    UInt64.not_lt, ↓existsAndEq, and_true, exists_const] at yields
  rcases yields with
    ⟨_, _, _, source, atSource, destination, atDestination, _, _, _, _,
     covered, debited, atDebited, credited, atCredited, rfl⟩
  cases atSource.symm.trans atDebited
  rw [List.getElem?_set_ne (by decide)] at atCredited
  cases atDestination.symm.trans atCredited
  exact ⟨source, destination, atSource, atDestination, covered, rfl⟩

theorem transfer_effect (tag : tagOf data = 2)
    (yields : (transfer (data.drop 4)).Yields context state () final) :
    SlotWise (Change crates context data) state.accounts
      final.accounts := by
  have taking : takingOf data = .debit (u64At data 4) := by
    rw [takingOf, tag]
    rfl
  exact (transfer_pays yields).slotWise (by decide) taking

theorem allocate_effect (tag : tagOf data = 8)
    (yields : (allocate (data.drop 4)).Yields context state () final) :
    SlotWise (Change crates context data) state.accounts
      final.accounts := by
  simp only [allocate, ne_eq, yields_bind, rejectBuiltin_yields,
    readU64_yields, requireSlots_yields, slot_yields,
    requireSigner_yields, requireWritable_yields, zeroed_yields,
    writeSlot_yields, log_yields, Decidable.not_not, ↓existsAndEq,
    and_true, exists_const] at yields
  rcases yields with
    ⟨_, _, _, account, atAccount, _, _, blank, _, allocated, atAllocated,
     rfl⟩
  cases atAccount.symm.trans atAllocated
  exact slotWise_set_first atAccount (.allocate tag blank)

theorem createAccountWithSeed_funds
    (yields :
      (createAccountWithSeed crates (data.drop 4)).Yields context state ()
        final) :
    Funds (u64At data (4 + (40 + (u64At data (4 + 32)).toNat)))
      state.accounts final.accounts := by
  simp only [createAccountWithSeed, ne_eq, yields_bind,
    rejectBuiltin_yields, addUsize_yields, slice_yields, orBuiltin_yields,
    readU64_yields, readPubkey_yields, requireSlots_yields, slot_yields,
    requireSigner_yields, requireWritable_yields, u64At_body,
    Decidable.not_not, ↓existsAndEq, and_true, true_and, exists_const]
    at yields
  rcases yields with
    ⟨_, base, _, _, _, _, _, _, seed, _, _, _, owner, _, _, funder,
     atFunder, target, atTarget, _, _, _, _, ran⟩
  have created := yields_of_requireSigner_if ran
  simp only [yields_bind, requireFunds_yields, rejectBuiltin_yields,
    zeroed_yields, writeSlot_yields, log_yields, not_or,
    Decidable.not_not, UInt64.not_lt, ↓existsAndEq, and_true,
    exists_const] at created
  rcases created with
    ⟨covered, ⟨unfunded, blank⟩, _, debited, atDebited, opened, atOpened,
     rfl⟩
  cases atFunder.symm.trans atDebited
  rw [List.getElem?_set_ne (by decide)] at atOpened
  cases atTarget.symm.trans atOpened
  exact
    ⟨funder, target, _, owner, atFunder, atTarget, covered, unfunded,
      blank, rfl⟩

theorem createAccountWithSeed_effect (tag : tagOf data = 3)
    (yields :
      (createAccountWithSeed crates (data.drop 4)).Yields context state ()
        final) :
    SlotWise (Change crates context data) state.accounts
      final.accounts := by
  have taking : takingOf data =
      .debit (u64At data (4 + (40 + (u64At data (4 + 32)).toNat))) := by
    rw [takingOf, tag, behindSeed, ← Nat.add_assoc]
    rfl
  exact (createAccountWithSeed_funds yields).slotWise taking

theorem assignWithSeed_effect (tag : tagOf data = 9)
    (yields :
      (assignWithSeed crates (data.drop 4)).Yields context state ()
        final) :
    SlotWise (Change crates context data) state.accounts
      final.accounts := by
  simp only [assignWithSeed, ne_eq, yields_bind, rejectBuiltin_yields,
    addUsize_yields, slice_yields, orBuiltin_yields, readU64_yields,
    readPubkey_yields, requireSlots_yields, slot_yields,
    requireSigner_yields, requireWritable_yields, writeSlot_yields,
    log_yields, u64At_body, Decidable.not_not, ↓existsAndEq, and_true,
    true_and, exists_const] at yields
  rcases yields with
    ⟨_, base, _, _, _, _, _, _, seed, _, owner, ⟨_, read⟩, _, target,
     atTarget, _, _, _, assigned, atAssigned, rfl⟩
  cases atTarget.symm.trans atAssigned
  have stored := pubkeyAt_body read
  rw [← Nat.add_assoc] at stored
  have taking : takingOf data = .reassign owner := by
    rw [takingOf, tag, behindSeed]
    exact congrArg Taking.reassign (congrArg (Option.getD · _) stored)
  exact slotWise_set_first atTarget (.reassign taking)

theorem transferWithSeed_pays
    (yields :
      (transferWithSeed crates (data.drop 4)).Yields context state ()
        final) :
    Pays 2 (u64At data 4) state.accounts final.accounts := by
  simp only [transferWithSeed, ne_eq, yields_bind, rejectBuiltin_yields,
    addUsize_yields, slice_yields, orBuiltin_yields, readU64_yields,
    readPubkey_yields, requireSlots_yields, slot_yields,
    requireSigner_yields, requireWritable_yields, requireFunds_yields,
    writeSlot_yields, log_yields, u64At_body, Decidable.not_not,
    UInt64.not_lt, ↓existsAndEq, and_true, true_and, exists_const]
    at yields
  rcases yields with
    ⟨_, _, _, _, _, _, _, seed, _, fromOwner, _, _, source, atSource,
     fromBase, _, destination, atDestination, _, _, _, _, covered, debited,
     atDebited, credited, atCredited, rfl⟩
  cases atSource.symm.trans atDebited
  rw [List.getElem?_set_ne (by decide)] at atCredited
  cases atDestination.symm.trans atCredited
  exact ⟨source, destination, atSource, atDestination, covered, rfl⟩

theorem transferWithSeed_effect (tag : tagOf data = 10)
    (yields :
      (transferWithSeed crates (data.drop 4)).Yields context state ()
        final) :
    SlotWise (Change crates context data) state.accounts
      final.accounts := by
  have taking : takingOf data = .debit (u64At data 4) := by
    rw [takingOf, tag]
    rfl
  exact (transferWithSeed_pays yields).slotWise (by decide) taking

theorem initializeNonceAccount_effect (tag : tagOf data = 6)
    (yields :
      (initializeNonceAccount crates (data.drop 4)).Yields context state ()
        final) :
    SlotWise (Change crates context data) state.accounts
      final.accounts := by
  simp only [initializeNonceAccount, clockSlot, yields_bind,
    rejectBuiltin_yields, readPubkey_yields, requireSlots_yields,
    slot_yields, requireWritable_yields, readNonceState_yields,
    environment_yields, yields_pure, writeSlot_yields, log_yields,
    Bool.not_eq_true, ↓existsAndEq, and_true, true_and, exists_const]
    at yields
  rcases yields with
    ⟨_, authority, _, _, nonce, atNonce, _, _, stored, decoded, unopened,
     opened, atOpened, rfl⟩
  cases atNonce.symm.trans atOpened
  exact
    slotWise_set_first atNonce (.initializeNonce tag decoded unopened)

theorem advanceNonceAccount_effect (tag : tagOf data = 4)
    (yields :
      (advanceNonceAccount crates).Yields context state () final) :
    SlotWise (Change crates context data) state.accounts
      final.accounts := by
  simp only [advanceNonceAccount, clockSlot, ne_eq, yields_bind,
    rejectBuiltin_yields, requireSlots_yields, slot_yields,
    requireWritable_yields, requireSigner_yields, readNonceState_yields,
    environment_yields, yields_pure, writeSlot_yields, log_yields,
    Bool.not_eq_false, Decidable.not_not, ↓existsAndEq, and_true,
    true_and, exists_const] at yields
  rcases yields with
    ⟨_, nonce, atNonce, authority, _, _, signed, stored, decoded,
     initialized, sameAuthority, advanced, atAdvanced, rfl⟩
  cases atNonce.symm.trans atAdvanced
  rw [← sameAuthority] at signed
  exact
    slotWise_set_first atNonce
      (.advanceNonce tag ⟨decoded, initialized⟩ signed)

theorem withdrawNonceAccount_effect (tag : tagOf data = 5)
    (yields :
      (withdrawNonceAccount (data.drop 4)).Yields context state ()
        final) :
    SlotWise (Change crates context data) state.accounts
      final.accounts := by
  simp only [withdrawNonceAccount, ne_eq, yields_bind,
    rejectBuiltin_yields, readU64_yields, requireSlots_yields, slot_yields,
    requireWritable_yields, requireSigner_yields, readNonceState_yields,
    requireFunds_yields, writeSlot_yields, log_yields, not_and,
    Decidable.not_not, ↓existsAndEq, and_true, exists_const] at yields
  rcases yields with
    ⟨_, _, _, nonce, atNonce, destination, atDestination, authority, _, _,
     _, signed, stored, decoded, sameAuthority, _, debited, atDebited,
     credited, atCredited, rfl⟩
  cases atNonce.symm.trans atDebited
  rw [List.getElem?_set_ne (by decide)] at atCredited
  cases atDestination.symm.trans atCredited
  have guarded : stored.initialized = true →
      IsSigner context stored.authority := by
    intro initialized
    rw [sameAuthority initialized]
    exact signed
  exact
    slotWise_set_set atNonce atDestination
      (.withdrawNonce tag decoded guarded) (.credit (by decide))

theorem authorizeNonceAccount_effect (tag : tagOf data = 7)
    (yields :
      (authorizeNonceAccount (data.drop 4)).Yields context state ()
        final) :
    SlotWise (Change crates context data) state.accounts
      final.accounts := by
  simp only [authorizeNonceAccount, ne_eq, yields_bind,
    rejectBuiltin_yields, readPubkey_yields, requireSlots_yields,
    slot_yields, requireWritable_yields, requireSigner_yields,
    readNonceState_yields, writeSlot_yields, log_yields,
    Bool.not_eq_false, Decidable.not_not, ↓existsAndEq, and_true,
    exists_const] at yields
  rcases yields with
    ⟨_, newAuthority, _, _, nonce, atNonce, authority, _, _, signed,
     stored, decoded, initialized, sameAuthority, authorized, atAuthorized,
     rfl⟩
  cases atNonce.symm.trans atAuthorized
  rw [← sameAuthority] at signed
  exact
    slotWise_set_first atNonce
      (.authorizeNonce tag ⟨decoded, initialized⟩ signed)

theorem upgradeNonceAccount_effect (tag : tagOf data = 11)
    (yields : upgradeNonceAccount.Yields context state () final) :
    SlotWise (Change crates context data) state.accounts
      final.accounts := by
  simp only [upgradeNonceAccount, yields_bind, requireSlots_yields,
    slot_yields, requireWritable_yields, ↓existsAndEq, and_true,
    exists_const] at yields
  rcases yields with ⟨_, nonce, atNonce, _, ran⟩
  split at ran
  · rename_i long
    simp only [yields_bind, writeSlot_yields, log_yields, ↓existsAndEq,
      and_true, exists_const] at ran
    rcases ran with ⟨upgraded, atUpgraded, rfl⟩
    cases atNonce.symm.trans atUpgraded
    exact slotWise_set_first atNonce (.upgradeNonce tag long)
  · rw [log_yields] at ran
    subst ran
    intro slot p n before after
    cases before.symm.trans after
    cases slot with
    | zero =>
        exact .upgradeShort tag
    | succ slot =>
        exact .bystander (Nat.succ_pos slot)

/-- What an accepted instruction does to its slots. -/
theorem invoke_effect
    (yields : (invoke crates data).Yields context state () final) :
    SlotWise (Change crates context data) state.accounts
      final.accounts := by
  simp only [invoke, yields_bind, rejectBuiltin_yields, readU32_yields,
    ↓existsAndEq, and_true, exists_const] at yields
  rcases yields with ⟨_, _, ran⟩
  split at ran
  · exact createAccount_effect ‹_› ran
  · exact assign_effect ‹_› ran
  · exact transfer_effect ‹_› ran
  · exact createAccountWithSeed_effect ‹_› ran
  · exact advanceNonceAccount_effect ‹_› ran
  · exact withdrawNonceAccount_effect ‹_› ran
  · exact initializeNonceAccount_effect ‹_› ran
  · exact authorizeNonceAccount_effect ‹_› ran
  · exact allocate_effect ‹_› ran
  · exact assignWithSeed_effect ‹_› ran
  · exact transferWithSeed_effect ‹_› ran
  · exact upgradeNonceAccount_effect ‹_› ran
  · simp at ran

end Handlers

end SystemProgram

theorem systemProgram_effects (crates : Crates) :
    (systemProgram crates).Effects (SystemProgram.Change crates) :=
  BuiltinProgram.effects_ofRoutine fun _ _ _ _ yields =>
    SystemProgram.invoke_effect yields

end Hopper
