import HopperSvm.Refusal
import HopperSvm.SlotEffects
import HopperSvm.VoteProgram

namespace Hopper

namespace VoteProgram

open Bytes Routine Words

/-- The fields of the header. -/
inductive HeaderField where
  | nodePubkey
  | authorizedWithdrawer
  | commission
  | authorizedVoter
  deriving DecidableEq

namespace HeaderField

def start : HeaderField → Nat
  | nodePubkey => 4
  | authorizedWithdrawer => 36
  | commission => 68
  | authorizedVoter => authorizedVoterOffset

def width : HeaderField → Nat
  | commission => 1
  | _ => 32

/-- The bytes of the field. -/
def read (data : List UInt8) (which : HeaderField) : List UInt8 :=
  field data which.start which.width

/-- The fields are clear of each other. -/
theorem apart {which other : HeaderField} (different : other ≠ which) :
    other.start + other.width ≤ which.start ∨
      which.start + which.width ≤ other.start := by
  cases which <;> cases other <;> first | contradiction | decide

end HeaderField

/-- The header of a new account, written over blank bytes. -/
def initializedData (data : List UInt8) (node voter withdrawer : Pubkey)
    (commission : UInt8) : List UInt8 :=
  let blank := copyInto data 0 (List.replicate voteAccountHeaderSize 0)
  let versioned := copyInto blank 0 (u32Bytes voteStateVersionV3)
  let identified := copyInto versioned 4 node.bytes
  let withdrawable := copyInto identified 36 withdrawer.bytes
  let commissioned := copyInto withdrawable 68 [commission]
  copyInto commissioned authorizedVoterOffset voter.bytes

/-- What an instruction with this tag may write over a field of a header,
and who must have signed for it. -/
inductive Rewrites (context : InvokeContext) (header : List UInt8) :
    Nat → HeaderField → List UInt8 → Prop
  | authorizeVoter {voter newAuth : Pubkey}
      (stored : pubkeyAt header authorizedVoterOffset = some voter)
      (signed : IsSigner context voter) :
      Rewrites context header 1 .authorizedVoter newAuth.bytes
  | authorizeWithdrawer {withdrawer newAuth : Pubkey}
      (stored : pubkeyAt header 36 = some withdrawer)
      (signed : IsSigner context withdrawer) :
      Rewrites context header 1 .authorizedWithdrawer newAuth.bytes
  | updateValidatorIdentity {withdrawer newNode : Pubkey}
      (stored : pubkeyAt header 36 = some withdrawer)
      (signed : IsSigner context withdrawer)
      (joined : IsSigner context newNode) :
      Rewrites context header 4 .nodePubkey newNode.bytes
  | updateCommission {withdrawer : Pubkey} {newCommission : UInt8}
      (stored : pubkeyAt header 36 = some withdrawer)
      (signed : IsSigner context withdrawer)
      (percentage : newCommission ≤ 100) :
      Rewrites context header 5 .commission [newCommission]

theorem Rewrites.sized {context : InvokeContext}
    {header bytes : List UInt8} {tag : Nat} {which : HeaderField}
    (rewrites : Rewrites context header tag which bytes) :
    bytes.length = which.width := by
  cases rewrites with
  | @authorizeVoter _ newAuth stored signed =>
      exact newAuth.length_eq
  | @authorizeWithdrawer _ newAuth stored signed =>
      exact newAuth.length_eq
  | @updateValidatorIdentity _ newNode stored signed joined =>
      exact newNode.length_eq
  | updateCommission stored signed percentage =>
      rfl

/-- What the withdrawer may take out of an account. -/
structure Withdrawal (minimumBalance : Rent → Nat → UInt64)
    (context : InvokeContext) (p : KeyedAccount) (amount : UInt64) where
  initialized : readVersion p.data ≠ 0
  withdrawer : Pubkey
  stored : pubkeyAt p.data 36 = some withdrawer
  signed : IsSigner context withdrawer
  covered :
    amount ≤
      saturatingSub p.lamports
        (minimumBalance context.sysvars.rent p.data.length)

/-- What becomes of the account in a slot. -/
inductive Change (minimumBalance : Rent → Nat → UInt64)
    (context : InvokeContext) (data : List UInt8) : SlotRelation
  | same {index : Nat} {p : KeyedAccount} :
      Change minimumBalance context data index p p
  | initializeAccount {p : KeyedAccount} {node : Pubkey}
      (voter withdrawer : Pubkey) (tag : tagOf data = 0)
      (sized : voteAccountHeaderSize ≤ p.data.length)
      (blank : readVersion p.data = 0) (signed : IsSigner context node)
      (funded :
        minimumBalance context.sysvars.rent p.data.length ≤ p.lamports) :
      Change minimumBalance context data 0 p
        { p with
          data :=
            initializedData p.data node voter withdrawer
              (byteAt (data.drop 4) 96) }
  | rewrite {p : KeyedAccount} {which : HeaderField} {bytes : List UInt8}
      (initialized : readVersion p.data ≠ 0)
      (fits : which.start + which.width ≤ p.data.length)
      (rewrites : Rewrites context p.data (tagOf data) which bytes) :
      Change minimumBalance context data 0 p
        { p with data := copyInto p.data which.start bytes }
  | debit {p : KeyedAccount} {amount : UInt64}
      (withdrawal : Withdrawal minimumBalance context p amount) :
      Change minimumBalance context data 0 p
        { p with lamports := p.lamports - amount }
  | drain {p : KeyedAccount} {amount : UInt64}
      (sized : voteAccountHeaderSize ≤ p.data.length)
      (withdrawal : Withdrawal minimumBalance context p amount)
      (emptied : p.lamports - amount = 0) :
      Change minimumBalance context data 0 p
        { p with
          lamports := p.lamports - amount
          data :=
            copyInto p.data 0 (List.replicate voteAccountHeaderSize 0) }
  | credit {p : KeyedAccount} {amount : UInt64} :
      Change minimumBalance context data 1 p
        { p with lamports := saturatingAdd p.lamports amount }

section Handlers

variable {minimumBalance : Rent → Nat → UInt64} {context : InvokeContext}
  {state final : InvokeState} {data body : List UInt8}

instance (data : List UInt8) : ReadOnly (requireInitialized data) := by
  unfold requireInitialized
  infer_instance

@[simp]
theorem requireInitialized_yields {bytes : List UInt8} {result : Unit} :
    (requireInitialized bytes).Yields context state result final ↔
      readVersion bytes ≠ 0 ∧ state = final :=
  rejectBuiltin_yields

@[simp]
theorem writeData_yields {index start : Nat} {bytes : List UInt8}
    {result : Unit} :
    (writeData index start bytes).Yields context state result final ↔
      ∃ account, state.accounts[index]? = some account ∧
        start + bytes.length ≤ account.data.length ∧
        { state with
          accounts :=
            state.accounts.set index
              { account with data := copyInto account.data start bytes } } =
          final := by
  constructor
  · intro yields
    simp only [writeData, yields_bind, slot_yields, expect_yields,
      writeSlot_yields, Option.ite_none_right_eq_some, Option.some.injEq,
      ↓existsAndEq, and_true] at yields
    rcases yields with
      ⟨account, atIndex, fits, written, atWritten, wrote⟩
    cases atIndex.symm.trans atWritten
    exact ⟨account, atIndex, fits, wrote⟩
  · intro wrote
    rcases wrote with ⟨account, atIndex, fits, wrote⟩
    simp only [writeData, yields_bind, slot_yields, expect_yields,
      writeSlot_yields, Option.ite_none_right_eq_some, Option.some.injEq,
      ↓existsAndEq, and_true]
    exact
      ⟨account, atIndex, fits, account, atIndex, wrote⟩

/-- Writing over one field. -/
theorem slotWise_rewrite {received : List KeyedAccount}
    {vote : KeyedAccount} {bytes : List UInt8} (which : HeaderField)
    (atFirst : received[0]? = some vote)
    (initialized : readVersion vote.data ≠ 0)
    (fits : which.start + bytes.length ≤ vote.data.length)
    (rewrites : Rewrites context vote.data (tagOf data) which bytes) :
    SlotWise (Change minimumBalance context data) received
      (received.set 0
        { vote with data := copyInto vote.data which.start bytes }) := by
  rw [rewrites.sized] at fits
  have own : Change minimumBalance context data 0 vote _ :=
    .rewrite initialized fits rewrites
  exact SlotWise.set_one (fun _ _ _ => .same) atFirst own

theorem initializeAccount_effect (tag : tagOf data = 0)
    (yields :
      (initializeAccount minimumBalance (data.drop 4)).Yields context state
        () final) :
    SlotWise (Change minimumBalance context data) state.accounts
      final.accounts := by
  simp only [initializeAccount, ne_eq, yields_bind, rejectBuiltin_yields,
    UInt64.not_lt, not_lt, requireSlots_yields, slot_yields,
    requireWritable_yields, requireSigner_yields, readPubkey_yields,
    environment_yields, writeData_yields, log_yields, Decidable.not_not,
    ↓existsAndEq, and_true, true_and, exists_const] at yields
  rcases yields with
    ⟨_, vote, atFirst, _, sized, blank, _, node, _, voter, _, withdrawer,
     _, signed, funded, wrote⟩
  have inRange : 0 < state.accounts.length :=
    (List.getElem?_eq_some_iff.mp atFirst).1
  -- each copy finds the slot as the copy before it left it
  simp only [atFirst, List.getElem?_set_self, inRange, Option.some.injEq,
    List.set_set, ↓existsAndEq, true_and] at wrote
  rcases wrote with ⟨_, _, _, _, _, _, rfl⟩
  have own : Change minimumBalance context data 0 vote _ :=
    .initializeAccount voter withdrawer tag sized blank signed funded
  exact SlotWise.set_one (fun _ _ _ => .same) atFirst own

theorem authorize_effect (tag : tagOf data = 1)
    (yields : (authorize body).Yields context state () final) :
    SlotWise (Change minimumBalance context data) state.accounts
      final.accounts := by
  simp only [authorize, yields_bind, rejectBuiltin_yields,
    requireSlots_yields, slot_yields, requireWritable_yields,
    requireInitialized_yields, readPubkey_yields, readU32_yields,
    ↓existsAndEq, and_true, exists_const] at yields
  rcases yields with
    ⟨_, vote, atFirst, _, initialized, _, newAuth, _, _, wrote⟩
  split at wrote
  · simp only [yields_bind, readPubkey_yields, requireSigner_yields,
      writeData_yields, log_yields, atFirst, Option.some.injEq,
      ↓existsAndEq, and_true, true_and, exists_const] at wrote
    rcases wrote with ⟨voter, ⟨_, stored⟩, signed, fits, rfl⟩
    apply slotWise_rewrite .authorizedVoter atFirst initialized fits
    rw [tag]
    exact .authorizeVoter (Pubkey.newFromArray_eq_some.mpr stored) signed
  · simp only [yields_bind, readPubkey_yields, requireSigner_yields,
      writeData_yields, log_yields, atFirst, Option.some.injEq,
      ↓existsAndEq, and_true, true_and, exists_const] at wrote
    rcases wrote with ⟨withdrawer, ⟨_, stored⟩, signed, fits, rfl⟩
    apply slotWise_rewrite .authorizedWithdrawer atFirst initialized fits
    rw [tag]
    exact
      .authorizeWithdrawer (Pubkey.newFromArray_eq_some.mpr stored) signed
  · simp [yields_bind] at wrote

theorem updateValidatorIdentity_effect (tag : tagOf data = 4)
    (yields : updateValidatorIdentity.Yields context state () final) :
    SlotWise (Change minimumBalance context data) state.accounts
      final.accounts := by
  simp only [updateValidatorIdentity, yields_bind, requireSlots_yields,
    slot_yields, requireWritable_yields, requireInitialized_yields,
    requireSigner_yields, readPubkey_yields, writeData_yields, log_yields,
    ↓existsAndEq, and_true, exists_const] at yields
  rcases yields with
    ⟨_, _, vote, atFirst, _, initialized, newNode, _, joined, withdrawer,
     ⟨_, stored⟩, signed, written, ⟨atWritten, fits⟩, rfl⟩
  cases atFirst.symm.trans atWritten
  apply slotWise_rewrite .nodePubkey atFirst initialized fits
  rw [tag]
  exact
    .updateValidatorIdentity (Pubkey.newFromArray_eq_some.mpr stored) signed
      joined

theorem updateCommission_effect (tag : tagOf data = 5)
    (yields : (updateCommission body).Yields context state () final) :
    SlotWise (Change minimumBalance context data) state.accounts
      final.accounts := by
  simp only [updateCommission, gt_iff_lt, UInt8.not_lt, yields_bind,
    rejectBuiltin_yields, requireSlots_yields, slot_yields,
    requireWritable_yields, requireInitialized_yields,
    requireSigner_yields, readPubkey_yields, writeData_yields, log_yields,
    ↓existsAndEq, and_true, exists_const] at yields
  rcases yields with
    ⟨_, vote, atFirst, _, initialized, _, percentage, withdrawer,
     ⟨_, stored⟩, signed, written, ⟨atWritten, fits⟩, rfl⟩
  cases atFirst.symm.trans atWritten
  apply slotWise_rewrite .commission atFirst initialized fits
  rw [tag]
  exact
    .updateCommission (Pubkey.newFromArray_eq_some.mpr stored) signed
      percentage

theorem withdraw_effect
    (yields : (withdraw minimumBalance body).Yields context state ()
      final) :
    SlotWise (Change minimumBalance context data) state.accounts
      final.accounts := by
  simp only [withdraw, yields_bind, rejectBuiltin_yields,
    requireSlots_yields, readU64_yields, slot_yields,
    requireWritable_yields, requireInitialized_yields, readPubkey_yields,
    requireSigner_yields, environment_yields, writeSlot_yields,
    gt_iff_lt, UInt64.not_lt,
    ↓existsAndEq, and_true, true_and, exists_const] at yields
  rcases yields with
    ⟨_, _, vote, atFirst, recipient, atSecond, initialized, _, _, _, _,
     withdrawer, ⟨_, stored⟩, signed, covered, debited, atDebited, credited,
     atCredited, drained, atDrained, wrote⟩
  cases atFirst.symm.trans atDebited
  rw [List.getElem?_set_ne (by decide)] at atCredited
  cases atSecond.symm.trans atCredited
  have withdrawal : Withdrawal minimumBalance context vote _ :=
    ⟨initialized, withdrawer, Pubkey.newFromArray_eq_some.mpr stored,
      signed, covered⟩
  have debit : Change minimumBalance context data 0 vote _ :=
    .debit withdrawal
  have same : ∀ slot p, Change minimumBalance context data slot p p :=
    fun _ _ => .same
  have moved :=
    SlotWise.set_withdrawn same atFirst atSecond debit .credit
  split at wrote
  · rename_i emptied
    simp only [yields_bind, writeData_yields, log_yields, ↓existsAndEq,
      and_true, exists_const] at wrote
    rcases wrote with ⟨blanked, ⟨atBlanked, sized⟩, rfl⟩
    cases atDrained.symm.trans atBlanked
    rw [List.getElem?_set_ne (by decide), List.getElem?_set_self',
      atFirst] at atDrained
    cases atDrained
    rw [Nat.zero_add, List.length_replicate] at sized
    have drained : Change minimumBalance context data 0 vote _ :=
      .drain sized withdrawal emptied
    refine .set ?_ atFirst drained
    intro slot p n _
    exact moved slot p n
  · rw [log_yields] at wrote
    subst wrote
    exact moved

/-- What an accepted instruction leaves of its slots. -/
theorem invoke_effect
    (yields :
      (invoke minimumBalance data).Yields context state () final) :
    SlotWise (Change minimumBalance context data) state.accounts
      final.accounts := by
  simp only [invoke, yields_bind, rejectBuiltin_yields, not_lt,
    readU32_yields, ↓existsAndEq, and_true, exists_const] at yields
  rcases yields with ⟨_, _, ran⟩
  split at ran
  · exact initializeAccount_effect ‹_› ran
  · exact authorize_effect ‹_› ran
  · exact withdraw_effect ran
  · exact updateValidatorIdentity_effect ‹_› ran
  · exact updateCommission_effect ‹_› ran
  · simp at ran

end Handlers

end VoteProgram

theorem voteProgramSimulator_effects
    (minimumBalance : Rent → Nat → UInt64) :
    (voteProgramSimulator minimumBalance).Effects
      (VoteProgram.Change minimumBalance) :=
  BuiltinProgram.effects_ofRoutine fun _ _ _ _ yields =>
    VoteProgram.invoke_effect yields

end Hopper
