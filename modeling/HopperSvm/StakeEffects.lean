import HopperSvm.SlotEffects
import HopperSvm.StakeProgram

namespace Hopper

namespace StakeProgram

open Bytes Routine Words

/-- The steps on the state of an account that holds `lamports`, by
instruction tag. -/
inductive StateStep (context : InvokeContext) (lamports : UInt64) :
    Nat → StakeAccountState → StakeAccountState → Prop
  | initializeStake {stakeMeta : StakeMeta}
      (funded : stakeMeta.rentExemptReserve ≤ lamports) :
      StateStep context lamports 0 .uninitialized (.initialized stakeMeta)
  | authorizeStaker {state : StakeAccountState} {stored : StakeMeta}
      {newAuth : Pubkey} (held : state.meta? = some stored)
      (signed : IsSigner context stored.authorized.staker) :
      StateStep context lamports 1 state <|
        state.withMeta
          { stored with
            authorized := { stored.authorized with staker := newAuth } }
  | authorizeWithdrawer {state : StakeAccountState} {stored : StakeMeta}
      {newAuth : Pubkey} (held : state.meta? = some stored)
      (signed : IsSigner context stored.authorized.withdrawer) :
      StateStep context lamports 1 state <|
        state.withMeta
          { stored with
            authorized :=
              { stored.authorized with withdrawer := newAuth } }
  | delegateStake {state newState : StakeAccountState}
      {stored : StakeMeta} {voteAddr : Pubkey}
      (delegates :
        delegated voteAddr lamports context.sysvars.clock.epoch state =
          some (stored, newState))
      (signed : IsSigner context stored.authorized.staker) :
      StateStep context lamports 2 state newState
  | deactivate {stored : StakeMeta} {delegation : StakeDelegation}
      {credits : UInt64}
      (active : delegation.deactivationEpoch = maxU64)
      (signed : IsSigner context stored.authorized.staker) :
      StateStep context lamports 5 (.stake stored delegation credits) <|
        .stake stored
          { delegation with
            deactivationEpoch := context.sysvars.clock.epoch }
          credits

/-- What the withdrawer may take out of an account. -/
structure Withdrawal (context : InvokeContext) (p : KeyedAccount)
    (amount : UInt64) where
  state : StakeAccountState
  stored : StakeMeta
  decoded : decodeState p.data = some state
  held : state.meta? = some stored
  signed : IsSigner context stored.authorized.withdrawer
  covered :
    amount ≤
      saturatingSub p.lamports
        (lockedFloor stored context.sysvars.clock.epoch state)

/-- What becomes of the account in a slot. -/
inductive Change (context : InvokeContext) (data : List UInt8) :
    SlotRelation
  | same {index : Nat} {p : KeyedAccount} : Change context data index p p
  | rewrite {p : KeyedAccount} {state newState : StakeAccountState}
      (decoded : decodeState p.data = some state)
      (step :
        StateStep context p.lamports (tagOf data) state newState) :
      Change context data 0 p
        { p with data := writeState p.data newState }
  | debit {p : KeyedAccount} {amount : UInt64}
      (withdrawal : Withdrawal context p amount) :
      Change context data 0 p { p with lamports := p.lamports - amount }
  | drain {p : KeyedAccount} {amount : UInt64}
      (withdrawal : Withdrawal context p amount)
      (emptied : p.lamports - amount = 0) :
      Change context data 0 p
        { p with
          lamports := p.lamports - amount
          data := List.replicate p.data.length 0 }
  | credit {p : KeyedAccount} {amount : UInt64} :
      Change context data 1 p
        { p with lamports := saturatingAdd p.lamports amount }

section Handlers

variable {minimumBalance : Rent → Nat → UInt64} {context : InvokeContext}
  {state final : InvokeState} {data body : List UInt8}

@[simp]
theorem readState_yields {bytes : List UInt8}
    {decoded : StakeAccountState} :
    (readState bytes).Yields context state decoded final ↔
      decodeState bytes = some decoded ∧ state = final := by
  constructor
  · intro yields
    simp only [readState, yields_bind, rejectBuiltin_yields,
      expect_yields, ↓existsAndEq, and_true, exists_const] at yields
    exact ⟨yields.2.2.1, yields.2.2.2⟩
  · rintro ⟨decodes, rfl⟩
    have long := length_of_decodeState decodes
    simp only [readState, yields_bind, rejectBuiltin_yields,
      expect_yields, ↓existsAndEq, and_true, exists_const]
    refine ⟨by omega, ?_, decodes⟩
    intro unknown
    rcases unknown with ⟨blank, initialized, delegated⟩
    rw [decodeState, if_neg (by omega), if_neg blank, if_neg initialized,
      if_neg delegated] at decodes
    cases decodes

/-- Writing back what a step on the decoded record gives. -/
theorem slotWise_rewrite {received : List KeyedAccount}
    {account : KeyedAccount} {decoded newState : StakeAccountState}
    (atFirst : received[0]? = some account)
    (decodes : decodeState account.data = some decoded)
    (step : StateStep context account.lamports (tagOf data) decoded
      newState) :
    SlotWise (Change context data) received
      (received.set 0
        { account with data := writeState account.data newState }) :=
  SlotWise.set_one (fun _ _ _ => .same) atFirst (.rewrite decodes step)

theorem initializeStake_effect (tag : tagOf data = 0)
    (yields :
      (initializeStake minimumBalance body).Yields context state ()
        final) :
    SlotWise (Change context data) state.accounts final.accounts := by
  simp only [initializeStake, ne_eq, yields_bind, rejectBuiltin_yields,
    UInt64.not_lt, requireSlots_yields, slot_yields,
    requireWritable_yields, readPubkey_yields, readU64_yields,
    environment_yields, writeSlot_yields, log_yields, Decidable.not_not,
    ↓existsAndEq, and_true, true_and, exists_const] at yields
  rcases yields with
    ⟨_, stake, atFirst, _, sized, blank, _, staker, _, withdrawer, _, _, _,
     custodian, _, funded, written, atWritten, rfl⟩
  cases atFirst.symm.trans atWritten
  apply slotWise_rewrite atFirst (decodeState_blank sized blank)
  rw [tag]
  exact .initializeStake funded

theorem reauthorize_yields {stored stakeMeta : StakeMeta}
    {newAuth : Pubkey} {role : Nat}
    (yields :
      (reauthorize stored newAuth role).Yields context state stakeMeta
        final) :
    state = final ∧
      ∀ {lamports : UInt64} {decoded : StakeAccountState},
        decoded.meta? = some stored →
          StateStep context lamports 1 decoded
            (decoded.withMeta stakeMeta) := by
  unfold reauthorize at yields
  split at yields
  · simp only [yields_bind, requireSigner_yields, yields_pure,
      ↓existsAndEq, and_true, exists_const] at yields
    rcases yields with ⟨signed, rfl, rfl⟩
    exact ⟨rfl, fun held => .authorizeStaker held signed⟩
  · simp only [yields_bind, requireSigner_yields, yields_pure,
      ↓existsAndEq, and_true, exists_const] at yields
    rcases yields with ⟨signed, rfl, rfl⟩
    exact ⟨rfl, fun held => .authorizeWithdrawer held signed⟩
  · simp at yields

theorem authorize_effect (tag : tagOf data = 1)
    (yields : (authorize body).Yields context state () final) :
    SlotWise (Change context data) state.accounts final.accounts := by
  simp only [authorize, yields_bind, rejectBuiltin_yields,
    requireSlots_yields, slot_yields, requireWritable_yields,
    readPubkey_yields, readU32_yields, readState_yields,
    okOrBuiltin_yields, writeSlot_yields, log_yields,
    ↓existsAndEq, and_true, exists_const] at yields
  rcases yields with
    ⟨_, stake, atFirst, _, _, newAuth, _, _, decoded, decodes, stored,
     held, stakeMeta, middle, reauthorized, written, atWritten, rfl⟩
  obtain ⟨rfl, step⟩ := reauthorize_yields reauthorized
  cases atFirst.symm.trans atWritten
  apply slotWise_rewrite atFirst decodes
  rw [tag]
  exact step held

theorem delegateStake_effect (tag : tagOf data = 2)
    (yields : delegateStake.Yields context state () final) :
    SlotWise (Change context data) state.accounts final.accounts := by
  simp only [delegateStake, yields_bind, requireSlots_yields, slot_yields,
    requireWritable_yields, environment_yields, readState_yields,
    okOrBuiltin_yields, requireSigner_yields, writeSlot_yields,
    log_yields, ↓existsAndEq, and_true, true_and, exists_const, Prod.exists]
    at yields
  rcases yields with
    ⟨_, _, stake, atFirst, vote, _, _, decoded, decodes, stored, newState,
     delegates, signed, written, atWritten, rfl⟩
  cases atFirst.symm.trans atWritten
  apply slotWise_rewrite atFirst decodes
  rw [tag]
  exact .delegateStake delegates signed

theorem deactivate_effect (tag : tagOf data = 5)
    (yields : deactivate.Yields context state () final) :
    SlotWise (Change context data) state.accounts final.accounts := by
  simp only [deactivate, yields_bind, requireSlots_yields, slot_yields,
    requireWritable_yields, environment_yields, readState_yields,
    ↓existsAndEq, and_true, true_and, exists_const] at yields
  rcases yields with ⟨_, stake, atFirst, _, decoded, decodes, wrote⟩
  cases decoded with
  | uninitialized =>
      simp [yields_bind] at wrote
  | initialized stored =>
      simp [yields_bind] at wrote
  | stake stored delegation credits =>
      simp only [yields_bind, ne_eq, requireSigner_yields,
        rejectBuiltin_yields, Decidable.not_not, writeSlot_yields,
        log_yields, ↓existsAndEq, and_true, exists_const] at wrote
      rcases wrote with ⟨signed, active, written, atWritten, rfl⟩
      cases atFirst.symm.trans atWritten
      apply slotWise_rewrite atFirst decodes
      rw [tag]
      exact .deactivate active signed

theorem withdraw_effect
    (yields : (withdraw body).Yields context state () final) :
    SlotWise (Change context data) state.accounts final.accounts := by
  simp only [withdraw, yields_bind, rejectBuiltin_yields,
    requireSlots_yields, readU64_yields, slot_yields,
    requireWritable_yields, readState_yields, okOrBuiltin_yields,
    requireSigner_yields, environment_yields, writeSlot_yields,
    gt_iff_lt, UInt64.not_lt,
    ↓existsAndEq, and_true, true_and, exists_const] at yields
  rcases yields with
    ⟨_, _, _, _, stake, atFirst, recipient, atSecond, _, _, decoded,
     decodes, stored, held, signed, covered, debited, atDebited, credited,
     atCredited, drained, atDrained, wrote⟩
  cases atFirst.symm.trans atDebited
  rw [List.getElem?_set_ne (by decide)] at atCredited
  cases atSecond.symm.trans atCredited
  have withdrawal : Withdrawal context stake _ :=
    ⟨decoded, stored, decodes, held, signed, covered⟩
  have debit : Change context data 0 stake _ := .debit withdrawal
  have same : ∀ slot p, Change context data slot p p :=
    fun _ _ => .same
  have moved :=
    SlotWise.set_withdrawn same atFirst atSecond debit .credit
  split at wrote
  · rename_i emptied
    simp only [yields_bind, writeSlot_yields, log_yields, ↓existsAndEq,
      and_true, exists_const] at wrote
    rcases wrote with ⟨blanked, atBlanked, rfl⟩
    cases atDrained.symm.trans atBlanked
    rw [List.getElem?_set_ne (by decide), List.getElem?_set_self',
      atFirst] at atDrained
    cases atDrained
    have drained : Change context data 0 stake _ :=
      .drain withdrawal emptied
    refine .set ?_ atFirst drained
    intro slot p n _
    exact moved slot p n
  · rw [log_yields] at wrote
    subst wrote
    exact moved

/-- What an accepted instruction leaves of its slots. -/
theorem invoke_effect
    (yields :
      (invoke minimumBalance data).Yields context state () final) :
    SlotWise (Change context data) state.accounts final.accounts := by
  simp only [invoke, yields_bind, rejectBuiltin_yields, not_lt,
    readU32_yields, ↓existsAndEq, and_true, exists_const] at yields
  rcases yields with ⟨_, _, ran⟩
  split at ran
  · exact initializeStake_effect ‹_› ran
  · exact authorize_effect ‹_› ran
  · exact delegateStake_effect ‹_› ran
  · exact withdraw_effect ran
  · exact deactivate_effect ‹_› ran
  · simp at ran

end Handlers

end StakeProgram

theorem stakeProgramSimulator_effects
    (minimumBalance : Rent → Nat → UInt64) :
    (stakeProgramSimulator minimumBalance).Effects
      StakeProgram.Change :=
  BuiltinProgram.effects_ofRoutine fun _ _ _ _ yields =>
    StakeProgram.invoke_effect yields

end Hopper
