import HopperSvm.StakeEffects

namespace Hopper

namespace StakeProgram

open Bytes Routine Words

/-- The lamports cover the reserve, and the stake of an active delegation
on top of it. -/
structure Covers (lamports : UInt64) (state : StakeAccountState) :
    Prop where
  reserve : ∀ stakeMeta, state.meta? = some stakeMeta →
    stakeMeta.rentExemptReserve.toNat ≤ lamports.toNat
  active : ∀ stakeMeta delegation credits,
    state = .stake stakeMeta delegation credits →
      delegation.deactivationEpoch = maxU64 →
        stakeMeta.rentExemptReserve.toNat + delegation.stake.toNat ≤
          lamports.toNat

/-- The account holds a state, and the lamports the state locks. -/
def Floored (account : KeyedAccount) : Prop :=
  ∃ state, decodeState account.data = some state ∧
    Covers account.lamports state

theorem Covers.uninitialized (lamports : UInt64) :
    Covers lamports .uninitialized where
  reserve := by
    intro stakeMeta held
    cases held
  active := by
    intro stakeMeta delegation credits same
    cases same

theorem Covers.mono {lamports more : UInt64} {state : StakeAccountState}
    (covers : Covers lamports state)
    (grown : lamports.toNat ≤ more.toNat) : Covers more state where
  reserve := fun stakeMeta held =>
    (covers.reserve stakeMeta held).trans grown
  active := fun stakeMeta delegation credits same active =>
    (covers.active stakeMeta delegation credits same active).trans grown

/-- Changing only the authorities. -/
theorem Covers.withMeta {lamports : UInt64} {state : StakeAccountState}
    {stored stakeMeta : StakeMeta} (covers : Covers lamports state)
    (held : state.meta? = some stored)
    (sameReserve :
      stakeMeta.rentExemptReserve = stored.rentExemptReserve) :
    Covers lamports (state.withMeta stakeMeta) := by
  have reserve := covers.reserve stored held
  rw [← sameReserve] at reserve
  cases state with
  | uninitialized =>
      cases held
  | initialized other =>
      refine ⟨?_, ?_⟩
      · rintro _ ⟨⟩
        exact reserve
      · rintro _ _ _ ⟨⟩
  | stake other delegation credits =>
      cases held
      refine ⟨?_, ?_⟩
      · rintro _ ⟨⟩
        exact reserve
      · rintro _ _ _ ⟨⟩ active
        rw [sameReserve]
        exact covers.active _ _ _ rfl active

/-- Locking everything above the reserve. -/
theorem Covers.delegated {lamports : UInt64} {stored : StakeMeta}
    {delegation : StakeDelegation} {credits : UInt64}
    (reserve : stored.rentExemptReserve.toNat ≤ lamports.toNat)
    (locked : delegation.stake =
      saturatingSub lamports stored.rentExemptReserve) :
    Covers lamports (.stake stored delegation credits) where
  reserve := by
    rintro _ ⟨⟩
    exact reserve
  active := by
    rintro _ _ _ ⟨⟩ _
    rw [locked, toNat_saturatingSub]
    omega

/-- A step on the state locks no more than the account holds. -/
theorem StateStep.covers {context : InvokeContext} {lamports : UInt64}
    {tag : Nat} {state newState : StakeAccountState}
    (step : StateStep context lamports tag state newState)
    (covers : Covers lamports state) : Covers lamports newState := by
  cases step with
  | @initializeStake stakeMeta funded =>
      refine ⟨?_, ?_⟩
      · rintro _ ⟨⟩
        exact UInt64.le_iff_toNat_le.mp funded
      · rintro _ _ _ ⟨⟩
  | authorizeStaker held signed =>
      exact covers.withMeta held rfl
  | authorizeWithdrawer held signed =>
      exact covers.withMeta held rfl
  | delegateStake delegates signed =>
      cases state with
      | uninitialized =>
          cases delegates
      | initialized stored =>
          cases delegates
          exact .delegated (covers.reserve _ rfl) rfl
      | stake stored delegation credits =>
          cases delegates
          exact .delegated (covers.reserve _ rfl) rfl
  | deactivate active signed =>
      have locked := covers.active _ _ _ rfl active
      refine ⟨?_, ?_⟩
      · rintro _ ⟨⟩
        exact covers.reserve _ rfl
      · rintro _ _ _ ⟨⟩ _
        exact locked

/-- The locked floor is at least the reserve. -/
theorem reserve_le_lockedFloor (stored : StakeMeta) (epoch : UInt64)
    (state : StakeAccountState) :
    stored.rentExemptReserve.toNat ≤
      (lockedFloor stored epoch state).toNat := by
  have bound := toNat_le_u64Max stored.rentExemptReserve
  cases state with
  | uninitialized =>
      exact le_rfl
  | initialized other =>
      exact le_rfl
  | stake other delegation credits =>
      rw [lockedFloor]
      split
      · rw [toNat_saturatingAdd]
        omega
      · exact le_rfl

/-- A withdrawal stays above what the state locks. -/
theorem Withdrawal.covers {context : InvokeContext} {p : KeyedAccount}
    {amount : UInt64} (withdrawal : Withdrawal context p amount)
    (covers : Covers p.lamports withdrawal.state) :
    Covers (p.lamports - amount) withdrawal.state := by
  rcases withdrawal with ⟨state, stored, decoded, held, signed, covered⟩
  simp only at covers ⊢
  have available := UInt64.le_iff_toNat_le.mp covered
  rw [toNat_saturatingSub] at available
  have within : amount ≤ p.lamports :=
    UInt64.le_iff_toNat_le.mpr (by omega)
  have left := UInt64.toNat_sub_of_le p.lamports amount within
  constructor
  · intro stakeMeta held'
    cases held.symm.trans held'
    have reserve := covers.reserve stored held
    have locked :=
      reserve_le_lockedFloor stored context.sysvars.clock.epoch state
    omega
  · rintro stakeMeta delegation credits rfl active
    cases held
    have total := covers.active stored delegation credits rfl active
    have bound := toNat_le_u64Max p.lamports
    have locked :
        (lockedFloor stored context.sysvars.clock.epoch
            (.stake stored delegation credits)).toNat =
          stored.rentExemptReserve.toNat + delegation.stake.toNat := by
      rw [lockedFloor, if_pos (Or.inl active), toNat_saturatingAdd]
      omega
    omega

theorem Change.floored {context : InvokeContext} {data : List UInt8}
    {index : Nat} {p n : KeyedAccount}
    (changed : Change context data index p n) (floored : Floored p) :
    Floored n := by
  rcases floored with ⟨state, decodes, covers⟩
  have fits := length_of_decodeState decodes
  cases changed with
  | same =>
      exact ⟨state, decodes, covers⟩
  | rewrite decoded step =>
      cases decodes.symm.trans decoded
      exact ⟨_, decodeState_writeState fits _, step.covers covers⟩
  | debit withdrawal =>
      cases decodes.symm.trans withdrawal.decoded
      exact ⟨_, withdrawal.decoded, withdrawal.covers covers⟩
  | drain withdrawal emptied =>
      exact ⟨_, decodeState_zeros fits, .uninitialized _⟩
  | credit =>
      refine ⟨state, decodes, covers.mono ?_⟩
      have bound := toNat_le_u64Max p.lamports
      rw [toNat_saturatingAdd]
      omega

/-- What a step with this tag and these signers may do to a state that was
and stays initialised. -/
structure Authorised (tag : Nat) (signed : Pubkey → Prop)
    (state newState : StakeAccountState) (stored newMeta : StakeMeta) :
    Prop where
  staker : newMeta.authorized.staker ≠ stored.authorized.staker →
    tag = 1 ∧ signed stored.authorized.staker
  withdrawer :
    newMeta.authorized.withdrawer ≠ stored.authorized.withdrawer →
      tag = 1 ∧ signed stored.authorized.withdrawer
  delegation : newState.delegation? ≠ state.delegation? →
    (tag = 2 ∨ tag = 5) ∧ signed stored.authorized.staker
  rentExemptReserve : newMeta.rentExemptReserve = stored.rentExemptReserve
  lockup : newMeta.lockup = stored.lockup
  credits : ∀ credits, state.credits? = some credits →
    newState.credits? = some credits

/-- A step that leaves the state alone. -/
theorem Authorised.refl (tag : Nat) (signed : Pubkey → Prop)
    (state : StakeAccountState) (stored : StakeMeta) :
    Authorised tag signed state state stored stored where
  staker := fun changed => absurd rfl changed
  withdrawer := fun changed => absurd rfl changed
  delegation := fun changed => absurd rfl changed
  rentExemptReserve := rfl
  lockup := rfl
  credits := fun _ held => held

theorem Authorised.mono {tag : Nat} {signed signed' : Pubkey → Prop}
    {state newState : StakeAccountState} {stored newMeta : StakeMeta}
    (authorised : Authorised tag signed state newState stored newMeta)
    (more : ∀ key, signed key → signed' key) :
    Authorised tag signed' state newState stored newMeta where
  staker := fun changed => (authorised.staker changed).imp_right (more _)
  withdrawer := fun changed =>
    (authorised.withdrawer changed).imp_right (more _)
  delegation := fun changed =>
    (authorised.delegation changed).imp_right (more _)
  rentExemptReserve := authorised.rentExemptReserve
  lockup := authorised.lockup
  credits := authorised.credits

/-- No step on the state resets it. -/
theorem StateStep.isSome_meta? {context : InvokeContext}
    {lamports : UInt64} {tag : Nat}
    {state newState : StakeAccountState}
    (step : StateStep context lamports tag state newState) :
    newState.meta?.isSome := by
  cases step with
  | initializeStake funded =>
      rfl
  | authorizeStaker held signed =>
      rw [StakeAccountState.meta?_withMeta held, Option.isSome_some]
  | authorizeWithdrawer held signed =>
      rw [StakeAccountState.meta?_withMeta held, Option.isSome_some]
  | delegateStake delegates signed =>
      cases state with
      | uninitialized =>
          cases delegates
      | initialized stored =>
          cases delegates
          rfl
      | stake stored delegation credits =>
          cases delegates
          rfl
  | deactivate active signed =>
      rfl

/-- A step on the delegation alone. -/
theorem Authorised.of_delegation {tag : Nat} {signed : Pubkey → Prop}
    {state newState : StakeAccountState} {stored : StakeMeta}
    (delegating : tag = 2 ∨ tag = 5)
    (byStaker : signed stored.authorized.staker)
    (credits : ∀ credits, state.credits? = some credits →
      newState.credits? = some credits) :
    Authorised tag signed state newState stored stored where
  staker := fun changed => absurd rfl changed
  withdrawer := fun changed => absurd rfl changed
  delegation := fun _ => ⟨delegating, byStaker⟩
  rentExemptReserve := rfl
  lockup := rfl
  credits := credits

theorem StateStep.authorised {context : InvokeContext}
    {lamports : UInt64} {tag : Nat}
    {state newState : StakeAccountState} {stored newMeta : StakeMeta}
    (step : StateStep context lamports tag state newState)
    (held : state.meta? = some stored)
    (held' : newState.meta? = some newMeta) :
    Authorised tag (IsSigner context) state newState stored newMeta := by
  cases step with
  | initializeStake funded =>
      cases held
  | authorizeStaker found signed =>
      cases held.symm.trans found
      cases held'.symm.trans (StakeAccountState.meta?_withMeta found)
      exact
        { staker := fun _ => ⟨rfl, signed⟩
          withdrawer := fun changed => absurd rfl changed
          delegation := fun changed => by simp at changed
          rentExemptReserve := rfl
          lockup := rfl
          credits := fun credits held => by simpa using held }
  | authorizeWithdrawer found signed =>
      cases held.symm.trans found
      cases held'.symm.trans (StakeAccountState.meta?_withMeta found)
      exact
        { staker := fun changed => absurd rfl changed
          withdrawer := fun _ => ⟨rfl, signed⟩
          delegation := fun changed => by simp at changed
          rentExemptReserve := rfl
          lockup := rfl
          credits := fun credits held => by simpa using held }
  | delegateStake delegates signed =>
      cases state with
      | uninitialized =>
          cases held
      | initialized found =>
          cases held
          cases delegates
          cases held'
          apply Authorised.of_delegation (Or.inl rfl) signed
          intro credits absent
          cases absent
      | stake found delegation credits =>
          cases held
          cases delegates
          cases held'
          apply Authorised.of_delegation (Or.inl rfl) signed
          intro kept same
          exact same
  | deactivate active signed =>
      cases held
      cases held'
      apply Authorised.of_delegation (Or.inr rfl) signed
      intro kept same
      exact same

section Change

variable {context : InvokeContext} {data : List UInt8} {index : Nat}
  {p n : KeyedAccount} {state newState : StakeAccountState}

/-- An instruction that leaves the account initialised. -/
theorem Change.authorised {stored newMeta : StakeMeta}
    (changed : Change context data index p n)
    (decodes : decodeState p.data = some state)
    (held : state.meta? = some stored)
    (decodes' : decodeState n.data = some newState)
    (held' : newState.meta? = some newMeta) :
    Authorised (tagOf data) (IsSigner context) state newState stored
      newMeta := by
  have fits := length_of_decodeState decodes
  cases changed with
  | same =>
      cases decodes.symm.trans decodes'
      cases held.symm.trans held'
      exact .refl _ _ _ _
  | rewrite decoded step =>
      cases decodes.symm.trans decoded
      cases decodes'.symm.trans (decodeState_writeState fits _)
      exact step.authorised held held'
  | debit withdrawal =>
      cases decodes.symm.trans decodes'
      cases held.symm.trans held'
      exact .refl _ _ _ _
  | drain withdrawal emptied =>
      cases decodes'.symm.trans (decodeState_zeros fits)
      cases held'
  | credit =>
      cases decodes.symm.trans decodes'
      cases held.symm.trans held'
      exact .refl _ _ _ _

/-- The account holds an initialised state whose withdrawer satisfies the
condition. -/
def WithdrawerOf (account : KeyedAccount) (holds : Pubkey → Prop) : Prop :=
  ∃ state stakeMeta, decodeState account.data = some state ∧
    state.meta? = some stakeMeta ∧ holds stakeMeta.authorized.withdrawer

theorem Withdrawal.withdrawerOf {amount : UInt64}
    (withdrawal : Withdrawal context p amount) :
    WithdrawerOf p (IsSigner context) :=
  ⟨withdrawal.state, withdrawal.stored, withdrawal.decoded,
    withdrawal.held, withdrawal.signed⟩

/-- An instruction that takes lamports. -/
theorem Change.withdrawerOf_of_lt
    (changed : Change context data index p n)
    (fewer : n.lamports < p.lamports) :
    WithdrawerOf p (IsSigner context) := by
  cases changed with
  | same =>
      exact absurd fewer (UInt64.lt_irrefl _)
  | rewrite decoded step =>
      exact absurd fewer (UInt64.lt_irrefl _)
  | debit withdrawal =>
      exact withdrawal.withdrawerOf
  | drain withdrawal emptied =>
      exact withdrawal.withdrawerOf
  | credit =>
      have bound := toNat_le_u64Max p.lamports
      have grown := UInt64.lt_iff_toNat_lt.mp fewer
      rw [toNat_saturatingAdd] at grown
      omega

/-- An instruction that resets the account. -/
theorem Change.withdrawerOf_of_reset {stored : StakeMeta}
    (changed : Change context data index p n)
    (decodes : decodeState p.data = some state)
    (held : state.meta? = some stored)
    (reset : decodeState n.data = some .uninitialized) :
    WithdrawerOf p (IsSigner context) := by
  have fits := length_of_decodeState decodes
  cases changed with
  | same =>
      cases decodes.symm.trans reset
      cases held
  | rewrite decoded step =>
      cases decodes.symm.trans decoded
      cases reset.symm.trans (decodeState_writeState fits _)
      cases step.isSome_meta?
  | debit withdrawal =>
      exact withdrawal.withdrawerOf
  | drain withdrawal emptied =>
      exact withdrawal.withdrawerOf
  | credit =>
      cases decodes.symm.trans reset
      cases held

end Change

/-! ## Runs -/

section Runs

open Labelled StrictCall

variable {minimumBalance : Rent → Nat → UInt64} {address : Pubkey}
  {start finish p n : KeyedAccount}
  {call : StrictCall stakeProgramId (stakeProgramSimulator minimumBalance)}
  {entries : List (Entry KeyedAccount
    (StrictCall stakeProgramId (stakeProgramSimulator minimumBalance)))}

theorem change_of_moves (moves : call.Moves address p n) :
    ∃ index, Change call.context call.ix.data index p n := by
  rcases moves.effect BuiltinProgram.keepsAddresses_ofRoutine
      (stakeProgramSimulator_effects minimumBalance) with
    rfl | ⟨index, writes⟩
  · exact ⟨0, .same⟩
  · exact ⟨index, writes.changed⟩

/-- A stake account that starts out blank never holds less than its state
locks. -/
theorem run_floored
    (run : Run stakeProgramId (stakeProgramSimulator minimumBalance)
      address start entries finish)
    (sized : start.data.length = stakeAccountSize)
    (blank : readDiscriminator start.data = discriminatorUninitialized) :
    Floored finish := by
  have initial : Floored start :=
    ⟨.uninitialized, decodeState_blank sized blank, .uninitialized _⟩
  apply run.invariant _ initial
  intro before call after floored moves
  obtain ⟨index, changed⟩ := change_of_moves moves
  exact changed.floored floored

/-- The exempt minimum at the default rent. -/
def exemptMinimum (_ : Rent) (size : Nat) : UInt64 :=
  UInt64.ofNat ((size + 128) * 6960)

def blankStake : KeyedAccount :=
  { address := .filled 1
    lamports := 5000000
    data := List.replicate stakeAccountSize 0
    owner := stakeProgramId
    executable := false
    rentEpoch := 0 }

/-- The stake account, a vote account, a recipient and three wallets. -/
def stakingAccounts (stake : KeyedAccount) : List KeyedAccount :=
  [stake, .new (.filled 2) 1 (.filled 9) [] false,
    .new (.filled 3) 1 systemProgramId [] false,
    .new (.filled 4) 1 systemProgramId [] false,
    .new (.filled 5) 1 systemProgramId [] false,
    .new (.filled 6) 1 systemProgramId [] false]

/-- Staker 3 and withdrawer 4, without a lockup. -/
def initializeIx : Instruction :=
  { programId := stakeProgramId
    accounts := [⟨blankStake.address, false, true⟩]
    data :=
      [0, 0, 0, 0] ++ List.replicate 32 3 ++ List.replicate 32 4 ++
        List.replicate 48 0 }

def delegateIx : Instruction :=
  { programId := stakeProgramId
    accounts :=
      [⟨blankStake.address, false, true⟩, ⟨.filled 2, false, false⟩,
        ⟨.filled 3, true, false⟩]
    data := [2, 0, 0, 0] }

/-- Wallet 6 becomes the staker. -/
def authorizeIx : Instruction :=
  { programId := stakeProgramId
    accounts :=
      [⟨blankStake.address, false, true⟩, ⟨.filled 3, true, false⟩]
    data := [1, 0, 0, 0] ++ List.replicate 32 6 ++ [0, 0, 0, 0] }

def deactivateIx : Instruction :=
  { programId := stakeProgramId
    accounts :=
      [⟨blankStake.address, false, true⟩, ⟨.filled 6, true, false⟩]
    data := [5, 0, 0, 0] }

/-- A million lamports to account 5. -/
def withdrawIx : Instruction :=
  { programId := stakeProgramId
    accounts :=
      [⟨blankStake.address, false, true⟩, ⟨.filled 5, false, true⟩,
        ⟨.filled 4, true, false⟩]
    data := [4, 0, 0, 0] ++ u64Bytes 1000000 }

def stakingSvm : HopperSvm :=
  (HopperSvm.ofRegistry fun _ => none).withBuiltin stakeProgramId
    (stakeProgramSimulator exemptMinimum)

def nextEpochSvm : HopperSvm :=
  { stakingSvm with
    sysvars :=
      { stakingSvm.sysvars with
        clock := { stakingSvm.sysvars.clock with epoch := 1 } } }

def metaOfStaker (staker : Pubkey) : StakeMeta :=
  { rentExemptReserve := 2282880
    authorized := ⟨staker, .filled 4⟩
    lockup := ⟨0, 0, .filled 0⟩ }

/-- All but the reserve, delegated in epoch 0. -/
def delegationUntil (deactivationEpoch : UInt64) : StakeDelegation :=
  { voterPubkey := .filled 2
    stake := 2717120
    activationEpoch := 0
    deactivationEpoch
    warmupCooldownRate := ⟨0x3FD0000000000000⟩ }

def stakeHolding (state : StakeAccountState) : KeyedAccount :=
  { blankStake with data := writeState blankStake.data state }

def initializedStake : KeyedAccount :=
  stakeHolding <| .initialized (metaOfStaker (.filled 3))

def delegatedStake : KeyedAccount :=
  stakeHolding <|
    .stake (metaOfStaker (.filled 3)) (delegationUntil maxU64) 0

def authorizedStake : KeyedAccount :=
  stakeHolding <|
    .stake (metaOfStaker (.filled 6)) (delegationUntil maxU64) 0

def deactivatedStake : KeyedAccount :=
  stakeHolding <|
    .stake (metaOfStaker (.filled 6)) (delegationUntil 0) 0

def withdrawnStake : KeyedAccount :=
  { deactivatedStake with lamports := 4000000 }

/-- The five dispatches come back, in the order of `stakingEntries`. -/
theorem stakingIxs_return :
    (stakingSvm.processInstruction initializeIx
        (stakingAccounts blankStake)).isSome ∧
      (stakingSvm.processInstruction delegateIx
          (stakingAccounts initializedStake)).isSome ∧
        (stakingSvm.processInstruction authorizeIx
            (stakingAccounts delegatedStake)).isSome ∧
          (stakingSvm.processInstruction deactivateIx
              (stakingAccounts authorizedStake)).isSome ∧
            (nextEpochSvm.processInstruction withdrawIx
              (stakingAccounts deactivatedStake)).isSome := by
  decide +kernel

def initializeCall :
    StrictCall stakeProgramId (stakeProgramSimulator exemptMinimum) :=
  ofReturns stakingSvm initializeIx (stakingAccounts blankStake) ⟨rfl, rfl⟩
    rfl rfl stakingIxs_return.1

def delegateCall :
    StrictCall stakeProgramId (stakeProgramSimulator exemptMinimum) :=
  ofReturns stakingSvm delegateIx (stakingAccounts initializedStake) ⟨rfl, rfl⟩
    rfl rfl stakingIxs_return.2.1

def authorizeCall :
    StrictCall stakeProgramId (stakeProgramSimulator exemptMinimum) :=
  ofReturns stakingSvm authorizeIx (stakingAccounts delegatedStake) ⟨rfl, rfl⟩
    rfl rfl stakingIxs_return.2.2.1

def deactivateCall :
    StrictCall stakeProgramId (stakeProgramSimulator exemptMinimum) :=
  ofReturns stakingSvm deactivateIx (stakingAccounts authorizedStake) ⟨rfl, rfl⟩
    rfl rfl stakingIxs_return.2.2.2.1

def withdrawCall :
    StrictCall stakeProgramId (stakeProgramSimulator exemptMinimum) :=
  ofReturns nextEpochSvm withdrawIx (stakingAccounts deactivatedStake) ⟨rfl, rfl⟩
    rfl rfl stakingIxs_return.2.2.2.2

theorem stakingCalls_move :
    initializeCall.Moves blankStake.address blankStake initializedStake ∧
      delegateCall.Moves blankStake.address initializedStake delegatedStake ∧
        authorizeCall.Moves blankStake.address delegatedStake
            authorizedStake ∧
          deactivateCall.Moves blankStake.address authorizedStake
              deactivatedStake ∧
            withdrawCall.Moves blankStake.address deactivatedStake
              withdrawnStake := by
  unfold Call.Moves
  decide +kernel

/-- Opened, delegated, handed over, deactivated and partly withdrawn. -/
def stakingEntries :
    List (Entry KeyedAccount
      (StrictCall stakeProgramId (stakeProgramSimulator exemptMinimum))) :=
  [⟨blankStake, initializeCall, initializedStake⟩,
    ⟨initializedStake, delegateCall, delegatedStake⟩,
    ⟨delegatedStake, authorizeCall, authorizedStake⟩,
    ⟨authorizedStake, deactivateCall, deactivatedStake⟩,
    ⟨deactivatedStake, withdrawCall, withdrawnStake⟩]

theorem stakingEntries_run :
    Run stakeProgramId (stakeProgramSimulator exemptMinimum)
      blankStake.address blankStake stakingEntries withdrawnStake :=
  .cons stakingCalls_move.1 <| .cons stakingCalls_move.2.1 <|
    .cons stakingCalls_move.2.2.1 <| .cons stakingCalls_move.2.2.2.1 <|
      .cons stakingCalls_move.2.2.2.2 .nil

theorem run_floored_withdrawn : Floored withdrawnStake :=
  run_floored stakingEntries_run rfl (by decide +kernel)

/-- A step of a run: what may change in a state that stays initialised, and
what the withdrawer must have signed. -/
structure Controlled
    (entry : Entry KeyedAccount
      (StrictCall stakeProgramId (stakeProgramSimulator minimumBalance))) :
    Prop where
  stays : ∀ state stored newState newMeta,
    decodeState entry.before.data = some state →
      state.meta? = some stored →
        decodeState entry.after.data = some newState →
          newState.meta? = some newMeta →
            Authorised (tagOf entry.event.ix.data) entry.event.SignedBy
              state newState stored newMeta
  spent : entry.after.lamports < entry.before.lamports →
    WithdrawerOf entry.before entry.event.SignedBy
  reset : ∀ state stored, decodeState entry.before.data = some state →
    state.meta? = some stored →
      decodeState entry.after.data = some .uninitialized →
        WithdrawerOf entry.before entry.event.SignedBy

theorem WithdrawerOf.signedBy
    (withdrawer : WithdrawerOf p (IsSigner call.context)) :
    WithdrawerOf p call.SignedBy := by
  rcases withdrawer with ⟨state, stakeMeta, decodes, held, signed⟩
  exact ⟨state, stakeMeta, decodes, held, Call.signedBy_of_isSigner signed⟩

/-- Every step of every run is controlled by the stored authorities. -/
theorem run_controlled
    (run : Run stakeProgramId (stakeProgramSimulator minimumBalance)
      address start entries finish) :
    ∀ entry ∈ entries, Controlled entry := by
  intro entry member
  obtain ⟨index, changed⟩ := change_of_moves (run.steps entry member)
  constructor
  · intro state stored newState newMeta decodes held decodes' held'
    exact (changed.authorised decodes held decodes' held').mono
      fun _ => Call.signedBy_of_isSigner
  · intro fewer
    exact (changed.withdrawerOf_of_lt fewer).signedBy
  · intro state stored decodes held reset
    exact (changed.withdrawerOf_of_reset decodes held reset).signedBy

theorem run_controlled_withdrawn : stakingEntries.Forall Controlled :=
  List.forall_iff_forall_mem.mpr (run_controlled stakingEntries_run)

end Runs

end StakeProgram

end Hopper
