import HopperSvm.CreateAccount
import HopperSvm.SystemEffects

/-!
The stored authority controls the record of an initialised nonce account in
every run of system instructions.  It does not control the account's lamports
and owner: the instructions that take from slot 0 ask for the account's own
signature, or its base's, and never look at the record.
-/

namespace Hopper

namespace SystemProgram

open Bytes Labelled Routine StrictCall Words

/-- What an instruction with this tag and these signers may do to an
initialised record. -/
structure RecordControlled (tag : Nat) (signed : Pubkey → Prop)
    (p n : KeyedAccount) (stored newStored : NonceState) : Prop where
  changed : n.data ≠ p.data → signed stored.authority
  authority : newStored.authority ≠ stored.authority → tag = 7
  durableNonce : newStored.durableNonce ≠ stored.durableNonce → tag = 4
  fee : newStored.lamportsPerSignature = stored.lamportsPerSignature
  behind : n.data.drop nonceStateBytes = p.data.drop nonceStateBytes

theorem RecordControlled.of_sameData {tag : Nat}
    {signed : Pubkey → Prop} {p n : KeyedAccount}
    (same : n.data = p.data) (stored : NonceState) :
    RecordControlled tag signed p n stored stored where
  changed := fun changed => absurd same changed
  authority := fun changed => absurd rfl changed
  durableNonce := fun changed => absurd rfl changed
  fee := rfl
  behind := by rw [same]

theorem RecordControlled.mono {tag : Nat}
    {signed signed' : Pubkey → Prop} {p n : KeyedAccount}
    {stored newStored : NonceState}
    (controlled : RecordControlled tag signed p n stored newStored)
    (more : ∀ key, signed key → signed' key) :
    RecordControlled tag signed' p n stored newStored :=
  { controlled with
    changed := fun changed => more _ (controlled.changed changed) }

/-- The account holds an initialised record in the current version. -/
structure HoldsCurrent (account : KeyedAccount) (stored : NonceState) :
    Prop where
  nonce : HoldsNonce account.data stored
  current : CurrentVersion account.data

theorem HoldsCurrent.of_sameData {p n : KeyedAccount}
    {stored : NonceState} (holds : HoldsCurrent p stored)
    (same : n.data = p.data) : HoldsCurrent n stored := by
  constructor
  · rw [same]
    exact holds.nonce
  · rw [same]
    exact holds.current

/-- Writing an initialised state over a record. -/
theorem HoldsCurrent.of_write {p n : KeyedAccount}
    {stored newStored : NonceState} (nonce : HoldsNonce p.data stored)
    (initialized : newStored.initialized = true)
    (written : n.data = writeNonceState p.data newStored) :
    HoldsCurrent n newStored := by
  have fits := length_of_decodeNonce nonce.decoded
  constructor
  · rw [written]
    exact ⟨decodeNonce_writeNonceState fits newStored, initialized⟩
  · rw [written]
    exact currentVersion_writeNonceState fits newStored

section Change

variable {crates : Crates} {context : InvokeContext} {data : List UInt8}
  {index : Nat} {p n : KeyedAccount} {stored : NonceState}

theorem Change.recordControlled
    (changed : Change crates context data index p n)
    (holds : HoldsCurrent p stored) :
    ∃ newStored, HoldsCurrent n newStored ∧
      RecordControlled (tagOf data) (IsSigner context) p n stored
        newStored := by
  have fits := length_of_decodeNonce holds.nonce.decoded
  have full := holds.nonce.data_ne_nil
  -- most instructions leave the data alone
  have untouched : n.data = p.data →
      ∃ newStored, HoldsCurrent n newStored ∧
        RecordControlled (tagOf data) (IsSigner context) p n stored
          newStored := fun same =>
    ⟨stored, holds.of_sameData same, .of_sameData same stored⟩
  cases changed with
  | bystander behind =>
      exact untouched rfl
  | credit behind =>
      exact untouched rfl
  | create blank =>
      exact absurd blank full
  | debit taking covered =>
      exact untouched rfl
  | reassign taking =>
      exact untouched rfl
  | allocate tag blank =>
      exact absurd blank full
  | withdrawNonce tag decoded guarded =>
      exact untouched rfl
  | initializeNonce tag decoded unopened =>
      cases decoded.symm.trans holds.nonce.decoded
      exact absurd (unopened.symm.trans holds.nonce.initialized) (by decide)
  | advanceNonce tag nonce signed =>
      cases nonce.decoded.symm.trans holds.nonce.decoded
      refine ⟨_, .of_write holds.nonce rfl rfl, ?_⟩
      exact
        { changed := fun _ => signed
          authority := fun changed => absurd rfl changed
          durableNonce := fun _ => tag
          fee := rfl
          behind := drop_writeNonceState fits _ }
  | authorizeNonce tag nonce signed =>
      cases nonce.decoded.symm.trans holds.nonce.decoded
      refine ⟨_, .of_write holds.nonce rfl rfl, ?_⟩
      exact
        { changed := fun _ => signed
          authority := fun _ => tag
          durableNonce := fun changed => absurd rfl changed
          fee := rfl
          behind := drop_writeNonceState fits _ }
  | upgradeNonce tag long =>
      exact untouched (copyInto_version holds.current)
  | upgradeShort tag =>
      exact untouched rfl

end Change

section Runs

variable {crates : Crates} {address : Pubkey}
  {start finish p n : KeyedAccount} {stored : NonceState}
  {call : StrictCall systemProgramId (systemProgram crates)}
  {entries : List (Entry KeyedAccount
    (StrictCall systemProgramId (systemProgram crates)))}

theorem recordControlled_of_moves (moves : call.Moves address p n)
    (holds : HoldsCurrent p stored) :
    ∃ newStored, HoldsCurrent n newStored ∧
      RecordControlled (tagOf call.ix.data) call.SignedBy p n stored
        newStored := by
  rcases moves.effect BuiltinProgram.keepsAddresses_ofRoutine
      (systemProgram_effects crates) with
    rfl | ⟨index, writes⟩
  · exact ⟨stored, holds, .of_sameData rfl stored⟩
  · obtain ⟨newStored, holds', controlled⟩ :=
      writes.changed.recordControlled holds
    exact
      ⟨newStored, holds',
        controlled.mono fun _ => Call.signedBy_of_isSigner⟩

/-- The account holds an initialised record with this fee and these bytes
behind it. -/
def HoldsFrom (fee : UInt64) (behind : List UInt8)
    (account : KeyedAccount) : Prop :=
  ∃ state, HoldsCurrent account state ∧
    state.lamportsPerSignature = fee ∧
    account.data.drop nonceStateBytes = behind

theorem HoldsFrom.step {fee : UInt64} {behind : List UInt8}
    (holds : HoldsFrom fee behind p) (moves : call.Moves address p n) :
    HoldsFrom fee behind n := by
  rcases holds with ⟨state, current, sameFee, sameBehind⟩
  obtain ⟨newState, current', controlled⟩ :=
    recordControlled_of_moves moves current
  exact
    ⟨newState, current', controlled.fee.trans sameFee,
      controlled.behind.trans sameBehind⟩

/-- In a run from an initialised record, every step leaves an initialised
record, changed only as its authority signed, with the fee and the bytes
behind it as at the start. -/
theorem run_recordControlled
    (run : Run systemProgramId (systemProgram crates) address start entries
      finish)
    (holds : HoldsCurrent start stored) :
    ∀ entry ∈ entries, ∃ before after,
      HoldsCurrent entry.before before ∧ HoldsCurrent entry.after after ∧
        RecordControlled (tagOf entry.event.ix.data) entry.event.SignedBy
          entry.before entry.after before after ∧
        after.lamportsPerSignature = stored.lamportsPerSignature ∧
        entry.after.data.drop nonceStateBytes =
          start.data.drop nonceStateBytes := by
  intro entry member
  have initial : HoldsFrom stored.lamportsPerSignature
      (start.data.drop nonceStateBytes) start :=
    ⟨stored, holds, rfl, rfl⟩
  obtain ⟨⟨before, current, sameFee, sameBehind⟩, moves⟩ :=
    run.forall_entries (fun _ _ _ holds moves => holds.step moves) initial
      entry member
  obtain ⟨after, current', controlled⟩ :=
    recordControlled_of_moves moves current
  exact
    ⟨before, after, current, current', controlled,
      controlled.fee.trans sameFee, controlled.behind.trans sameBehind⟩

/-- The record of a nonce whose authority is `7..7`. -/
def nonceRecord : NonceState :=
  { initialized := true
    authority := .filled 7
    durableNonce := Creation.idleCrates.sha256 []
    lamportsPerSignature := nonceDefaultFee }

def nonceAccount : KeyedAccount :=
  { address := .filled 1
    lamports := 1000
    data :=
      writeNonceState (List.replicate nonceStateBytes 0) nonceRecord
    owner := systemProgramId
    executable := false
    rentEpoch := 0 }

def wallet (address : Pubkey) : KeyedAccount :=
  { address
    lamports := 1000
    data := []
    owner := systemProgramId
    executable := false
    rentEpoch := 0 }

theorem nonceAccount_holdsCurrent :
    HoldsCurrent nonceAccount nonceRecord where
  nonce :=
    { decoded := by decide +kernel
      initialized := rfl }
  current := by decide +kernel

/-- The authority hands the nonce over to `8..8`. -/
def authorizeIx : Instruction :=
  { programId := systemProgramId
    accounts := [⟨.filled 1, false, true⟩, ⟨.filled 7, true, true⟩]
    data := [7, 0, 0, 0] ++ List.replicate 32 8 }

theorem authorizeIx_returns :
    ((HopperSvm.new Creation.idleCrates).processInstruction authorizeIx
      [nonceAccount, wallet (.filled 7)]).isSome := by
  decide +kernel

def authorizeCall :
    StrictCall systemProgramId (systemProgram Creation.idleCrates) :=
  ofReturns (.new Creation.idleCrates) authorizeIx
    [nonceAccount, wallet (.filled 7)] ⟨rfl, rfl⟩ rfl rfl
    authorizeIx_returns

def authorizedAccount : KeyedAccount :=
  { nonceAccount with
    data :=
      writeNonceState nonceAccount.data
        { nonceRecord with authority := .filled 8 } }

theorem authorizeCall_moves :
    authorizeCall.Moves nonceAccount.address nonceAccount
      authorizedAccount := by
  simp only [Call.Moves]
  decide +kernel

def authorizeEntry :
    Entry KeyedAccount
      (StrictCall systemProgramId (systemProgram Creation.idleCrates)) :=
  ⟨nonceAccount, authorizeCall, authorizedAccount⟩

theorem run_recordControlled_authorize :
    ∃ before after,
      HoldsCurrent nonceAccount before ∧
        HoldsCurrent authorizedAccount after ∧
        RecordControlled (tagOf authorizeIx.data) authorizeCall.SignedBy
          nonceAccount authorizedAccount before after ∧
        after.lamportsPerSignature = nonceRecord.lamportsPerSignature ∧
        authorizedAccount.data.drop nonceStateBytes =
          nonceAccount.data.drop nonceStateBytes :=
  run_recordControlled (.cons authorizeCall_moves .nil)
    nonceAccount_holdsCurrent authorizeEntry List.mem_cons_self

end Runs

/-! ## Lamports and owner -/

/-- The instruction takes lamports from the account, or gives it another
owner. -/
def Takes (data : List UInt8) (account : KeyedAccount) : Prop :=
  match takingOf data with
  | .debit lamports => lamports ≠ 0
  | .reassign owner => owner ≠ account.owner
  | .nothing => False

instance (data : List UInt8) (account : KeyedAccount) :
    Decidable (Takes data account) := by
  simp only [Takes]
  split <;> infer_instance

/-- The account lost lamports or changed its owner. -/
def Taken (p n : KeyedAccount) : Prop :=
  n.lamports < p.lamports ∨ n.owner ≠ p.owner

theorem takes_of_debit {data : List UInt8} {account : KeyedAccount}
    {amount : UInt64} (taking : takingOf data = .debit amount) :
    Takes data account ↔ amount ≠ 0 := by
  rw [Takes, taking]

theorem takes_of_reassign {data : List UInt8} {account : KeyedAccount}
    {owner : Pubkey} (taking : takingOf data = .reassign owner) :
    Takes data account ↔ owner ≠ account.owner := by
  rw [Takes, taking]

/-- Only these six instructions take anything. -/
theorem not_takes_of_tag {data : List UInt8} {account : KeyedAccount}
    {tag : Nat} (same : tagOf data = tag)
    (other : tag ∉ [0, 1, 2, 3, 9, 10]) : ¬ Takes data account := by
  have nothing : takingOf data = .nothing := by
    simp only [takingOf]
    rw [same]
    split
    case h_7 => rfl
    all_goals exact absurd (by decide) other
  rw [Takes, nothing]
  exact id

theorem not_taken_of_same {p n : KeyedAccount}
    (sameLamports : n.lamports = p.lamports)
    (sameOwner : n.owner = p.owner) : ¬ Taken p n := by
  intro taken
  rcases taken with fewer | reassigned
  · rw [sameLamports] at fewer
    exact UInt64.lt_irrefl _ fewer
  · exact reassigned sameOwner

section Change

variable {crates : Crates} {context : InvokeContext} {data : List UInt8}
  {index : Nat} {p n : KeyedAccount} {stored : NonceState}

/-- Unless the authority signs, only a taking from slot 0 takes from an
initialised nonce account. -/
theorem Change.takes_of_taken
    (changed : Change crates context data index p n)
    (nonce : HoldsNonce p.data stored) (taken : Taken p n) :
    IsSigner context stored.authority ∨ (index = 0 ∧ Takes data p) := by
  have full := nonce.data_ne_nil
  cases changed with
  | bystander behind =>
      exact absurd taken (not_taken_of_same rfl rfl)
  | credit behind =>
      rcases taken with fewer | reassigned
      · have grown := UInt64.lt_iff_toNat_lt.mp fewer
        have bound := toNat_le_u64Max p.lamports
        rw [toNat_saturatingAdd] at grown
        omega
      · exact absurd rfl reassigned
  | create blank =>
      exact absurd blank full
  | debit taking covered =>
      right
      refine ⟨rfl, (takes_of_debit taking).mpr ?_⟩
      intro equal
      subst equal
      have kept : p.lamports - 0 = p.lamports := UInt64.sub_zero _
      exact absurd taken (not_taken_of_same kept rfl)
  | reassign taking =>
      right
      refine ⟨rfl, (takes_of_reassign taking).mpr ?_⟩
      intro equal
      subst equal
      exact absurd taken (not_taken_of_same rfl rfl)
  | allocate tag blank =>
      exact absurd blank full
  | withdrawNonce tag decoded guarded =>
      left
      cases decoded.symm.trans nonce.decoded
      exact guarded nonce.initialized
  | initializeNonce tag decoded unopened =>
      cases decoded.symm.trans nonce.decoded
      exact absurd (unopened.symm.trans nonce.initialized) (by decide)
  | advanceNonce tag held signed =>
      left
      cases held.decoded.symm.trans nonce.decoded
      exact signed
  | authorizeNonce tag held signed =>
      left
      cases held.decoded.symm.trans nonce.decoded
      exact signed
  | upgradeNonce tag long =>
      exact absurd taken (not_taken_of_same rfl rfl)
  | upgradeShort tag =>
      exact absurd taken (not_taken_of_same rfl rfl)

/-- A taking from slot 0 takes. -/
theorem Change.taken_of_takes
    (changed : Change crates context data 0 p n) (takes : Takes data p) :
    Taken p n := by
  cases changed with
  | bystander behind =>
      exact absurd behind (Nat.lt_irrefl 0)
  | credit behind =>
      exact absurd behind (Nat.lt_irrefl 0)
  | debit taking covered =>
      left
      have spent := (takes_of_debit taking).mp takes
      exact UInt64.sub_lt (UInt64.pos_iff_ne_zero.mpr spent) covered
  | reassign taking =>
      right
      exact (takes_of_reassign taking).mp takes
  | allocate tag blank =>
      exact absurd takes (not_takes_of_tag tag (by decide))
  | withdrawNonce tag decoded guarded =>
      exact absurd takes (not_takes_of_tag tag (by decide))
  | initializeNonce tag decoded unopened =>
      exact absurd takes (not_takes_of_tag tag (by decide))
  | advanceNonce tag held signed =>
      exact absurd takes (not_takes_of_tag tag (by decide))
  | authorizeNonce tag held signed =>
      exact absurd takes (not_takes_of_tag tag (by decide))
  | upgradeNonce tag long =>
      exact absurd takes (not_takes_of_tag tag (by decide))
  | upgradeShort tag =>
      exact absurd takes (not_takes_of_tag tag (by decide))

end Change

section Runs

variable {crates : Crates} {address : Pubkey}
  {start finish : KeyedAccount}
  {entries : List (Entry KeyedAccount
    (StrictCall systemProgramId (systemProgram crates)))}

/-- No successful step takes from a system-owned account that holds an
initialised nonce, unless the stored authority signed it. -/
def TakenOnlyIfSigned
    (entries : List (Entry KeyedAccount
      (StrictCall systemProgramId (systemProgram crates)))) : Prop :=
  ∀ entry ∈ entries, ∀ stored,
    entry.before.owner = systemProgramId →
      HoldsNonce entry.before.data stored → entry.event.Succeeded →
        Taken entry.before entry.after →
          entry.event.SignedBy stored.authority

/-- Every successful step that takes from slot 0 and names a system-owned
account that holds an initialised nonce there, and in no later slot, carries
the stored authority as a signer. -/
def TakingsCountersigned (address : Pubkey)
    (entries : List (Entry KeyedAccount
      (StrictCall systemProgramId (systemProgram crates)))) : Prop :=
  ∀ entry ∈ entries, ∀ stored,
    entry.before.owner = systemProgramId →
      HoldsNonce entry.before.data stored → entry.event.Succeeded →
        LastSlot entry.event.ix.accounts address 0 →
          Takes entry.event.ix.data entry.before →
            entry.event.SignedBy stored.authority

/-- The authority controls lamports and owner in just the runs in which it
also signs what takes from slot 0. -/
theorem run_takenOnlyIfSigned_iff
    (run : Run systemProgramId (systemProgram crates) address start entries
      finish) :
    TakenOnlyIfSigned entries ↔ TakingsCountersigned address entries := by
  constructor
  · intro controlled entry member stored owned nonce success last takes
    have moves := run.steps entry member
    have writes :=
      moves.writes BuiltinProgram.keepsAddresses_ofRoutine
        (systemProgram_effects crates) success last
    exact controlled entry member stored owned nonce success
      (writes.changed.taken_of_takes takes)
  · intro countersigned entry member stored owned nonce success taken
    have moves := run.steps entry member
    rcases moves.effect BuiltinProgram.keepsAddresses_ofRoutine
        (systemProgram_effects crates) with
      kept | ⟨index, writes⟩
    · rw [kept] at taken
      exact absurd taken (not_taken_of_same rfl rfl)
    · rcases writes.changed.takes_of_taken nonce taken with
        signed | ⟨rfl, takes⟩
      · exact Call.signedBy_of_isSigner signed
      · exact countersigned entry member stored owned nonce success
          writes.last takes

/-- A transfer of 100 lamports out of the nonce account, on its own
signature. -/
def drainIx : Instruction :=
  { programId := systemProgramId
    accounts := [⟨.filled 1, true, true⟩, ⟨.filled 2, false, true⟩]
    data := [2, 0, 0, 0, 100, 0, 0, 0, 0, 0, 0, 0] }

theorem drainIx_returns :
    ((HopperSvm.new Creation.idleCrates).processInstruction drainIx
      [nonceAccount, wallet (.filled 2)]).isSome := by
  decide +kernel

def drainCall :
    StrictCall systemProgramId (systemProgram Creation.idleCrates) :=
  ofReturns (.new Creation.idleCrates) drainIx
    [nonceAccount, wallet (.filled 2)] ⟨rfl, rfl⟩ rfl rfl drainIx_returns

def drainedAccount : KeyedAccount :=
  { nonceAccount with lamports := 900 }

theorem drainCall_moves :
    drainCall.Moves nonceAccount.address nonceAccount drainedAccount := by
  simp only [Call.Moves]
  decide +kernel

def drainEntry :
    Entry KeyedAccount
      (StrictCall systemProgramId (systemProgram Creation.idleCrates)) :=
  ⟨nonceAccount, drainCall, drainedAccount⟩

theorem run_takenOnlyIfSigned_iff_drain :
    TakenOnlyIfSigned [drainEntry] ↔
      TakingsCountersigned nonceAccount.address [drainEntry] :=
  run_takenOnlyIfSigned_iff (.cons drainCall_moves .nil)

/-- The account's own signature is enough to take from it. -/
theorem drained_without_authority :
    Run systemProgramId (systemProgram Creation.idleCrates)
        nonceAccount.address nonceAccount [drainEntry] drainedAccount ∧
      ¬ TakenOnlyIfSigned [drainEntry] := by
  refine ⟨.cons drainCall_moves .nil, ?_⟩
  intro controlled
  have nonce : HoldsNonce nonceAccount.data nonceRecord :=
    ⟨by decide +kernel, rfl⟩
  have success : drainCall.Succeeded := by
    simp only [Call.Succeeded]
    decide +kernel
  have fewer : drainedAccount.lamports < nonceAccount.lamports := by
    decide
  obtain ⟨accountMeta, member, same, _⟩ :=
    controlled _ List.mem_cons_self nonceRecord rfl nonce success
      (Or.inl fewer)
  revert same
  revert accountMeta
  decide +kernel

end Runs

end SystemProgram

end Hopper
