import HopperSvm.StakeRuns
import HopperSvm.VoteEffects

namespace Hopper

namespace VoteProgram

open Bytes Routine Words

/-- The address at an offset of the data satisfies the condition. -/
def KeyAt (data : List UInt8) (start : Nat) (holds : Pubkey → Prop) : Prop :=
  ∃ key, pubkeyAt data start = some key ∧ holds key

theorem KeyAt.mono {data : List UInt8} {start : Nat}
    {holds holds' : Pubkey → Prop} (keyAt : KeyAt data start holds)
    (more : ∀ key, holds key → holds' key) : KeyAt data start holds' := by
  rcases keyAt with ⟨key, stored, held⟩
  exact ⟨key, stored, more key held⟩

/-- When an instruction with this tag and these signers may change a field
of the header. -/
def MayChange (tag : Nat) (signed : Pubkey → Prop)
    (before after : List UInt8) : HeaderField → Prop
  | .nodePubkey =>
      tag = 4 ∧ KeyAt before 36 signed ∧ KeyAt after 4 signed
  | .authorizedWithdrawer => tag = 1 ∧ KeyAt before 36 signed
  | .commission => tag = 5 ∧ KeyAt before 36 signed
  | .authorizedVoter =>
      tag = 1 ∧ KeyAt before authorizedVoterOffset signed

theorem MayChange.mono {tag : Nat} {signed signed' : Pubkey → Prop}
    {before after : List UInt8} {which : HeaderField}
    (may : MayChange tag signed before after which)
    (more : ∀ key, signed key → signed' key) :
    MayChange tag signed' before after which := by
  cases which with
  | nodePubkey =>
      exact ⟨may.1, may.2.1.mono more, may.2.2.mono more⟩
  | authorizedWithdrawer =>
      exact ⟨may.1, may.2.mono more⟩
  | commission =>
      exact ⟨may.1, may.2.mono more⟩
  | authorizedVoter =>
      exact ⟨may.1, may.2.mono more⟩

/-- What an instruction with this tag and these signers may do to an account
that was and stays initialised. -/
structure Authorised (minimum : UInt64) (tag : Nat)
    (signed : Pubkey → Prop) (p n : KeyedAccount) : Prop where
  fields : ∀ which : HeaderField, which.read n.data ≠ which.read p.data →
    MayChange tag signed p.data n.data which
  frame : ∃ which : HeaderField, ∀ index,
    index < which.start ∨ which.start + which.width ≤ index →
      n.data[index]? = p.data[index]?
  sized : n.data.length = p.data.length
  spent : n.lamports < p.lamports →
    KeyAt p.data 36 signed ∧ minimum ≤ n.lamports

theorem Authorised.mono {minimum : UInt64} {tag : Nat}
    {signed signed' : Pubkey → Prop} {p n : KeyedAccount}
    (authorised : Authorised minimum tag signed p n)
    (more : ∀ key, signed key → signed' key) :
    Authorised minimum tag signed' p n where
  fields := fun which changed => (authorised.fields which changed).mono more
  frame := authorised.frame
  sized := authorised.sized
  spent := fun fewer =>
    (authorised.spent fewer).imp_left fun signer => signer.mono more

/-- Only the lamports moved. -/
theorem Authorised.of_sameData {minimum : UInt64} {tag : Nat}
    {signed : Pubkey → Prop} {p n : KeyedAccount}
    (same : n.data = p.data)
    (spent : n.lamports < p.lamports →
      KeyAt p.data 36 signed ∧ minimum ≤ n.lamports) :
    Authorised minimum tag signed p n where
  fields := by
    intro which changed
    rw [same] at changed
    exact absurd rfl changed
  frame := by
    refine ⟨.commission, ?_⟩
    intro index _
    rw [same]
  sized := by rw [same]
  spent := spent

section Fields

variable {data bytes : List UInt8} {which other : HeaderField}

/-- The field that was written. -/
theorem HeaderField.read_copyInto
    (fits : which.start + which.width ≤ data.length)
    (sized : bytes.length = which.width) :
    which.read (copyInto data which.start bytes) = bytes :=
  field_copyInto_same (by omega) sized

/-- The other fields stay. -/
theorem HeaderField.read_copyInto_of_ne
    (fits : which.start + which.width ≤ data.length)
    (sized : bytes.length = which.width) (different : other ≠ which) :
    other.read (copyInto data which.start bytes) = other.read data := by
  apply field_copyInto_apart (by omega)
  rw [sized]
  exact HeaderField.apart different

/-- Writing over a field as an instruction may. -/
theorem Rewrites.mayChange {context : InvokeContext} {tag : Nat}
    (rewrites : Rewrites context data tag which bytes)
    (fits : which.start + which.width ≤ data.length) :
    MayChange tag (IsSigner context) data
      (copyInto data which.start bytes) which := by
  cases rewrites with
  | authorizeVoter stored signed =>
      exact ⟨rfl, _, stored, signed⟩
  | authorizeWithdrawer stored signed =>
      exact ⟨rfl, _, stored, signed⟩
  | @updateValidatorIdentity withdrawer newNode stored signed joined =>
      have written : field (copyInto data 4 newNode.bytes) 4 32 =
          newNode.bytes :=
        HeaderField.read_copyInto fits newNode.length_eq
      exact
        ⟨rfl, ⟨_, stored, signed⟩, newNode,
          Pubkey.newFromArray_eq_some.mpr written, joined⟩
  | updateCommission stored signed percentage =>
      exact ⟨rfl, _, stored, signed⟩

end Fields

/-- A blanked header is not initialised. -/
theorem readVersion_blanked (data : List UInt8) :
    readVersion
      (copyInto data 0 (List.replicate voteAccountHeaderSize 0)) = 0 := by
  have zeros :
      field (copyInto data 0 (List.replicate voteAccountHeaderSize 0)) 0
          4 = List.replicate 4 0 := by
    rw [copyInto, List.take_zero, List.nil_append, field, List.drop_zero,
      List.take_append_of_le_length (by decide)]
    rfl
  simp only [readVersion]
  split
  · rfl
  · rw [u32At, zeros]
    rfl

section Change

variable {minimumBalance : Rent → Nat → UInt64} {context : InvokeContext}
  {data : List UInt8} {index : Nat} {p n : KeyedAccount}

theorem Withdrawal.keyAt {amount : UInt64}
    (withdrawal : Withdrawal minimumBalance context p amount) :
    KeyAt p.data 36 (IsSigner context) :=
  ⟨withdrawal.withdrawer, withdrawal.stored, withdrawal.signed⟩

/-- A withdrawal leaves the exempt minimum. -/
theorem Withdrawal.minimum_le {amount : UInt64}
    (withdrawal : Withdrawal minimumBalance context p amount)
    (fewer : p.lamports - amount < p.lamports) :
    minimumBalance context.sysvars.rent p.data.length ≤
      p.lamports - amount := by
  have covered := UInt64.le_iff_toNat_le.mp withdrawal.covered
  rw [toNat_saturatingSub] at covered
  have within : amount ≤ p.lamports :=
    UInt64.le_iff_toNat_le.mpr (by omega)
  have left := UInt64.toNat_sub_of_le p.lamports amount within
  rw [UInt64.lt_iff_toNat_lt] at fewer
  rw [UInt64.le_iff_toNat_le]
  omega

/-- An instruction that leaves the account initialised. -/
theorem Change.authorised
    (changed : Change minimumBalance context data index p n)
    (initialized : readVersion p.data ≠ 0)
    (stays : readVersion n.data ≠ 0) :
    Authorised (minimumBalance context.sysvars.rent p.data.length)
      (tagOf data) (IsSigner context) p n := by
  cases changed with
  | same =>
      apply Authorised.of_sameData rfl
      intro fewer
      exact absurd fewer (UInt64.lt_irrefl _)
  | initializeAccount voter withdrawer tag sized blank signed funded =>
      exact absurd blank initialized
  | @rewrite _ which bytes _ fits rewrites =>
      have sized := rewrites.sized
      constructor
      · intro other changed
        by_cases same : other = which
        · subst same
          exact rewrites.mayChange fits
        · exact
            absurd (HeaderField.read_copyInto_of_ne fits sized same) changed
      · refine ⟨which, ?_⟩
        intro index outside
        rw [getElem?_copyInto (by omega), sized]
        rcases outside with before | behind
        · rw [if_pos before]
        · rw [if_neg (by omega), if_neg (by omega)]
      · exact length_copyInto (by rw [sized]; exact fits)
      · intro fewer
        exact absurd fewer (UInt64.lt_irrefl _)
  | debit withdrawal =>
      apply Authorised.of_sameData
      · rfl
      · intro fewer
        exact ⟨withdrawal.keyAt, withdrawal.minimum_le fewer⟩
  | drain sized withdrawal emptied =>
      exact absurd (readVersion_blanked p.data) stays
  | credit =>
      apply Authorised.of_sameData
      · rfl
      · intro fewer
        have bound := toNat_le_u64Max p.lamports
        have grown := UInt64.lt_iff_toNat_lt.mp fewer
        rw [toNat_saturatingAdd] at grown
        omega

/-- An initialised account holds the exempt minimum of its size. -/
def Exempt (minimumBalance : Rent → Nat → UInt64) (rent : Rent)
    (account : KeyedAccount) : Prop :=
  readVersion account.data ≠ 0 →
    minimumBalance rent account.data.length ≤ account.lamports

theorem length_initializedData {bytes : List UInt8}
    (sized : voteAccountHeaderSize ≤ bytes.length)
    (node voter withdrawer : Pubkey) (commission : UInt8) :
    (initializedData bytes node voter withdrawer commission).length =
      bytes.length := by
  simp only [voteAccountHeaderSize] at sized
  simp only [initializedData, copyInto, List.length_append,
    List.length_take, List.length_drop, List.length_replicate,
    length_u32Bytes, Pubkey.length_eq, List.length_singleton,
    voteAccountHeaderSize, authorizedVoterOffset]
  omega

theorem Change.exempt
    (changed : Change minimumBalance context data index p n)
    (exempt : Exempt minimumBalance context.sysvars.rent p) :
    Exempt minimumBalance context.sysvars.rent n := by
  cases changed with
  | same =>
      exact exempt
  | initializeAccount voter withdrawer tag sized blank signed funded =>
      intro _
      simp only
      rw [length_initializedData sized]
      exact funded
  | rewrite initialized fits rewrites =>
      intro _
      have enough := exempt initialized
      simp only
      rw [length_copyInto (by rw [rewrites.sized]; exact fits)]
      exact enough
  | @debit _ amount withdrawal =>
      intro initialized
      have enough := exempt initialized
      by_cases fewer : p.lamports - amount < p.lamports
      · exact withdrawal.minimum_le fewer
      · exact UInt64.le_trans enough (UInt64.not_lt.mp fewer)
  | drain sized withdrawal emptied =>
      intro initialized
      exact absurd (readVersion_blanked p.data) initialized
  | credit =>
      intro initialized
      have enough := UInt64.le_iff_toNat_le.mp (exempt initialized)
      have bound := toNat_le_u64Max p.lamports
      simp only
      rw [UInt64.le_iff_toNat_le, toNat_saturatingAdd]
      omega

end Change

/-! ## Runs -/

section Runs

open Labelled StrictCall

variable {minimumBalance : Rent → Nat → UInt64} {rent : Rent}
  {address : Pubkey} {start finish p n : KeyedAccount}
  {call : StrictCall voteProgramId (voteProgramSimulator minimumBalance)}
  {entries : List (Entry KeyedAccount
    (StrictCall voteProgramId (voteProgramSimulator minimumBalance)))}

theorem change_of_moves (moves : call.Moves address p n) :
    ∃ index, Change minimumBalance call.context call.ix.data index p n := by
  rcases moves.effect BuiltinProgram.keepsAddresses_ofRoutine
      (voteProgramSimulator_effects minimumBalance) with
    rfl | ⟨index, writes⟩
  · exact ⟨0, .same⟩
  · exact ⟨index, writes.changed⟩

/-- A step of a run: what may become of an account that was and stays
initialised. -/
def Controlled (rent : Rent)
    (entry : Entry KeyedAccount
      (StrictCall voteProgramId (voteProgramSimulator minimumBalance))) :
    Prop :=
  readVersion entry.before.data ≠ 0 → readVersion entry.after.data ≠ 0 →
    Authorised (minimumBalance rent entry.before.data.length)
      (tagOf entry.event.ix.data) entry.event.SignedBy entry.before
      entry.after

/-- With the rent fixed, the authorities in the header control every step
of every run, and an account that was set up in the run, or before it, keeps
the exempt minimum as long as it is initialised. -/
theorem run_header_controlled
    (run : Run voteProgramId (voteProgramSimulator minimumBalance) address
      start entries finish)
    (fixed : ∀ entry ∈ entries, entry.event.svm.sysvars.rent = rent) :
    (∀ entry ∈ entries, Controlled rent entry) ∧
      (Exempt minimumBalance rent start →
        Exempt minimumBalance rent finish) := by
  constructor
  · intro entry member initialized stays
    obtain ⟨index, changed⟩ := change_of_moves (run.steps entry member)
    have authorised := changed.authorised initialized stays
    have sameRent : entry.event.context.sysvars.rent = rent :=
      fixed entry member
    rw [sameRent] at authorised
    exact authorised.mono fun _ => Call.signedBy_of_isSigner
  · intro exempt
    have keeps : ∀ before
        (call : StrictCall voteProgramId
          (voteProgramSimulator minimumBalance)) after,
        Exempt minimumBalance rent before →
          call.Moves address before after →
            Exempt minimumBalance rent after ∨
              call.svm.sysvars.rent ≠ rent := by
      intro before call after enough moves
      by_cases sameRent : call.svm.sysvars.rent = rent
      · left
        obtain ⟨index, changed⟩ := change_of_moves moves
        subst sameRent
        exact changed.exempt enough
      · exact Or.inr sameRent
    have keptOrChanged :
        Exempt minimumBalance rent finish ∨
          ∃ entry ∈ entries, entry.event.svm.sysvars.rent ≠ rent :=
      run.invariant_or keeps exempt
    rcases keptOrChanged with kept | ⟨entry, member, other⟩
    · exact kept
    · exact absurd (fixed entry member) other

def blankVote : KeyedAccount :=
  { address := .filled 1
    lamports := 2000000
    data := List.replicate voteAccountHeaderSize 0
    owner := voteProgramId
    executable := false
    rentEpoch := 0 }

/-- A vote account of node `4..4`, voter `5..5` and withdrawer `6..6`, at a
commission of 7%. -/
def openVote : KeyedAccount :=
  { blankVote with
    data :=
      initializedData blankVote.data (.filled 4) (.filled 5) (.filled 6) 7 }

def initializeVoteIx : Instruction :=
  { programId := voteProgramId
    accounts := [⟨.filled 1, false, true⟩, ⟨.filled 4, true, false⟩]
    data :=
      List.replicate 4 0 ++ List.replicate 32 4 ++ List.replicate 32 5 ++
        List.replicate 32 6 ++ [7] }

/-- The withdrawer raises the commission to 50%. -/
def raiseCommissionIx : Instruction :=
  { programId := voteProgramId
    accounts := [⟨.filled 1, false, true⟩, ⟨.filled 6, true, false⟩]
    data := [5, 0, 0, 0, 50] }

def raisedVote : KeyedAccount :=
  { openVote with data := copyInto openVote.data 68 [50] }

def voteSvm : HopperSvm :=
  (HopperSvm.ofRegistry fun _ => none).withBuiltin voteProgramId
    (voteProgramSimulator StakeProgram.exemptMinimum)

theorem voteSvm_registered :
    voteSvm.Registered voteProgramId
      (voteProgramSimulator StakeProgram.exemptMinimum) :=
  ⟨rfl, rfl⟩

def voteWallet (address : Pubkey) : KeyedAccount :=
  { address
    lamports := 1000
    data := []
    owner := systemProgramId
    executable := false
    rentEpoch := 0 }

theorem initializeVoteIx_returns :
    (voteSvm.processInstruction initializeVoteIx
      [blankVote, voteWallet (.filled 4)]).isSome := by
  decide +kernel

def initializeVoteCall :
    StrictCall voteProgramId
      (voteProgramSimulator StakeProgram.exemptMinimum) :=
  ofReturns voteSvm initializeVoteIx [blankVote, voteWallet (.filled 4)]
    voteSvm_registered rfl rfl initializeVoteIx_returns

theorem raiseCommissionIx_returns :
    (voteSvm.processInstruction raiseCommissionIx
      [openVote, voteWallet (.filled 6)]).isSome := by
  decide +kernel

def raiseCommissionCall :
    StrictCall voteProgramId
      (voteProgramSimulator StakeProgram.exemptMinimum) :=
  ofReturns voteSvm raiseCommissionIx [openVote, voteWallet (.filled 6)]
    voteSvm_registered rfl rfl raiseCommissionIx_returns

theorem initializeVoteCall_moves :
    initializeVoteCall.Moves blankVote.address blankVote openVote := by
  simp only [Call.Moves]
  decide +kernel

theorem raiseCommissionCall_moves :
    raiseCommissionCall.Moves blankVote.address openVote raisedVote := by
  simp only [Call.Moves]
  decide +kernel

/-- Set up, then updated. -/
def openingEntries :
    List (Entry KeyedAccount
      (StrictCall voteProgramId
        (voteProgramSimulator StakeProgram.exemptMinimum))) :=
  [⟨blankVote, initializeVoteCall, openVote⟩,
    ⟨openVote, raiseCommissionCall, raisedVote⟩]

theorem openingEntries_run :
    Run voteProgramId (voteProgramSimulator StakeProgram.exemptMinimum)
      blankVote.address blankVote openingEntries raisedVote :=
  .cons initializeVoteCall_moves (.cons raiseCommissionCall_moves .nil)

theorem run_header_controlled_raise :
    (∀ entry ∈ openingEntries,
        Controlled voteSvm.sysvars.rent entry) ∧
      (Exempt StakeProgram.exemptMinimum voteSvm.sysvars.rent blankVote →
        Exempt StakeProgram.exemptMinimum voteSvm.sysvars.rent
          raisedVote) := by
  apply run_header_controlled openingEntries_run
  intro entry member
  simp only [openingEntries, List.mem_cons, List.not_mem_nil, or_false]
    at member
  rcases member with rfl | rfl
  · rfl
  · rfl

end Runs

end VoteProgram

end Hopper
