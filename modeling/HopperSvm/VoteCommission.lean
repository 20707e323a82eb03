import HopperSvm.VoteRuns

/-!
An update checks that the commission is a percentage; setting up stores
whatever byte it is handed.  So the commission stays a percentage in the runs
whose every account is opened with one.
-/

namespace Hopper

namespace VoteProgram

open Bytes Labelled Routine Words

/-- The commission of an initialised account is a percentage. -/
def HoldsPercentage (account : KeyedAccount) : Prop :=
  readVersion account.data ≠ 0 → byteAt account.data 68 ≤ 100

section Byte

variable {data bytes : List UInt8}

/-- Writing over another field leaves the commission. -/
theorem byteAt_copyInto_other {which : HeaderField}
    (fits : which.start + which.width ≤ data.length)
    (sized : bytes.length = which.width)
    (other : which ≠ .commission) :
    byteAt (copyInto data which.start bytes) 68 = byteAt data 68 := by
  have clear := HeaderField.apart (Ne.symm other)
  have same : (copyInto data which.start bytes)[68]? = data[68]? := by
    rw [getElem?_copyInto (by omega), sized]
    change 68 + 1 ≤ which.start ∨ which.start + which.width ≤ 68 at clear
    rcases clear with before | behind
    · rw [if_pos (by omega)]
    · rw [if_neg (by omega), if_neg (by omega)]
  rw [byteAt, byteAt, List.getD_eq_getElem?_getD, same,
    List.getD_eq_getElem?_getD]

/-- The commission that an account is opened with. -/
theorem byteAt_initializedData (node voter withdrawer : Pubkey)
    (commission : UInt8) (sized : voteAccountHeaderSize ≤ data.length) :
    byteAt (initializedData data node voter withdrawer commission) 68 =
      commission := by
  have written {base : List UInt8}
      (enough : voteAccountHeaderSize ≤ base.length) :
      byteAt
          (copyInto (copyInto base 68 [commission]) authorizedVoterOffset
            voter.bytes) 68 =
        commission := by
    have long : 112 ≤ base.length := enough
    have kept : (copyInto base 68 [commission]).length = base.length :=
      length_copyInto (by rw [List.length_singleton]; omega)
    have fits : 80 + 32 ≤ (copyInto base 68 [commission]).length := by
      omega
    have behind :
        byteAt
            (copyInto (copyInto base 68 [commission])
              authorizedVoterOffset voter.bytes) 68 =
          byteAt (copyInto base 68 [commission]) 68 :=
      @byteAt_copyInto_other _ voter.bytes .authorizedVoter fits
        voter.length_eq (by decide)
    rw [behind]
    apply byteAt_of_field
    exact field_copyInto_same (by omega) rfl
  apply written
  simp only [voteAccountHeaderSize] at sized
  simp only [copyInto, List.length_append, List.length_take,
    List.length_drop, List.length_replicate, length_u32Bytes,
    Pubkey.length_eq, voteAccountHeaderSize]
  omega

end Byte

section Step

variable {minimumBalance : Rent → Nat → UInt64} {context : InvokeContext}
  {data : List UInt8} {index : Nat} {p n : KeyedAccount}

/-- The node that the instruction names has signed. -/
def NodeSigned (context : InvokeContext) (data : List UInt8) : Prop :=
  ∃ node : Pubkey,
    ((data.drop 4).drop 0).take 32 = node.bytes ∧ IsSigner context node

/-- What a setup has checked besides the account itself. -/
theorem invoke_opening_checks {state final : InvokeState}
    (tag : tagOf data = 0)
    (yields :
      (invoke minimumBalance data).Yields context state () final) :
    ∃ vote, state.accounts[0]? = some vote ∧
      IsWritable context vote.address ∧ NodeSigned context data := by
  have zero :
      (UInt32.ofNat (leNat ((data.drop 0).take 4))).toNat = 0 := tag
  simp only [invoke, yields_bind, rejectBuiltin_yields, readU32_yields,
    ↓existsAndEq, and_true, zero] at yields
  obtain ⟨_, _, ran⟩ := yields
  simp only [initializeAccount, yields_bind, rejectBuiltin_yields,
    requireSlots_yields, slot_yields, requireWritable_yields,
    requireSigner_yields, readPubkey_yields, ↓existsAndEq, and_true,
    exists_const] at ran
  obtain
    ⟨_, _, vote, atFirst, writable, _, _, _, node, ⟨_, named⟩, _, _, _, _,
     signed, _⟩ := ran
  exact ⟨vote, atFirst, writable, node, named, signed⟩

/-- What is written over a commission is a percentage. -/
theorem Rewrites.percentage {header bytes : List UInt8} {tag : Nat}
    (rewrites : Rewrites context header tag .commission bytes) :
    ∃ commission : UInt8, bytes = [commission] ∧ commission ≤ 100 := by
  cases rewrites with
  | updateCommission stored signed percentage =>
      exact ⟨_, rfl, percentage⟩

/-- An instruction keeps the percentage, unless it opens the account with
another byte. -/
theorem Change.holdsPercentage
    (changed : Change minimumBalance context data index p n)
    (holds : HoldsPercentage p)
    (opens : tagOf data = 0 → index = 0 → readVersion p.data = 0 →
      voteAccountHeaderSize ≤ p.data.length →
        minimumBalance context.sysvars.rent p.data.length ≤ p.lamports →
          byteAt (data.drop 4) 96 ≤ 100) : HoldsPercentage n := by
  cases changed with
  | same =>
      exact holds
  | initializeAccount voter withdrawer tag sized blank signed funded =>
      intro _
      simp only
      rw [byteAt_initializedData _ _ _ _ sized]
      exact opens tag rfl blank sized funded
  | @rewrite _ which bytes initialized fits rewrites =>
      intro _
      have percentage := holds initialized
      by_cases other : which = .commission
      · subst other
        obtain ⟨newCommission, rfl, within⟩ := rewrites.percentage
        have written :
            field (copyInto p.data 68 [newCommission]) 68 1 =
              [newCommission] :=
          HeaderField.read_copyInto fits rfl
        have stored :
            byteAt (copyInto p.data 68 [newCommission]) 68 =
              newCommission :=
          byteAt_of_field written
        exact stored.trans_le within
      · simp only
        rw [byteAt_copyInto_other fits rewrites.sized other]
        exact percentage
  | debit withdrawal =>
      exact holds
  | drain sized withdrawal emptied =>
      intro initialized
      exact absurd (readVersion_blanked p.data) initialized
  | credit =>
      exact holds

end Step

section Runs

/-- A call of the program. -/
abbrev VoteCall (minimumBalance : Rent → Nat → UInt64) : Type :=
  Call voteProgramId (voteProgramSimulator minimumBalance)

variable {minimumBalance : Rent → Nat → UInt64} {address : Pubkey}
  {start finish p n : KeyedAccount} {call : VoteCall minimumBalance}
  {entries : List (Entry KeyedAccount (VoteCall minimumBalance))}

/-- The step is an `InitializeAccount` of the account, writable and signed by
its node, that finds the account blank, large enough and funded. -/
structure Opens (address : Pubkey)
    (entry : Entry KeyedAccount (VoteCall minimumBalance)) : Prop where
  tag : tagOf entry.event.ix.data = 0
  first : LastSlot entry.event.ix.accounts address 0
  writable : IsWritable entry.event.context address
  signed : NodeSigned entry.event.context entry.event.ix.data
  blank : readVersion entry.before.data = 0
  sized : voteAccountHeaderSize ≤ entry.before.data.length
  funded :
    minimumBalance entry.event.svm.sysvars.rent
        entry.before.data.length ≤
      entry.before.lamports

/-- A call changes the account as the program may through one slot, and sets
up only what it may write and the node signs for. -/
theorem change_through_slot (moves : call.Moves address p n) :
    n = p ∨
      ∃ index, LastSlot call.ix.accounts address index ∧
        Change minimumBalance call.context call.ix.data index p n ∧
        (tagOf call.ix.data = 0 → index = 0 →
          IsWritable call.context address ∧
            NodeSigned call.context call.ix.data) := by
  by_cases success : call.Succeeded
  · rcases moves.through_slot BuiltinProgram.keepsAddresses_ofRoutine
        success with
      ⟨_, same⟩ |
        ⟨received, state, index, completed, before, after, last⟩
    · exact Or.inl same
    · have slotWise :=
        completed.slotWise (voteProgramSimulator_effects minimumBalance)
      refine Or.inr ⟨index, last, slotWise index p n before after, ?_⟩
      rintro tag rfl
      obtain ⟨started, rfl, ran⟩ := completed.invoked
      obtain ⟨vote, atFirst, writable, signed⟩ :=
        invoke_opening_checks tag ran
      have sameAddress : p.address = address :=
        KeyedList.key_of_lookup KeyedAccount.address moves.1
      cases atFirst.symm.trans before
      rw [← sameAddress]
      exact ⟨writable, signed⟩
  · exact Or.inl (moves.eq_of_failed success)

/-- In every run that opens the account with percentages only, its
commission is a percentage in every state in which it is initialised. -/
theorem run_holdsPercentage
    (run : Call.Run voteProgramId (voteProgramSimulator minimumBalance)
      address start entries finish)
    (uninitialized : readVersion start.data = 0)
    (within : ∀ entry ∈ entries, Opens address entry →
      byteAt (entry.event.ix.data.drop 4) 96 ≤ 100) :
    ∀ entry ∈ entries, HoldsPercentage entry.after := by
  have initial : HoldsPercentage start := by
    intro initialized
    exact absurd uninitialized initialized
  refine run.forall_after ?_ initial within
  intro entry withinHere holds moves
  rcases change_through_slot moves with
    same | ⟨index, last, changed, checks⟩
  · rw [same]
    exact holds
  · apply changed.holdsPercentage holds
    intro tag first blank sized funded
    obtain ⟨writable, signed⟩ := checks tag first
    rw [first] at last
    exact
      withinHere ⟨tag, last, writable, signed, blank, sized, funded⟩

theorem initializeVoteIx_addressed :
    initializeVoteIx.programId = voteProgramId := rfl

def openCall :
    VoteCall StakeProgram.exemptMinimum :=
  .ofReturns voteSvm initializeVoteIx [blankVote, voteWallet (.filled 4)]
    voteSvm_registered initializeVoteIx_addressed initializeVoteIx_returns

theorem openCall_moves :
    openCall.Moves blankVote.address blankVote openVote := by
  simp only [Call.Moves]
  decide +kernel

theorem run_holdsPercentage_open : HoldsPercentage openVote := by
  have within : ∀ entry ∈ [(⟨blankVote, openCall, openVote⟩ :
        Entry KeyedAccount (VoteCall StakeProgram.exemptMinimum))],
      Opens blankVote.address entry →
        byteAt (entry.event.ix.data.drop 4) 96 ≤ 100 := by
    intro entry member _
    cases List.mem_singleton.mp member
    decide +kernel
  have held :=
    run_holdsPercentage (.cons openCall_moves .nil) (by decide +kernel)
      within
  exact held ⟨blankVote, openCall, openVote⟩ List.mem_cons_self

/-- The same account opened at a commission of 255%. -/
def usuryIx : Instruction :=
  { initializeVoteIx with
    data :=
      List.replicate 4 0 ++ List.replicate 32 4 ++ List.replicate 32 5 ++
        List.replicate 32 6 ++ [255] }

def usuryVote : KeyedAccount :=
  { blankVote with
    data :=
      initializedData blankVote.data (.filled 4) (.filled 5) (.filled 6)
        255 }

theorem usuryIx_returns :
    (voteSvm.processInstruction usuryIx
      [blankVote, voteWallet (.filled 4)]).isSome := by
  decide +kernel

def usuryCall : VoteCall StakeProgram.exemptMinimum :=
  .ofReturns voteSvm usuryIx [blankVote, voteWallet (.filled 4)]
    voteSvm_registered rfl usuryIx_returns

theorem usuryCall_moves :
    usuryCall.Moves blankVote.address blankVote usuryVote := by
  simp only [Call.Moves]
  decide +kernel

/-- Setting up stores a commission that no update would. -/
theorem usury_run :
    Call.Run voteProgramId
        (voteProgramSimulator StakeProgram.exemptMinimum)
        blankVote.address blankVote [⟨blankVote, usuryCall, usuryVote⟩]
        usuryVote ∧
      readVersion blankVote.data = 0 ∧ ¬ HoldsPercentage usuryVote := by
  refine ⟨.cons usuryCall_moves .nil, by decide +kernel, ?_⟩
  intro holds
  have stored : byteAt usuryVote.data 68 ≤ 100 := holds (by decide +kernel)
  exact absurd stored (by decide +kernel)

end Runs

end VoteProgram

end Hopper
