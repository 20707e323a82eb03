import HopperSvm.Refusal
import HopperSvm.VoteRuns

/-!
Only setting up checks how long the account is.  The other handlers go by the
version in its first four bytes, which says nothing about the offsets they
read and write: an account of any length can carry one.
-/

namespace Hopper

namespace VoteProgram

open Bytes Routine Words

variable {minimumBalance : Rent → Nat → UInt64} {context : InvokeContext}
  {state : InvokeState} {body : List UInt8}

@[simp]
theorem requireInitialized_returns {data : List UInt8} :
    (requireInitialized data).Returns context state :=
  rejectBuiltin_returns

instance (index start : Nat) (bytes : List UInt8) :
    Infallible (writeData index start bytes) := by
  simp only [writeData]
  infer_instance

/-- Writing into a slot panics out of range of its data. -/
@[simp]
theorem writeData_returns {index start : Nat} {bytes : List UInt8} :
    (writeData index start bytes).Returns context state ↔
      ∃ account, state.accounts[index]? = some account ∧
        start + bytes.length ≤ account.data.length := by
  constructor
  · intro returns
    obtain ⟨_, final, yields⟩ := Accepts.of_returns returns
    obtain ⟨account, atIndex, fits, _⟩ := writeData_yields.mp yields
    exact ⟨account, atIndex, fits⟩
  · rintro ⟨account, atIndex, fits⟩
    have yields : (writeData index start bytes).Yields context state () _ :=
      writeData_yields.mpr ⟨account, atIndex, fits, rfl⟩
    simp only [Routine.Returns, Procedure.Returns]
    rw [yields]
    exact Option.some_ne_none _

/-- A write followed by a line in the log. -/
theorem write_log_returns {index start : Nat} {bytes : List UInt8}
    {message : String} {account : KeyedAccount}
    (atIndex : state.accounts[index]? = some account) :
    (writeData index start bytes >>= fun _ => log message).Returns context
        state ↔
      start + bytes.length ≤ account.data.length := by
  simp only [returns_bind, writeData_returns, atIndex, Option.some.injEq,
    exists_eq_left', log_returns, implies_true, and_true]

/-- Reading an authority and asking for its signature. -/
theorem authority_returns {data : List UInt8} {start : Nat}
    {next : Routine Unit} :
    (readPubkey data start >>= fun key =>
        requireSigner key >>= fun _ => next).Returns context state ↔
      start + 32 ≤ data.length ∧
        (KeyAt data start (IsSigner context) →
          next.Returns context state) := by
  simp only [returns_check, readPubkey_returns, requireSigner_returns,
    readPubkey_yields, requireSigner_yields, and_true, true_and,
    and_imp]
  apply and_congr_right
  intro fits
  constructor
  · rintro returns ⟨key, stored, signed⟩
    exact
      returns key fits (Pubkey.newFromArray_eq_some.mp stored) () signed
  · intro returns key _ stored _ signed
    exact
      returns ⟨key, Pubkey.newFromArray_eq_some.mpr stored, signed⟩

/-! ## The handlers -/

/-- The account in slot 0 is open for a change of its header. -/
def Opened (context : InvokeContext) (slots : List KeyedAccount)
    (vote : KeyedAccount) : Prop :=
  slots[0]? = some vote ∧ IsWritable context vote.address ∧
    readVersion vote.data ≠ 0

/-- The withdrawer that the header names has signed. -/
def WithdrawerSigns (context : InvokeContext) (vote : KeyedAccount) :
    Prop :=
  KeyAt vote.data 36 (IsSigner context)

/-- The header ends in front of the authority that the role names. -/
def AuthorizePanics (context : InvokeContext) (slots : List KeyedAccount)
    (body : List UInt8) : Prop :=
  36 ≤ body.length ∧
    ∃ vote, Opened context slots vote ∧
      ((u32At body 32).toNat = 0 ∧
          vote.data.length < voteAccountHeaderSize ∨
        (u32At body 32).toNat = 1 ∧ vote.data.length < 68)

/-- The header ends in front of the withdrawer, or the account is drained
and shorter than the header. -/
def WithdrawPanics (minimumBalance : Rent → Nat → UInt64)
    (context : InvokeContext) (slots : List KeyedAccount)
    (body : List UInt8) : Prop :=
  8 ≤ body.length ∧
    ∃ vote recipient, Opened context slots vote ∧
      slots[1]? = some recipient ∧ IsWritable context recipient.address ∧
      (vote.data.length < 68 ∨
        vote.data.length < voteAccountHeaderSize ∧
          WithdrawerSigns context vote ∧
          u64At body 0 ≤
            saturatingSub vote.lamports
              (minimumBalance context.sysvars.rent vote.data.length) ∧
          vote.lamports - u64At body 0 = 0)

/-- The header ends in front of the withdrawer. -/
def UpdateValidatorIdentityPanics (context : InvokeContext)
    (slots : List KeyedAccount) : Prop :=
  ∃ vote newNode, Opened context slots vote ∧
    slots[1]? = some newNode ∧ IsSigner context newNode.address ∧
    vote.data.length < 68

/-- The header ends in front of the withdrawer, or right behind him. -/
def UpdateCommissionPanics (context : InvokeContext)
    (slots : List KeyedAccount) (body : List UInt8) : Prop :=
  body ≠ [] ∧ byteAt body 0 ≤ 100 ∧
    ∃ vote, Opened context slots vote ∧
      (vote.data.length < 68 ∨
        vote.data.length = 68 ∧ WithdrawerSigns context vote)

/-- A slot that holds an account is there. -/
theorem length_of_slot {slots : List KeyedAccount} {index : Nat}
    {account : KeyedAccount} (atIndex : slots[index]? = some account) :
    index < slots.length :=
  (List.getElem?_eq_some_iff.mp atIndex).1

/-- Writing over an authority that has signed. -/
theorem rotate_returns {vote : KeyedAccount} {start : Nat}
    {newAuth : Pubkey} {message : String}
    (atFirst : state.accounts[0]? = some vote) :
    (readPubkey vote.data start >>= fun current =>
        requireSigner current >>= fun _ =>
        writeData 0 start newAuth.bytes >>= fun _ =>
        log message).Returns context state ↔
      start + 32 ≤ vote.data.length := by
  rw [authority_returns, write_log_returns atFirst, newAuth.length_eq]
  constructor
  · exact And.left
  · intro fits
    exact ⟨fits, fun _ => fits⟩

theorem authorize_returns :
    (authorize body).Returns context state ↔
      ¬ AuthorizePanics context state.accounts body := by
  simp only [authorize, returns_check, rejectBuiltin_returns,
    rejectBuiltin_yields, requireSlots_returns, requireSlots_yields,
    slot_returns, slot_yields, requireWritable_returns,
    requireWritable_yields, requireInitialized_returns,
    requireInitialized_yields, readPubkey_returns, readPubkey_yields,
    readU32_returns, readU32_yields, not_lt, and_imp, true_and, and_true,
    forall_const]
  constructor
  · rintro returns ⟨long, vote, ⟨atFirst, writable, initialized⟩, short⟩
    obtain ⟨newAuth, atNew⟩ :=
      pubkeyAt_isSome (by omega : 0 + 32 ≤ body.length)
    have afterAuth :=
      ((returns (length_of_slot atFirst)).2 vote atFirst writable
        initialized long).2 newAuth (by omega)
        (Pubkey.newFromArray_eq_some.mp atNew)
    have rotates := afterAuth.2 (u32At body 32) (by omega) rfl
    split at rotates
    · have fits := (rotate_returns atFirst).mp rotates
      simp only [voteAccountHeaderSize] at short
      simp only [authorizedVoterOffset] at fits
      omega
    · have fits := (rotate_returns atFirst).mp rotates
      omega
    · rename_i notVoter notWithdrawer
      rcases short with ⟨role, _⟩ | ⟨role, _⟩
      · exact notVoter role
      · exact notWithdrawer role
  · intro safe enough
    refine ⟨by omega, ?_⟩
    intro vote atFirst writable initialized long
    refine ⟨by omega, ?_⟩
    intro newAuth _ _
    refine ⟨by omega, ?_⟩
    rintro role _ rfl
    have opened : Opened context state.accounts vote :=
      ⟨atFirst, writable, initialized⟩
    split
    · rename_i voter
      rw [rotate_returns atFirst]
      by_contra short
      exact
        safe ⟨long, vote, opened, .inl ⟨voter, Nat.not_le.mp short⟩⟩
    · rename_i withdrawer
      rw [rotate_returns atFirst]
      by_contra short
      exact
        safe ⟨long, vote, opened, .inr ⟨withdrawer, Nat.not_le.mp short⟩⟩
    · simp only [returns_check, rejectBuiltin_returns, log_returns,
        implies_true, and_true]

theorem updateValidatorIdentity_returns :
    updateValidatorIdentity.Returns context state ↔
      ¬ UpdateValidatorIdentityPanics context state.accounts := by
  simp only [updateValidatorIdentity, ↓authority_returns, returns_check,
    requireSlots_returns, requireSlots_yields, slot_returns, slot_yields,
    requireWritable_returns, requireWritable_yields,
    requireInitialized_returns, requireInitialized_yields,
    requireSigner_returns, requireSigner_yields, true_and, and_true,
    forall_const]
  constructor
  · rintro returns
      ⟨vote, newNode, ⟨atFirst, writable, initialized⟩, atSecond, joined,
        short⟩
    have afterVote :=
      ((returns (length_of_slot atFirst) (length_of_slot atSecond)).2 vote
        atFirst writable initialized).2
    have long := (afterVote newNode atSecond joined).1
    omega
  · intro safe enough both
    refine ⟨by omega, ?_⟩
    intro vote atFirst writable initialized
    refine ⟨by omega, ?_⟩
    intro newNode atSecond joined
    have long : 36 + 32 ≤ vote.data.length := by
      by_contra short
      exact
        safe
          ⟨vote, newNode, ⟨atFirst, writable, initialized⟩, atSecond,
            joined, Nat.not_le.mp short⟩
    refine ⟨long, ?_⟩
    intro _
    rw [write_log_returns atFirst, newNode.address.length_eq]
    omega

theorem updateCommission_returns :
    (updateCommission body).Returns context state ↔
      ¬ UpdateCommissionPanics context state.accounts body := by
  simp only [updateCommission, ↓authority_returns, gt_iff_lt,
    UInt8.not_lt, returns_check, rejectBuiltin_returns,
    rejectBuiltin_yields, requireSlots_returns, requireSlots_yields,
    slot_returns, slot_yields, requireWritable_returns,
    requireWritable_yields, requireInitialized_returns,
    requireInitialized_yields, true_and, and_true, forall_const]
  constructor
  · rintro returns
      ⟨nonempty, percentage, vote, ⟨atFirst, writable, initialized⟩,
        short⟩
    obtain ⟨long, afterSigner⟩ :=
      (returns (length_of_slot atFirst)).2 vote atFirst writable
        initialized nonempty percentage
    rcases short with short | ⟨short, signs⟩
    · omega
    · have fits :=
        (write_log_returns atFirst).mp (afterSigner signs)
      rw [List.length_singleton] at fits
      omega
  · intro safe enough
    refine ⟨by omega, ?_⟩
    intro vote atFirst writable initialized nonempty percentage
    have opened : Opened context state.accounts vote :=
      ⟨atFirst, writable, initialized⟩
    have long : 36 + 32 ≤ vote.data.length := by
      by_contra short
      exact
        safe
          ⟨nonempty, percentage, vote, opened,
            .inl (Nat.not_le.mp short)⟩
    refine ⟨long, ?_⟩
    intro signs
    rw [write_log_returns atFirst, List.length_singleton]
    by_contra short
    exact
      safe
        ⟨nonempty, percentage, vote, opened,
          .inr ⟨by omega, signs⟩⟩

/-- Slot 0 has room for a header. -/
def HoldsHeader (slots : List KeyedAccount) : Prop :=
  ∃ vote, slots[0]? = some vote ∧
    voteAccountHeaderSize ≤ vote.data.length

/-- A write within the header leaves room for the header. -/
theorem write_header_returns {start : Nat} {bytes : List UInt8}
    {next : Unit → Routine Unit} (holds : HoldsHeader state.accounts)
    (within : start + bytes.length ≤ voteAccountHeaderSize)
    (rest : ∀ state', HoldsHeader state'.accounts →
      (next ()).Returns context state') :
    (writeData 0 start bytes >>= next).Returns context state := by
  rcases holds with ⟨vote, atFirst, sized⟩
  rw [returns_bind, writeData_returns]
  refine ⟨⟨vote, atFirst, within.trans sized⟩, ?_⟩
  intro _ state' yields
  obtain ⟨written, atWritten, fits, rfl⟩ := writeData_yields.mp yields
  cases atFirst.symm.trans atWritten
  apply rest
  refine ⟨_, List.getElem?_set_self (length_of_slot atFirst), ?_⟩
  simp only
  rw [length_copyInto fits]
  exact sized

theorem initializeAccount_returns :
    (initializeAccount minimumBalance body).Returns context state := by
  simp only [initializeAccount, ne_eq, returns_check,
    rejectBuiltin_returns, rejectBuiltin_yields, requireSlots_returns,
    requireSlots_yields, slot_returns, slot_yields,
    requireWritable_returns, requireWritable_yields, readPubkey_returns,
    readPubkey_yields, requireSigner_returns, requireSigner_yields,
    environment_returns, environment_yields, not_lt, and_imp, true_and,
    and_true, forall_const]
  intro enough
  refine ⟨by omega, ?_⟩
  intro vote atFirst _ sized _ long
  refine ⟨by omega, ?_⟩
  intro node _ _
  refine ⟨by omega, ?_⟩
  intro voter _ _
  refine ⟨by omega, ?_⟩
  intro withdrawer _ _ _ _ _ _
  apply write_header_returns ⟨vote, atFirst, sized⟩ (by decide)
  intro blanked holds
  apply write_header_returns holds (by decide)
  intro versioned holds
  apply write_header_returns holds (by rw [node.length_eq]; decide)
  intro identified holds
  apply write_header_returns holds (by rw [withdrawer.length_eq]; decide)
  intro withdrawable holds
  apply write_header_returns holds
    (by rw [List.length_singleton]; decide)
  intro commissioned holds
  apply write_header_returns holds (by rw [voter.length_eq]; decide)
  intro written _
  exact log_returns

/-- Moving the lamports of a withdrawal panics on an account that is drained
and shorter than its header. -/
theorem move_returns {vote recipient : KeyedAccount} {amount : UInt64}
    {message : String} (atFirst : state.accounts[0]? = some vote)
    (atSecond : state.accounts[1]? = some recipient) :
    (do
      writeSlot 0 fun account =>
        { account with lamports := account.lamports - amount }
      writeSlot 1 fun account =>
        { account with lamports := saturatingAdd account.lamports amount }
      let drained ← slot 0
      if drained.lamports = 0 then
        writeData 0 0 (List.replicate voteAccountHeaderSize 0)
      log message : Routine Unit).Returns context state ↔
      (vote.lamports - amount = 0 →
        voteAccountHeaderSize ≤ vote.data.length) := by
  have first := length_of_slot atFirst
  have second := length_of_slot atSecond
  have atDrained (debited credited : KeyedAccount) :
      ((state.accounts.set 0 debited).set 1 credited)[0]? =
        some debited := by
    rw [List.getElem?_set_ne Nat.one_ne_zero, List.getElem?_set_self first]
  simp only [returns_bind, writeSlot_returns, writeSlot_yields,
    slot_returns, slot_yields, List.length_set, first, second, atFirst,
    Option.some.injEq, List.getElem?_set_ne, atSecond, atDrained,
    true_and, ne_eq, ↓existsAndEq, forall_eq', zero_ne_one,
    not_false_eq_true, and_imp, forall_const]
  constructor
  · intro returns drained
    have wipes := returns _ _ rfl rfl
    simp only [drained, ↓reduceIte] at wipes
    rw [write_log_returns (atDrained _ _)] at wipes
    simpa using wipes
  · rintro sized _ _ rfl rfl
    by_cases drained : vote.lamports - amount = 0
    · simp only [drained, ↓reduceIte]
      rw [write_log_returns (atDrained _ _)]
      simpa using sized drained
    · simp only [drained, ↓reduceIte]
      exact log_returns

theorem withdraw_returns :
    (withdraw minimumBalance body).Returns context state ↔
      ¬ WithdrawPanics minimumBalance context state.accounts body := by
  simp only [withdraw, ↓authority_returns, gt_iff_lt, UInt64.not_lt,
    returns_check, rejectBuiltin_returns, rejectBuiltin_yields,
    requireSlots_returns, requireSlots_yields, slot_returns, slot_yields,
    requireWritable_returns, requireWritable_yields, readU64_returns,
    readU64_yields, environment_returns, environment_yields,
    requireInitialized_returns, requireInitialized_yields, not_lt,
    and_imp, true_and, and_true, forall_const]
  constructor
  · rintro returns
      ⟨long, vote, recipient, ⟨atFirst, writable, initialized⟩, atSecond,
        writable', short⟩
    have afterVote :=
      ((returns (length_of_slot atFirst) (length_of_slot atSecond)).2 vote
        atFirst).2 recipient atSecond initialized long
    obtain ⟨fits, afterSigner⟩ :=
      afterVote.2 (u64At body 0) (by omega) rfl writable writable'
    rcases short with short | ⟨short, signs, covered, drained⟩
    · omega
    · have moves := afterSigner signs context rfl covered
      have sized := (move_returns atFirst atSecond).mp moves drained
      omega
  · intro safe enough both
    refine ⟨by omega, ?_⟩
    intro vote atFirst
    refine ⟨by omega, ?_⟩
    intro recipient atSecond initialized long
    refine ⟨by omega, ?_⟩
    rintro lamports _ rfl writable writable'
    have opened : Opened context state.accounts vote :=
      ⟨atFirst, writable, initialized⟩
    have fits : 36 + 32 ≤ vote.data.length := by
      by_contra short
      exact
        safe
          ⟨long, vote, recipient, opened, atSecond, writable',
            .inl (Nat.not_le.mp short)⟩
    refine ⟨fits, ?_⟩
    rintro signs _ rfl covered
    refine (move_returns atFirst atSecond).mpr ?_
    intro drained
    by_contra short
    exact
      safe
        ⟨long, vote, recipient, opened, atSecond, writable',
          .inr ⟨Nat.not_le.mp short, signs, covered, drained⟩⟩

/-- The tag, as the program reads it. -/
theorem tagOf_eq {data : List UInt8} :
    (UInt32.ofNat (leNat ((data.drop 0).take 4))).toNat = tagOf data := rfl

/-- Where an instruction panics. -/
def Panics (minimumBalance : Rent → Nat → UInt64)
    (context : InvokeContext) (slots : List KeyedAccount)
    (data : List UInt8) : Prop :=
  4 ≤ data.length ∧
    let body := data.drop 4
    match tagOf data with
    | 1 => AuthorizePanics context slots body
    | 3 => WithdrawPanics minimumBalance context slots body
    | 4 => UpdateValidatorIdentityPanics context slots
    | 5 => UpdateCommissionPanics context slots body
    | _ => False

theorem invoke_returns {data : List UInt8} :
    (invoke minimumBalance data).Returns context state ↔
      ¬ Panics minimumBalance context state.accounts data := by
  simp only [invoke, returns_check, rejectBuiltin_returns,
    rejectBuiltin_yields, readU32_returns, readU32_yields, not_lt,
    and_true, true_and, Nat.zero_add]
  simp only [Panics]
  by_cases long : 4 ≤ data.length
  · simp only [long, true_and, forall_const, forall_eq', tagOf_eq]
    generalize tagOf data = tag
    split
    · exact iff_of_true initializeAccount_returns not_false
    · exact authorize_returns
    · exact withdraw_returns
    · exact updateValidatorIdentity_returns
    · exact updateCommission_returns
    · refine iff_of_true rejectBuiltin_returns ?_
      split <;> simp_all
  · simp only [long, false_and, not_false_eq_true, IsEmpty.forall_iff,
      implies_true]

/-- The program ends with a value or an error on every account long enough
for the instruction, and on no other. -/
theorem invoke_ends_iff (minimumBalance : Rent → Nat → UInt64)
    (context : InvokeContext) (state : InvokeState) (data : List UInt8) :
    (∃ outcome final,
        (invoke minimumBalance data).run context state =
          some (outcome, final)) ↔
      ¬ Panics minimumBalance context state.accounts data := by
  have ends : (∃ outcome final,
      (invoke minimumBalance data).run context state =
        some (outcome, final)) ↔
      (invoke minimumBalance data).Returns context state := by
    rw [← Prod.exists', ← Option.ne_none_iff_exists']
    rfl
  rw [ends]
  exact invoke_returns

/-- A vote account of four bytes, which carry a version. -/
def stubVote : KeyedAccount :=
  { blankVote with data := [3, 0, 0, 0] }

theorem stubVote_panics :
    (invoke StakeProgram.exemptMinimum [5, 0, 0, 0, 50]).run
        { programId := voteProgramId
          accountMetas := [⟨.filled 1, false, true⟩]
          sysvars := .default }
        { accounts := [stubVote]
          logs := .empty
          budget := .default
          cells := { pendingCuLimit := none
                     priorityFeeMicroLamportsPerCu := 0 } } =
      none := by
  by_contra returns
  refine invoke_returns.mp returns ⟨by decide, ?_⟩
  exact
    ⟨by decide, by decide, stubVote, ⟨rfl, by decide, by decide⟩,
      .inl (by decide)⟩

end VoteProgram

end Hopper
