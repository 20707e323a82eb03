import HopperSvm.Barrier

/-!
A chain completes or fails at one instruction.  The failing instruction
hands back the list it was dispatched on, with what the instructions before
it returned carried over the input, and the chain returns that list.  A
transaction runs the same loop on the list with the fee taken.
-/

namespace Hopper

namespace HopperSvm

/-- Every instruction, from number `index` on, succeeds, and the last one
leaves `after`. -/
inductive Completes : HopperSvm → Nat → List Instruction →
    List KeyedAccount → LogCapture → List KeyedAccount → Prop
  | nil {svm : HopperSvm} {index : Nat} {accounts : List KeyedAccount}
      {logs : LogCapture} :
      Completes svm index [] accounts logs accounts
  | cons {svm : HopperSvm} {index : Nat} {ix : Instruction}
      {rest : List Instruction} {accounts after : List KeyedAccount}
      {logs : LogCapture} {dispatch : Dispatch}
      (ran : svm.dispatchOne ix accounts
        (logs.sectionBreak s!"ix[{index}] @ {ix.programId}") =
          some dispatch)
      (success : dispatch.outcome.error = none)
      (later : Completes (svm.withCells dispatch.cells) (index + 1) rest
        (carryForward accounts dispatch.outcome.resultingAccounts)
        dispatch.logs after) :
      Completes svm index (ix :: rest) accounts logs after

/-- Some instruction fails, after the dispatches `earlier`, which
succeeded. -/
inductive FailsAfter : HopperSvm → Nat → List Instruction →
    List KeyedAccount → LogCapture → List Dispatch → Prop
  | here {svm : HopperSvm} {index : Nat} {ix : Instruction}
      {rest : List Instruction} {accounts : List KeyedAccount}
      {logs : LogCapture} {dispatch : Dispatch}
      (ran : svm.dispatchOne ix accounts
        (logs.sectionBreak s!"ix[{index}] @ {ix.programId}") =
          some dispatch)
      (failure : dispatch.outcome.error ≠ none) :
      FailsAfter svm index (ix :: rest) accounts logs []
  | later {svm : HopperSvm} {index : Nat} {ix : Instruction}
      {rest : List Instruction} {accounts : List KeyedAccount}
      {logs : LogCapture} {dispatch : Dispatch} {earlier : List Dispatch}
      (ran : svm.dispatchOne ix accounts
        (logs.sectionBreak s!"ix[{index}] @ {ix.programId}") =
          some dispatch)
      (success : dispatch.outcome.error = none)
      (fails : FailsAfter (svm.withCells dispatch.cells) (index + 1) rest
        (carryForward accounts dispatch.outcome.resultingAccounts)
        dispatch.logs earlier) :
      FailsAfter svm index (ix :: rest) accounts logs
        (dispatch :: earlier)

/-- Every instruction succeeds, and the last one returns `outcome`. -/
inductive EndsWith : HopperSvm → Nat → List Instruction →
    List KeyedAccount → LogCapture → ExecutionOutcome → Prop
  | last {svm : HopperSvm} {index : Nat} {ix : Instruction}
      {accounts : List KeyedAccount} {logs : LogCapture}
      {dispatch : Dispatch}
      (ran : svm.dispatchOne ix accounts
        (logs.sectionBreak s!"ix[{index}] @ {ix.programId}") =
          some dispatch)
      (success : dispatch.outcome.error = none) :
      EndsWith svm index [ix] accounts logs dispatch.outcome
  | next {svm : HopperSvm} {index : Nat} {ix : Instruction}
      {rest : List Instruction} {accounts : List KeyedAccount}
      {logs : LogCapture} {dispatch : Dispatch}
      {outcome : ExecutionOutcome}
      (ran : svm.dispatchOne ix accounts
        (logs.sectionBreak s!"ix[{index}] @ {ix.programId}") =
          some dispatch)
      (success : dispatch.outcome.error = none)
      (later : EndsWith (svm.withCells dispatch.cells) (index + 1) rest
        (carryForward accounts dispatch.outcome.resultingAccounts)
        dispatch.logs outcome) :
      EndsWith svm index (ix :: rest) accounts logs outcome

/-- The accounts that the dispatches returned, in order. -/
def returned (earlier : List Dispatch) : List KeyedAccount :=
  earlier.flatMap fun dispatch => dispatch.outcome.resultingAccounts

/-- Whatever the dispatches returned last at an address is what the list
holds there. -/
def Restored (accounts : List KeyedAccount) (earlier : List Dispatch) :
    Prop :=
  ∀ address account,
    findAccount address (returned earlier).reverse = some account →
      findAccount address accounts = some account

variable {svm svm' : HopperSvm} {ixs : List Instruction}
  {accounts : List KeyedAccount} {logs : LogCapture}
  {result : HopperExecutionResult}

theorem runChain_cons {index : Nat} {ix : Instruction}
    {rest : List Instruction} {final : Option ExecutionOutcome}
    {dispatch : Dispatch}
    (ran : svm.dispatchOne ix accounts
      (logs.sectionBreak s!"ix[{index}] @ {ix.programId}") =
        some dispatch) :
    runChain svm index (ix :: rest) accounts logs final =
      if dispatch.outcome.error.isSome then
        some
          { state :=
              carryForward accounts dispatch.outcome.resultingAccounts
            finalOutcome := some dispatch.outcome
            logs := dispatch.logs
            svm := svm.withCells dispatch.cells }
      else
        runChain (svm.withCells dispatch.cells) (index + 1) rest
          (carryForward accounts dispatch.outcome.resultingAccounts)
          dispatch.logs (some dispatch.outcome) := by
  rw [runChain, ran]
  rfl

/-- The run of the loop: it goes through, or stops behind the first failing
instruction. -/
inductive Runs : HopperSvm → Nat → List Instruction →
    List KeyedAccount → LogCapture → Option ExecutionOutcome → ChainEnd →
      Prop
  | finished {svm : HopperSvm} {index : Nat}
      {accounts : List KeyedAccount} {logs : LogCapture}
      {final : Option ExecutionOutcome} :
      Runs svm index [] accounts logs final
        { state := accounts, finalOutcome := final, logs, svm }
  | failed {svm : HopperSvm} {index : Nat} {ix : Instruction}
      {rest : List Instruction} {accounts : List KeyedAccount}
      {logs : LogCapture} {final : Option ExecutionOutcome}
      {dispatch : Dispatch}
      (ran : svm.dispatchOne ix accounts
        (logs.sectionBreak s!"ix[{index}] @ {ix.programId}") =
          some dispatch)
      (failure : dispatch.outcome.error ≠ none) :
      Runs svm index (ix :: rest) accounts logs final
        { state := carryForward accounts dispatch.outcome.resultingAccounts
          finalOutcome := some dispatch.outcome
          logs := dispatch.logs
          svm := svm.withCells dispatch.cells }
  | completed {svm : HopperSvm} {index : Nat} {ix : Instruction}
      {rest : List Instruction} {accounts : List KeyedAccount}
      {logs : LogCapture} {final : Option ExecutionOutcome}
      {dispatch : Dispatch} {ended : ChainEnd}
      (ran : svm.dispatchOne ix accounts
        (logs.sectionBreak s!"ix[{index}] @ {ix.programId}") =
          some dispatch)
      (success : dispatch.outcome.error = none)
      (later : Runs (svm.withCells dispatch.cells) (index + 1) rest
        (carryForward accounts dispatch.outcome.resultingAccounts)
        dispatch.logs (some dispatch.outcome) ended) :
      Runs svm index (ix :: rest) accounts logs final ended

theorem runs_of_runChain {index : Nat} {final : Option ExecutionOutcome}
    {ended : ChainEnd}
    (looped : runChain svm index ixs accounts logs final = some ended) :
    Runs svm index ixs accounts logs final ended := by
  induction ixs generalizing svm index accounts logs final with
  | nil =>
      cases looped
      exact .finished
  | cons ix rest inductionHypothesis =>
      cases ran : svm.dispatchOne ix accounts
          (logs.sectionBreak s!"ix[{index}] @ {ix.programId}") with
      | none =>
          rw [runChain, ran] at looped
          cases looped
      | some dispatch =>
          rw [runChain_cons ran] at looped
          by_cases failed : dispatch.outcome.error.isSome
          · rw [if_pos failed] at looped
            cases looped
            exact .failed ran (Option.isSome_iff_ne_none.mp failed)
          · rw [if_neg failed] at looped
            have success : dispatch.outcome.error = none :=
              Option.not_isSome_iff_eq_none.mp failed
            exact .completed ran success (inductionHypothesis looped)

/-- A loop over instructions changes no part of the harness but its
cells. -/
theorem runChain_svm {index : Nat} {accounts : List KeyedAccount}
    {logs : LogCapture} {final : Option ExecutionOutcome}
    {ended : ChainEnd}
    (ran : runChain svm index ixs accounts logs final = some ended) :
    ended.svm = svm.withCells ended.svm.cells := by
  have run := runs_of_runChain ran
  clear ran
  induction run with
  | finished =>
      rfl
  | failed ran failure =>
      rfl
  | completed ran success later inductionHypothesis =>
      exact inductionHypothesis

/-- The loop stopped at an instruction that failed. -/
def ChainEnd.failed (ended : ChainEnd) : Bool :=
  ended.finalOutcome.any fun outcome => outcome.error.isSome

/-- The loop over two lists is the loop over the first and, unless that
stopped, over the second. -/
theorem runChain_append {index : Nat} {front back : List Instruction}
    {final : Option ExecutionOutcome}
    (fine : (final.any fun outcome => outcome.error.isSome) = false) :
    runChain svm index (front ++ back) accounts logs final =
      (runChain svm index front accounts logs final).bind fun reached =>
        if reached.failed then
          some reached
        else
          runChain reached.svm (index + front.length) back reached.state
            reached.logs reached.finalOutcome := by
  induction front generalizing svm index accounts logs final with
  | nil =>
      rw [List.nil_append, runChain, Option.bind_some, ChainEnd.failed,
        fine]
      rfl
  | cons ix rest inductionHypothesis =>
      rw [List.cons_append]
      cases ran : svm.dispatchOne ix accounts
          (logs.sectionBreak s!"ix[{index}] @ {ix.programId}") with
      | none =>
          rw [runChain, runChain, ran]
          rfl
      | some dispatch =>
          rw [runChain_cons ran, runChain_cons ran]
          by_cases failed : dispatch.outcome.error.isSome
          · rw [if_pos failed, if_pos failed, Option.bind_some,
              ChainEnd.failed, Option.any_some, if_pos failed]
          · rw [if_neg failed, if_neg failed, inductionHypothesis,
              List.length_cons, Nat.add_right_comm, Nat.add_assoc]
            rw [Option.any_some]
            simpa using failed

/-- Carrying two batches over a list, one after the other. -/
theorem carryForward_append (state first second : List KeyedAccount) :
    carryForward state (first ++ second) =
      carryForward (carryForward state first) second :=
  List.foldl_append

/-- A chain that fails returns the list its failing instruction was
dispatched on. -/
theorem runChain_of_failsAfter {index : Nat} {earlier : List Dispatch}
    (fails : FailsAfter svm index ixs accounts logs earlier) :
    ∀ final, ∃ ended outcome,
      runChain svm index ixs accounts logs final = some ended ∧
        ended.finalOutcome = some outcome ∧ outcome.error ≠ none ∧
          outcome.resultingAccounts =
            carryForward accounts (returned earlier) := by
  induction fails with
  | here ran failure =>
      intro final
      rw [runChain_cons ran,
        if_pos (Option.isSome_iff_ne_none.mpr failure)]
      exact
        ⟨_, _, rfl, rfl, failure, dispatchOne_failed_accounts ran failure⟩
  | later ran success fails inductionHypothesis =>
      intro final
      rw [runChain_cons ran, if_neg (by simp [success]), returned,
        List.flatMap_cons, carryForward_append]
      exact inductionHypothesis _

theorem runChain_of_endsWith {index : Nat} {outcome : ExecutionOutcome}
    (ends : EndsWith svm index ixs accounts logs outcome) :
    outcome.error = none ∧
      ∀ final, ∃ ended,
        runChain svm index ixs accounts logs final = some ended ∧
          ended.finalOutcome = some outcome := by
  induction ends with
  | last ran success =>
      refine ⟨success, fun final => ?_⟩
      rw [runChain_cons ran, if_neg (by simp [success]), runChain]
      exact ⟨_, rfl, rfl⟩
  | next ran success later inductionHypothesis =>
      refine ⟨inductionHypothesis.1, fun final => ?_⟩
      rw [runChain_cons ran, if_neg (by simp [success])]
      exact inductionHypothesis.2 _

/-- A chain completes or fails at some instruction. -/
theorem completes_or_failsAfter {index : Nat}
    {final : Option ExecutionOutcome} {ended : ChainEnd}
    (ran : runChain svm index ixs accounts logs final = some ended) :
    (Completes svm index ixs accounts logs ended.state ∧
        (ixs = [] ∧ ended.finalOutcome = final ∨
          ∃ outcome, ended.finalOutcome = some outcome ∧
            EndsWith svm index ixs accounts logs outcome)) ∨
      ∃ earlier, FailsAfter svm index ixs accounts logs earlier := by
  have run := runs_of_runChain ran
  clear ran
  induction run with
  | finished =>
      exact Or.inl ⟨.nil, Or.inl ⟨rfl, rfl⟩⟩
  | failed ran failure =>
      exact Or.inr ⟨_, .here ran failure⟩
  | @completed _ _ _ _ _ _ _ dispatch _ ran success later
      inductionHypothesis =>
      rcases inductionHypothesis with
        ⟨completes, ⟨rfl, noMore⟩ | ⟨outcome, finalOutcome, ends⟩⟩ |
          ⟨earlier, fails⟩
      · exact
          Or.inl
            ⟨.cons ran success completes,
              Or.inr ⟨dispatch.outcome, noMore, .last ran success⟩⟩
      · exact
          Or.inl
            ⟨.cons ran success completes,
              Or.inr ⟨outcome, finalOutcome, .next ran success ends⟩⟩
      · exact Or.inr ⟨_, .later ran success fails⟩

theorem outcome_of_failsAfter {index : Nat} {earlier : List Dispatch}
    {final : Option ExecutionOutcome} {ended : ChainEnd}
    (looped : runChain svm index ixs accounts logs final = some ended)
    (fails : FailsAfter svm index ixs accounts logs earlier) :
    ended.outcome.error ≠ none ∧
      ended.outcome.resultingAccounts =
        carryForward accounts (returned earlier) := by
  obtain ⟨ended', outcome, looped', finalOutcome, failure, handedBack⟩ :=
    runChain_of_failsAfter fails final
  rw [looped] at looped'
  cases looped'
  rw [ChainEnd.outcome, finalOutcome, Option.getD_some]
  exact ⟨failure, handedBack⟩

theorem outcome_of_endsWith {index : Nat} {outcome : ExecutionOutcome}
    {final : Option ExecutionOutcome} {ended : ChainEnd}
    (looped : runChain svm index ixs accounts logs final = some ended)
    (ends : EndsWith svm index ixs accounts logs outcome) :
    ended.outcome = outcome ∧ outcome.error = none := by
  obtain ⟨success, loops⟩ := runChain_of_endsWith ends
  obtain ⟨ended', looped', finalOutcome⟩ := loops final
  rw [looped] at looped'
  cases looped'
  rw [ChainEnd.outcome, finalOutcome, Option.getD_some]
  exact ⟨rfl, success⟩

/-- A chain whose outcome is a success ended with it. -/
theorem endsWith_of_success {index : Nat} {ended : ChainEnd}
    (looped : runChain svm index ixs accounts logs none = some ended)
    (success : ended.outcome.error = none) :
    EndsWith svm index ixs accounts logs ended.outcome := by
  rcases completes_or_failsAfter looped with
    ⟨_, ⟨_, noOutcome⟩ | ⟨outcome, finalOutcome, ends⟩⟩ | ⟨earlier, fails⟩
  · rw [ChainEnd.outcome, noOutcome, Option.getD_none] at success
    cases success
  · rw [ChainEnd.outcome, finalOutcome, Option.getD_some]
    exact ends
  · exact absurd success (outcome_of_failsAfter looped fails).1

/-- The lines logged before a chain decide neither its outcome nor what it
leaves of the accounts. -/
theorem runChain_logBlind (blind : svm.LogBlindRegistry) :
    ∀ (index : Nat) (accounts : List KeyedAccount)
      (logs logs' : LogCapture) (final : Option ExecutionOutcome),
      (runChain svm index ixs accounts logs final).map
          (fun ended => (ended.state, ended.finalOutcome)) =
        (runChain svm index ixs accounts logs' final).map
          (fun ended => (ended.state, ended.finalOutcome)) := by
  induction ixs generalizing svm with
  | nil =>
      intro index accounts logs logs' final
      rfl
  | cons ix rest inductionHypothesis =>
      intro index accounts logs logs' final
      have same : Option.Rel SameButTranscript
          (svm.dispatchOne ix accounts
            (logs.sectionBreak s!"ix[{index}] @ {ix.programId}"))
          (svm.dispatchOne ix accounts
            (logs'.sectionBreak s!"ix[{index}] @ {ix.programId}")) :=
        dispatchOne_logBlind blind _ _
      cases left : svm.dispatchOne ix accounts
          (logs.sectionBreak s!"ix[{index}] @ {ix.programId}") with
      | none =>
          rw [left] at same
          cases right : svm.dispatchOne ix accounts
              (logs'.sectionBreak s!"ix[{index}] @ {ix.programId}") with
          | none =>
              rw [runChain, runChain, left, right]
          | some dispatch' =>
              rw [right] at same
              cases same
      | some dispatch =>
          rw [left] at same
          cases right : svm.dispatchOne ix accounts
              (logs'.sectionBreak s!"ix[{index}] @ {ix.programId}") with
          | none =>
              rw [right] at same
              cases same
          | some dispatch' =>
              rw [right] at same
              cases same with
              | some both =>
                  rcases both with ⟨sameOutcome, sameCells⟩
                  rw [runChain_cons left, runChain_cons right,
                    sameOutcome, sameCells]
                  split
                  · rfl
                  · exact
                      @inductionHypothesis
                        (svm.withCells dispatch'.cells) blind _ _ _ _ _

/-! ## The chain verb -/

theorem carryForward_eq_self_iff {earlier : List Dispatch} :
    carryForward accounts (returned earlier) = accounts ↔
      Restored accounts earlier :=
  KeyedList.upsertAll_eq_self_iff KeyedAccount.address

/-- A failing chain returns its input exactly when the instructions before
the failing one returned every account, at last, as the input holds it. -/
theorem processInstructionChain_atomic_iff
    (ran : svm.processInstructionChain ixs accounts =
      some (result, svm')) :
    (result.outcome.error ≠ none →
        result.outcome.resultingAccounts = accounts) ↔
      ∀ earlier, FailsAfter svm 0 ixs accounts .empty earlier →
        Restored accounts earlier := by
  rcases Option.map_eq_some_iff.mp ran with ⟨ended, looped, same⟩
  cases same
  constructor
  · intro atomic earlier fails
    obtain ⟨failure, handedBack⟩ := outcome_of_failsAfter looped fails
    rw [← carryForward_eq_self_iff, ← handedBack]
    exact atomic failure
  · intro restored failure
    rcases completes_or_failsAfter looped with
      ⟨completes, ⟨rfl, noOutcome⟩ | ⟨outcome, _, ends⟩⟩ |
        ⟨earlier, fails⟩
    · cases completes
      simp only [HopperExecutionResult.fromOutcome, ChainEnd.outcome,
        noOutcome, Option.getD_none, ExecutionOutcome.rejected]
    · obtain ⟨last, success⟩ := outcome_of_endsWith looped ends
      rw [← last] at success
      exact absurd success failure
    · exact
        (outcome_of_failsAfter looped fails).2.trans
          (carryForward_eq_self_iff.mpr (restored earlier fails))

/-- The second instruction names an unknown program. -/
def unknownIx : Instruction :=
  { programId := .filled 8
    accounts := []
    data := [] }

/-- A program that accepts everything and writes nothing. -/
def idle : BuiltinProgram :=
  .ofHandler "Idle" (fun _ => 10) (fun _ => pure ())
    (fun _ => (Procedure.Stateless.pure ()).keeps)

def idleIx : Instruction :=
  { programId := .filled 7
    accounts := [⟨.filled 1, false, true⟩]
    data := [] }

def idlingSvm : HopperSvm :=
  appendingSvm.withBuiltin (.filled 7) idle

/-- The idle program runs before the unknown one. -/
theorem processInstructionChain_atomic_idle :
    ∃ result svm',
      idlingSvm.processInstructionChain [idleIx, unknownIx]
          [clonedAccount] = some (result, svm') ∧
        ((result.outcome.error ≠ none →
            result.outcome.resultingAccounts = [clonedAccount]) ↔
          ∀ earlier,
            FailsAfter idlingSvm 0 [idleIx, unknownIx] [clonedAccount]
                .empty earlier →
              Restored [clonedAccount] earlier) :=
  ⟨_, _, rfl, processInstructionChain_atomic_iff rfl⟩

/-- The failing chain hands back the first instruction's write. -/
theorem failing_chain_returns_earlier_writes :
    ∃ result svm',
      appendingSvm.processInstructionChain [clonedIx 1, unknownIx]
          [clonedAccount] = some (result, svm') ∧
        result.outcome.error = some (.unknownProgram (.filled 8)) ∧
        result.outcome.resultingAccounts = [appendedAccount] ∧
        result.outcome.resultingAccounts ≠ [clonedAccount] :=
  ⟨_, _, rfl, rfl, rfl, by decide⟩

/-! ## The transaction verb -/

/-- The payer is supplied and can pay the fee. -/
def Covers (svm : HopperSvm) (ixs : List Instruction)
    (accounts : List KeyedAccount) (feePayer : Pubkey) : Prop :=
  ∃ payer, findAccount feePayer accounts = some payer ∧
    ¬ payer.lamports < svm.transactionFee ixs

/-- Only the payer's first entry changes. -/
theorem findAccount_debitPayer (feePayer : Pubkey) (fee : UInt64)
    (accounts : List KeyedAccount) (address : Pubkey) :
    findAccount address (debitPayer feePayer fee accounts) =
      if address = feePayer then
        (findAccount address accounts).map fun account =>
          { account with lamports := account.lamports - fee }
      else
        findAccount address accounts := by
  unfold findAccount
  induction accounts with
  | nil =>
      simp [debitPayer]
  | cons account rest inductionHypothesis =>
      rw [debitPayer]
      by_cases isPayer : account.address = feePayer
      · rw [if_pos isPayer, KeyedList.lookup_cons, KeyedList.lookup_cons]
        by_cases wanted : account.address = address
        · rw [if_pos wanted, if_pos wanted,
            if_pos (wanted.symm.trans isPayer)]
          rfl
        · have other : address ≠ feePayer := fun same =>
            wanted (isPayer.trans same.symm)
          rw [if_neg wanted, if_neg wanted, if_neg other]
      · rw [if_neg isPayer, KeyedList.lookup_cons, KeyedList.lookup_cons,
          inductionHypothesis]
        by_cases wanted : account.address = address
        · have other : address ≠ feePayer := fun same =>
            isPayer (wanted.trans same)
          rw [if_pos wanted, if_pos wanted, if_neg other]
        · rw [if_neg wanted, if_neg wanted]

theorem processTransaction_of_not_covers {feePayer : Pubkey}
    (uncovered : ¬ svm.Covers ixs accounts feePayer)
    (ran : svm.processTransaction ixs accounts feePayer =
      some (result, svm')) :
    result.outcome.resultingAccounts = accounts ∧
      result.transactionFeePaid = 0 := by
  unfold processTransaction at ran
  cases found : findAccount feePayer accounts with
  | none =>
      rw [found] at ran
      cases ran
      exact ⟨rfl, rfl⟩
  | some payer =>
      have short : payer.lamports < svm.transactionFee ixs := by
        by_contra enough
        exact uncovered ⟨payer, found, enough⟩
      simp only [found, if_pos short] at ran
      cases ran
      exact ⟨rfl, rfl⟩

/-- A covered transaction is the loop on the debited list. -/
theorem processTransaction_of_covers {feePayer : Pubkey}
    (covers : svm.Covers ixs accounts feePayer) :
    svm.processTransaction ixs accounts feePayer =
      (runChain svm 0 ixs
          (debitPayer feePayer (svm.transactionFee ixs) accounts)
          (svm.chargedLogs ixs feePayer) none).map fun ended =>
        ({ HopperExecutionResult.fromOutcome ended.outcome ended.logs with
            transactionFeePaid := svm.transactionFee ixs },
          ended.svm) := by
  rcases covers with ⟨payer, found, enough⟩
  simp only [processTransaction, found, if_neg enough]

theorem EndsWith.completes {index : Nat} {outcome : ExecutionOutcome}
    (ends : EndsWith svm index ixs accounts logs outcome) :
    ∃ after, Completes svm index ixs accounts logs after := by
  induction ends with
  | last ran success =>
      exact ⟨_, .cons ran success .nil⟩
  | next ran success later inductionHypothesis =>
      obtain ⟨after, completes⟩ := inductionHypothesis
      exact ⟨after, .cons ran success completes⟩

/-- On a registry that does not read the log back a run ends the same way
whatever was logged before. -/
theorem EndsWith.logBlind (blind : svm.LogBlindRegistry) {index : Nat}
    {logs' : LogCapture} {outcome : ExecutionOutcome}
    (ends : EndsWith svm index ixs accounts logs outcome) :
    EndsWith svm index ixs accounts logs' outcome := by
  obtain ⟨success, loops⟩ := runChain_of_endsWith ends
  obtain ⟨ended, looped, finalOutcome⟩ := loops none
  have agree :=
    @runChain_logBlind svm ixs blind index accounts logs logs' none
  rw [looped] at agree
  obtain ⟨ended', looped', sameEnd⟩ :=
    Option.map_eq_some_iff.mp agree.symm
  obtain ⟨_, sameOutcome⟩ := Prod.mk.inj sameEnd
  have last : ended'.outcome = outcome := by
    rw [ChainEnd.outcome, sameOutcome, finalOutcome, Option.getD_some]
  rw [← last] at success ⊢
  exact endsWith_of_success looped' success

/-- The payer of the transactions below, a signer of `signedIx`. -/
def payerAccount : KeyedAccount :=
  .new (.filled 3) 10000 systemProgramId [] false

theorem appendingSvm_logBlind : appendingSvm.LogBlindRegistry :=
  AllPrograms.ofRegistry_none.withBuiltin _ (addByte_logBlind 0xAB)

end HopperSvm

end Hopper
