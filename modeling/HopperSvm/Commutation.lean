import HopperSvm.LedgerStep

namespace Hopper

namespace HopperSvm

variable {svm svm' : HopperSvm} {accounts : List KeyedAccount}

theorem processInstructionChain_swap {a b : Instruction}
    {programA programB : BuiltinProgram}
    {result : HopperExecutionResult}
    (servesA : svm.Serves a programA) (servesB : svm.Serves b programB)
    (cellsA : programA.KeepsCells) (cellsB : programB.KeepsCells)
    (apart : ∀ address ∈ a.accounts.map AccountMeta.pubkey,
      address ∉ b.accounts.map AccountMeta.pubkey)
    (distinct : (addresses accounts).Nodup)
    (ran : svm.processInstructionChain [a, b] accounts =
      some (result, svm'))
    (success : result.outcome.error = none) :
    ∃ swapped svm'',
      svm.processInstructionChain [b, a] accounts =
          some (swapped, svm'') ∧
        swapped.outcome.error = none ∧
        swapped.outcome.resultingAccounts =
          result.outcome.resultingAccounts := by
  have served : ∀ ix ∈ [a, b], ∃ program, svm.Serves ix program := by
    intro ix member
    rcases List.mem_cons.mp member with rfl | member
    · exact ⟨programA, servesA⟩
    · rw [List.mem_singleton.mp member]
      exact ⟨programB, servesB⟩
  have servedSwapped :
      ∀ ix ∈ [b, a], ∃ program, svm.Serves ix program := by
    intro ix member
    apply served
    simpa [or_comm] using member
  obtain ⟨sameAddresses, cells', run⟩ :=
    ledgerRun_of_processInstructionChain served distinct ran success
  cases run with
  | cons first rest =>
      cases rest with
      | cons second done =>
          cases done
          have disjoint : Disjoint (footprint a) (footprint b) :=
            Set.disjoint_left.mpr fun inA inB => apart inA inB
          obtain ⟨middle, secondFirst, firstSecond⟩ :=
            Footprint.Local.commute disjoint
              (LedgerStep.isLocal servesA) (LedgerStep.isLocal servesB)
              (LedgerStep.quiet servesA cellsA)
              (LedgerStep.quiet servesB cellsB) first second
          obtain ⟨swapped, svm'', swappedRan, swappedSuccess, sameLedger,
              swappedAddresses⟩ :=
            processInstructionChain_of_ledgerRun (by simp) servedSwapped
              distinct
              (.cons secondFirst (.cons firstSecond .nil))
          refine ⟨swapped, svm'', swappedRan, swappedSuccess, ?_⟩
          apply eq_of_ledgerOf_eq
          · rwa [swappedAddresses]
          · rw [swappedAddresses, sameAddresses]
          · exact sameLedger

/-- Two instructions of one program on different accounts. -/
def appendIx (address : Pubkey) : Instruction :=
  { programId := .filled 9
    accounts := [⟨address, false, true⟩]
    data := [] }

def otherAccount : KeyedAccount :=
  { clonedAccount with address := .filled 2 }

theorem appendingSvm_serves (address : Pubkey) :
    appendingSvm.Serves (appendIx address) (addByte 0xAB) :=
  ⟨appendingSvm_registered, addByte_keepsAddresses 0xAB,
    addByte_logBlind 0xAB⟩

theorem processInstructionChain_swap_addByte :
    ∃ swapped svm'',
      appendingSvm.processInstructionChain
          [appendIx (.filled 2), appendIx (.filled 1)]
          [clonedAccount, otherAccount] = some (swapped, svm'') ∧
        swapped.outcome.error = none ∧
        swapped.outcome.resultingAccounts =
          [appendedAccount,
            { appendedAccount with address := .filled 2 }] := by
  have ran :
      appendingSvm.processInstructionChain
          [appendIx (.filled 1), appendIx (.filled 2)]
          [clonedAccount, otherAccount] = some (_, _) := rfl
  exact
    processInstructionChain_swap (appendingSvm_serves (.filled 1))
      (appendingSvm_serves (.filled 2)) (addByte_keepsCells 0xAB)
      (addByte_keepsCells 0xAB) (by decide) (by decide) ran rfl

/-- Fail with `Custom(1)` unless `count` lines have been logged. -/
def needsLines (count : Nat) : BuiltinProgram :=
  .ofHandler "NeedsLines" (fun _ => 10)
    (fun _ => do
      let lines ← Procedure.gets fun state => state.logs.lines.length
      Procedure.rejectIf (lines < count) (.custom 1))
    (fun _ =>
      Procedure.Keeps.bind (Procedure.Keeps.gets _) fun _ =>
        (Procedure.Stateless.rejectIf _ _).keeps)

theorem needsLines_keepsAddresses (count : Nat) :
    (needsLines count).KeepsAddresses :=
  BuiltinProgram.keepsAddresses_ofHandler _

theorem needsLines_keepsCells (count : Nat) :
    (needsLines count).KeepsCells :=
  fun _ =>
    Procedure.Keeps.bind (Procedure.Keeps.gets _) fun _ =>
      (Procedure.Stateless.rejectIf _ _).keeps

/-- `unknownIx` now goes to a program that needs three logged lines. -/
def readingSvm : HopperSvm :=
  appendingSvm.withBuiltin (.filled 8) (needsLines 3)

/-- The instruction that fails first in one order succeeds in the other. -/
theorem log_reader_tells_orders_apart :
    ∃ result svm' swapped svm'',
      readingSvm.Registered (clonedIx 1).programId (addByte 0xAB) ∧
        readingSvm.Registered unknownIx.programId (needsLines 3) ∧
        (addByte 0xAB).KeepsAddresses ∧ (addByte 0xAB).KeepsCells ∧
        (needsLines 3).KeepsAddresses ∧ (needsLines 3).KeepsCells ∧
        readingSvm.validationPolicy = .strict ∧
        (∀ address ∈ (clonedIx 1).accounts.map AccountMeta.pubkey,
          address ∉ unknownIx.accounts.map AccountMeta.pubkey) ∧
        (addresses [clonedAccount]).Nodup ∧
        readingSvm.processInstructionChain [clonedIx 1, unknownIx]
            [clonedAccount] = some (result, svm') ∧
        result.outcome.error = none ∧
        readingSvm.processInstructionChain [unknownIx, clonedIx 1]
            [clonedAccount] = some (swapped, svm'') ∧
        swapped.outcome.error = some (.custom 1) :=
  ⟨_, _, _, _, ⟨rfl, rfl⟩, ⟨rfl, rfl⟩, addByte_keepsAddresses _,
    addByte_keepsCells _, needsLines_keepsAddresses _,
    needsLines_keepsCells _, rfl, by decide, by decide, rfl, rfl, rfl,
    rfl⟩

end HopperSvm

end Hopper
