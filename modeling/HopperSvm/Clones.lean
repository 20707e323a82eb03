import HopperSvm.Engine

namespace Hopper

open BuiltinEngine

/-- Clones of one address are equal before the program runs. -/
theorem clones_agree {accounts : List KeyedAccount}
    {metas : List AccountMeta} {slots : List KeyedAccount}
    (resolved : resolveAccounts accounts metas = .ok slots)
    {left right : KeyedAccount} (leftSlot : left ∈ slots)
    (rightSlot : right ∈ slots)
    (sameAddress : left.address = right.address) :
    left = right := by
  have leftFound := findAccount_of_resolved resolved leftSlot
  have rightFound := findAccount_of_resolved resolved rightSlot
  rw [sameAddress, rightFound] at leftFound
  exact (Option.some.inj leftFound).symm

/-- A slot decides the account at its address. -/
theorem findAccount_mergeAccounts_of_mem {address : Pubkey}
    {working : List KeyedAccount} (listed : address ∈ addresses working)
    (original : List KeyedAccount) :
    findAccount address (mergeAccounts original working) =
      findAccount address working.reverse := by
  have listed' :
      address ∈ working.reverse.map KeyedAccount.address := by
    rw [List.map_reverse, List.mem_reverse]
    exact listed
  obtain ⟨last, found⟩ :=
    KeyedList.exists_lookup_of_mem KeyedAccount.address listed'
  rw [findAccount_mergeAccounts]
  simp only [findAccount]
  rw [found, Option.some_or]

/-- The slots behind a lone update are those that were received. -/
theorem mem_later_iff {received working : List KeyedAccount} {index : Nat}
    (others : ∀ other, other ≠ index →
      working[other]? = received[other]?) (slot : KeyedAccount) :
    slot ∈ working.drop (index + 1) ↔
      ∃ later, index < later ∧ received[later]? = some slot := by
  rw [List.mem_iff_getElem?]
  constructor
  · rintro ⟨offset, found⟩
    rw [List.getElem?_drop, others _ (by omega)] at found
    exact ⟨index + 1 + offset, by omega, found⟩
  · rintro ⟨later, after, found⟩
    refine ⟨later - (index + 1), ?_⟩
    rw [List.getElem?_drop, others _ (by omega)]
    rwa [show index + 1 + (later - (index + 1)) = later by omega]

/-- What slot `index` finally holds is merged exactly when every later slot
at that address already held it. -/
theorem mergeAccounts_keeps_slot_iff {accounts : List KeyedAccount}
    {metas : List AccountMeta} {received working : List KeyedAccount}
    (resolved : resolveAccounts accounts metas = .ok received)
    {index : Nat} {final : KeyedAccount}
    (written : working[index]? = some final)
    (others : ∀ other, other ≠ index →
      working[other]? = received[other]?) :
    findAccount final.address (mergeAccounts accounts working) =
        some final ↔
      ∀ later slot, index < later → received[later]? = some slot →
        slot.address = final.address → slot = final := by
  obtain ⟨inRange, atIndex⟩ := List.getElem?_eq_some_iff.mp written
  have split :
      working =
        working.take index ++ final :: working.drop (index + 1) := by
    rw [← atIndex, List.getElem_cons_drop, List.take_append_drop]
  have memLater := mem_later_iff others
  have agree :
      ∀ left ∈ working.drop (index + 1),
        ∀ right ∈ working.drop (index + 1),
          left.address = right.address → left = right := by
    intro left leftLater right rightLater
    obtain ⟨_, _, leftFound⟩ := (memLater left).mp leftLater
    obtain ⟨_, _, rightFound⟩ := (memLater right).mp rightLater
    exact
      clones_agree resolved (List.mem_of_getElem? leftFound)
        (List.mem_of_getElem? rightFound)
  have listed : final.address ∈ addresses working :=
    List.mem_map_of_mem (List.mem_of_getElem? written)
  rw [findAccount_mergeAccounts_of_mem listed]
  simp only [findAccount]
  rw [split]
  constructor
  · intro found later slot after received_slot
    exact
      KeyedList.copies_of_lookup_reverse KeyedAccount.address agree found
        slot ((memLater slot).mpr ⟨later, after, received_slot⟩)
  · intro copies
    apply KeyedList.lookup_reverse_of_copies KeyedAccount.address
    intro slot later
    obtain ⟨index', after, found⟩ := (memLater slot).mp later
    exact copies index' slot after found

/-- The only slot a program wrote reaches the resulting accounts exactly
when no later slot at its address still holds another value. -/
theorem execute_keeps_lone_update_iff {program : BuiltinProgram}
    {ix : Instruction} {accounts : List KeyedAccount}
    {budget : ComputeBudget} {sysvars : Sysvars} {logs : LogCapture}
    {cells : HarnessCells} {run : EngineRun}
    {received : List KeyedAccount} {state : InvokeState}
    (ran : execute program ix accounts budget sysvars logs cells =
      some run)
    (reached : Reaches program ix accounts budget sysvars logs cells
      received state)
    {index : Nat} {final : KeyedAccount}
    (written : state.accounts[index]? = some final)
    (others : ∀ other, other ≠ index →
      state.accounts[other]? = received[other]?) :
    findAccount final.address run.outcome.resultingAccounts =
        some final ↔
      ∀ later slot, index < later → received[later]? = some slot →
        slot.address = final.address → slot = final := by
  rw [reached.execute_eq] at ran
  cases ran
  exact
    mergeAccounts_keeps_slot_iff reached.resolved written others

/-- Append `byte` to the data of the slot. -/
def addByteAt (index : Nat) (byte : UInt8) : BuiltinProgram :=
  .ofHandler "AddByte" (fun _ => 10)
    (fun _ => do
      Handler.log "running AddByte"
      Handler.writeSlot index fun account =>
        { account with data := account.data ++ [byte] })
    (fun _ =>
      Procedure.Keeps.bind (Handler.log_sameAddresses _) fun _ =>
        Handler.writeSlot_sameAddresses index fun _ => rfl)

/-- Append `byte` to the data of slot 0. -/
def addByte (byte : UInt8) : BuiltinProgram :=
  addByteAt 0 byte

theorem addByte_keepsAddresses (byte : UInt8) :
    (addByte byte).KeepsAddresses := by
  simp only [addByte, addByteAt]
  exact BuiltinProgram.keepsAddresses_ofHandler _

theorem addByte_logBlind (byte : UInt8) : (addByte byte).LogBlind :=
  fun _ =>
    Procedure.Respects.bind (Handler.log_logBlind _) fun _ =>
      Handler.writeSlot_logBlind 0 _

theorem addByte_keepsCells (byte : UInt8) : (addByte byte).KeepsCells :=
  fun _ =>
    Procedure.Keeps.bind (Procedure.Keeps.modify fun _ => rfl) fun _ =>
      Handler.writeSlot_keeps 0 fun _ _ _ => rfl

/-- An account of the program that runs in the examples below. -/
def clonedAccount : KeyedAccount :=
  .new (.filled 1) 1000 (.filled 9) [1, 2, 3] false

/-- An instruction that names the account in `slots` writable slots. -/
def clonedIx (slots : Nat) (fits : slots < 2 ^ 64 := by decide) :
    Instruction :=
  { programId := .filled 9
    accounts := List.replicate slots ⟨.filled 1, false, true⟩
    data := []
    accounts_length := by simpa using fits }

/-- The account after `addByte 0xAB`. -/
def appendedAccount : KeyedAccount :=
  { clonedAccount with data := [1, 2, 3, 0xAB] }

/-- What `addByte 0xAB` leaves of `slots` clones. -/
def appendedState (slots : Nat) : InvokeState :=
  { accounts := (List.replicate slots clonedAccount).set 0 appendedAccount
    logs :=
      (LogCapture.empty.invoke (.filled 9)).programLog "running AddByte"
    budget := { ComputeBudget.default with consumed := 10 }
    cells := ⟨none, 0⟩ }

/-- Of two clones the second one is written. -/
theorem execute_keeps_lone_update_last_slot :
    findAccount (.filled 1)
        (mergeAccounts [clonedAccount] [clonedAccount, appendedAccount]) =
      some appendedAccount := by
  have reached :
      Reaches (addByteAt 1 0xAB) (clonedIx 2) [clonedAccount] .default
        .default .empty ⟨none, 0⟩ [clonedAccount, clonedAccount]
        { appendedState 2 with
          accounts := [clonedAccount, appendedAccount] } :=
    ⟨rfl, rfl, rfl⟩
  have written :
      [clonedAccount, appendedAccount][1]? = some appendedAccount := rfl
  have others : ∀ other, other ≠ 1 →
      [clonedAccount, appendedAccount][other]? =
        [clonedAccount, clonedAccount][other]? := by
    intro other different
    rcases other with _ | _ | other
    · rfl
    · exact absurd rfl different
    · rfl
  apply
    (execute_keeps_lone_update_iff reached.execute_eq reached written
      others).mpr
  intro later slot after received
  have outOfRange : [clonedAccount, clonedAccount][later]? = none :=
    List.getElem?_eq_none (by simp; omega)
  rw [outOfRange] at received
  cases received

/-- Named twice, the account is merged back from its untouched clone. -/
theorem later_clone_overwrites_update :
    ∃ run,
      execute (addByte 0xAB) (clonedIx 2) [clonedAccount] .default
          .default .empty ⟨none, 0⟩ = some run ∧
        run.outcome.error = none ∧
        Reaches (addByte 0xAB) (clonedIx 2) [clonedAccount] .default
          .default .empty ⟨none, 0⟩ [clonedAccount, clonedAccount]
          (appendedState 2) ∧
        (appendedState 2).accounts[0]? = some appendedAccount ∧
        (∀ other, other ≠ 0 →
          (appendedState 2).accounts[other]? =
            [clonedAccount, clonedAccount][other]?) ∧
        findAccount appendedAccount.address
            run.outcome.resultingAccounts ≠
          some appendedAccount := by
  have reached :
      Reaches (addByte 0xAB) (clonedIx 2) [clonedAccount] .default .default
        .empty ⟨none, 0⟩ [clonedAccount, clonedAccount]
        (appendedState 2) :=
    ⟨rfl, rfl, rfl⟩
  refine
    ⟨_, reached.execute_eq, rfl, reached, rfl, ?_, by decide⟩
  intro other different
  cases other with
  | zero =>
      exact absurd rfl different
  | succ other =>
      rfl

end Hopper
