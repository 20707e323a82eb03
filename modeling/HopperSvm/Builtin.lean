import HopperSvm.Library.Procedure
import HopperSvm.Runtime

/-!
What a registered program is handed and what it may do with it.  The parts
of the invocation context a program only reads (program ID, metas, sysvars)
form the environment; the parts it may write (its account slice, the log
buffer, the meter, and the harness cells a bundled program shares) form the
state.  A program is any procedure over these that keeps the length of its
slice, since a `&mut [KeyedAccount]` cannot grow or shrink.
-/

namespace Hopper

/-- Cells of the harness that the bundled compute-budget program shares. -/
structure HarnessCells where
  pendingCuLimit : Option UInt64
  priorityFeeMicroLamportsPerCu : UInt64
  deriving DecidableEq

structure InvokeContext where
  programId : Pubkey
  accountMetas : List AccountMeta
  sysvars : Sysvars

structure InvokeState where
  accounts : List KeyedAccount
  logs : LogCapture
  budget : ComputeBudget
  cells : HarnessCells

abbrev Handler := Procedure InvokeContext InvokeState HopperSvmError

structure BuiltinProgram where
  name : String
  cost : ComputeBudget → UInt64
  invoke : List UInt8 → Handler Unit
  invoke_length : ∀ data,
    Procedure.Keeps
      (fun before after =>
        after.accounts.length = before.accounts.length)
      (invoke data)

/-- The two states hold the same addresses, slot by slot. -/
def SameAddresses (before after : InvokeState) : Prop :=
  addresses after.accounts = addresses before.accounts

instance : IsPreorder InvokeState SameAddresses where
  refl _ := rfl
  trans _ _ _ left right := right.trans left

/-- The two states hold the same harness cells. -/
def SameCells (before after : InvokeState) : Prop :=
  after.cells = before.cells

instance : IsPreorder InvokeState SameCells where
  refl _ := rfl
  trans _ _ _ left right := right.trans left

/-- The two states differ at most in their logs. -/
def SameButLogs (left right : InvokeState) : Prop :=
  left.accounts = right.accounts ∧ left.budget = right.budget ∧
    left.cells = right.cells

theorem SameAddresses.length_eq {before after : InvokeState}
    (same : SameAddresses before after) :
    after.accounts.length = before.accounts.length := by
  have lengths := congrArg List.length same
  simpa [addresses] using lengths

namespace BuiltinProgram

/-- The program leaves the address field of every slot alone. -/
def KeepsAddresses (program : BuiltinProgram) : Prop :=
  ∀ data, Procedure.Keeps SameAddresses (program.invoke data)

/-- A program from a handler that leaves every address alone. -/
def ofHandler (name : String) (cost : ComputeBudget → UInt64)
    (invoke : List UInt8 → Handler Unit)
    (keeps : ∀ data, Procedure.Keeps SameAddresses (invoke data)) :
    BuiltinProgram :=
  { name
    cost
    invoke
    invoke_length := fun data => (keeps data).mono fun same =>
      same.length_eq }

theorem keepsAddresses_ofHandler {name : String}
    {cost : ComputeBudget → UInt64} {invoke : List UInt8 → Handler Unit}
    (keeps : ∀ data, Procedure.Keeps SameAddresses (invoke data)) :
    (ofHandler name cost invoke keeps).KeepsAddresses :=
  keeps

/-- The log buffer is only written: runs that differ only in the lines it
already holds end the same way. -/
def LogBlind (program : BuiltinProgram) : Prop :=
  ∀ data, Procedure.Respects SameButLogs (program.invoke data)

/-- The shared harness cells are not written. -/
def KeepsCells (program : BuiltinProgram) : Prop :=
  ∀ data, Procedure.Keeps SameCells (program.invoke data)

end BuiltinProgram

namespace Handler

open Procedure

/-- `ctx.log(message)`. -/
def log (message : String) : Handler Unit :=
  modify fun state =>
    { state with logs := state.logs.programLog message }

/-- `accounts[index]`, panicking when there is no such slot. -/
def slot (index : Nat) : Handler KeyedAccount := do
  let found ← gets fun state => state.accounts[index]?
  expect found

/-- Assign through `accounts[index]`, panicking when there is no such
slot. -/
def writeSlot (index : Nat) (update : KeyedAccount → KeyedAccount) :
    Handler Unit := do
  let account ← slot index
  modify fun state =>
    { state with accounts := state.accounts.set index (update account) }

@[simp]
theorem log_eq_ok {message : String} {context : InvokeContext}
    {state final : InvokeState} {result : Unit} :
    log message context state = some (.ok result, final) ↔
      { state with logs := state.logs.programLog message } = final :=
  modify_eq_ok

@[simp]
theorem slot_eq_ok {index : Nat} {context : InvokeContext}
    {state final : InvokeState} {account : KeyedAccount} :
    slot index context state = some (.ok account, final) ↔
      state.accounts[index]? = some account ∧ state = final := by
  unfold slot
  simp only [bind_eq_ok, gets_eq_ok, expect_eq_ok]
  constructor
  · rintro ⟨_, _, ⟨rfl, rfl⟩, found, rfl⟩
    exact ⟨found, rfl⟩
  · rintro ⟨found, rfl⟩
    exact ⟨_, state, ⟨rfl, rfl⟩, found, rfl⟩

@[simp]
theorem writeSlot_eq_ok {index : Nat}
    {update : KeyedAccount → KeyedAccount} {context : InvokeContext}
    {state final : InvokeState} {result : Unit} :
    writeSlot index update context state = some (.ok result, final) ↔
      ∃ account, state.accounts[index]? = some account ∧
        { state with
          accounts := state.accounts.set index (update account) } =
          final := by
  unfold writeSlot
  simp only [bind_eq_ok, slot_eq_ok, modify_eq_ok]
  constructor
  · rintro ⟨account, _, ⟨found, rfl⟩, wrote⟩
    exact ⟨account, found, wrote⟩
  · rintro ⟨account, found, wrote⟩
    exact ⟨account, state, ⟨found, rfl⟩, wrote⟩

theorem slot_keeps {related : InvokeState → InvokeState → Prop}
    [IsPreorder InvokeState related] (index : Nat) :
    Keeps related (slot index) :=
  Keeps.bind (Keeps.gets _) fun _ => (Stateless.expect _).keeps

theorem log_sameAddresses (message : String) :
    Keeps SameAddresses (log message) :=
  Keeps.modify fun _ => rfl

/-- A slot write keeps whatever every assignment through it keeps. -/
theorem writeSlot_keeps {related : InvokeState → InvokeState → Prop}
    (index : Nat) {update : KeyedAccount → KeyedAccount}
    (step : ∀ state account, state.accounts[index]? = some account →
      related state
        { state with
          accounts := state.accounts.set index (update account) }) :
    Keeps related (writeSlot index update) := by
  intro context state outcome final ran
  cases found : state.accounts[index]? with
  | none =>
      have stuck : writeSlot index update context state = none := by
        simp [writeSlot, slot, bind, Procedure.gets, Procedure.expect,
          found, panicked]
      rw [stuck] at ran
      cases ran
  | some account =>
      have wrote :
          writeSlot index update context state =
            some (.ok (),
              { state with
                accounts :=
                  state.accounts.set index (update account) }) :=
        writeSlot_eq_ok.mpr ⟨account, found, rfl⟩
      rw [wrote] at ran
      obtain ⟨_, rfl⟩ := Prod.mk.inj (Option.some.inj ran)
      exact step state account found

theorem writeSlot_sameLength (index : Nat)
    (update : KeyedAccount → KeyedAccount) :
    Keeps
      (fun before after =>
        after.accounts.length = before.accounts.length)
      (writeSlot index update) :=
  writeSlot_keeps index fun state account _ => by
    simp

theorem writeSlot_sameAddresses (index : Nat)
    {update : KeyedAccount → KeyedAccount}
    (sameAddress : ∀ account, (update account).address = account.address) :
    Keeps SameAddresses (writeSlot index update) := by
  apply writeSlot_keeps
  intro state account found
  change
    (state.accounts.set index (update account)).map
        KeyedAccount.address =
      state.accounts.map KeyedAccount.address
  obtain ⟨inRange, rfl⟩ := List.getElem?_eq_some_iff.mp found
  have inMapped :
      index < (state.accounts.map KeyedAccount.address).length := by
    simpa using inRange
  have unchanged := List.set_getElem_self inMapped
  rw [List.getElem_map] at unchanged
  rw [List.map_set, sameAddress]
  exact unchanged

/-- Slots are read and written the same way in states with equal slots. -/
theorem slot_respects {related : InvokeState → InvokeState → Prop}
    (sameAccounts : ∀ {left right}, related left right →
      left.accounts = right.accounts)
    (index : Nat) :
    Respects related (slot index) :=
  Respects.bind
    (Respects.gets fun same => by rw [sameAccounts same])
    fun _ => (Stateless.expect _).respects

theorem writeSlot_logBlind (index : Nat)
    (update : KeyedAccount → KeyedAccount) :
    Respects SameButLogs (writeSlot index update) := by
  refine
    Respects.bind (slot_respects (fun same => same.1) index)
      fun account => ?_
  apply Respects.modify
  rintro left right ⟨accounts, budget, cells⟩
  exact ⟨by rw [accounts], budget, cells⟩

theorem log_logBlind (message : String) :
    Respects SameButLogs (log message) :=
  Respects.modify fun same => same

end Handler

end Hopper
