import HopperSvm.Dispatch
import HopperSvm.Library.Metering

/-!
A program is handed the meter after its baseline cost was charged.  It may
charge more, go on whatever the meter answers, and write the meter in other
ways.  Nobody looks at the meter again once the program has returned, so
success alone bounds nothing.
-/

namespace Hopper

open BuiltinEngine Metering Words

/-- A slice keeps its length. -/
def SameLength (before after : InvokeState) : Prop :=
  after.accounts.length = before.accounts.length

instance : IsPreorder InvokeState SameLength where
  refl _ := rfl
  trans _ _ _ first second := second.trans first

namespace ComputeBudget

/-- A charge is counted whether or not it is granted. -/
theorem consume_snd (budget : ComputeBudget) (units : UInt64) :
    (budget.consume units).2 =
      { budget with consumed := saturatingAdd budget.consumed units } := by
  simp only [consume]
  split <;> rfl

theorem consume_fst_eq_ok (budget : ComputeBudget) (units : UInt64) :
    (budget.consume units).1 = .ok () ↔
      saturatingAdd budget.consumed units ≤ budget.limit := by
  simp only [consume]
  split
  · rename_i above
    exact
      iff_of_false (fun absurdity => by cases absurdity)
        (UInt64.not_le.mpr above)
  · rename_i below
    exact iff_of_true rfl (UInt64.not_lt.mp below)

end ComputeBudget

/-- `ctx.budget`. -/
def ctxMeter : Meter UInt64 InvokeState HopperSvmError where
  size := UInt64.toNat
  cap := u64Max
  consumed state := state.budget.consumed.toNat
  limit state := state.budget.limit.toNat
  consume units state :=
    ((state.budget.consume units).1,
      { state with budget := (state.budget.consume units).2 })
  consumed_consume units state := by
    rw [ComputeBudget.consume_snd]
    exact toNat_saturatingAdd _ _
  limit_consume units state := by
    rw [ComputeBudget.consume_snd]
  granted_iff units state := by
    rw [ComputeBudget.consume_fst_eq_ok, ComputeBudget.consume_snd]
    exact UInt64.le_iff_toNat_le

/-- A program given by what it does step by step. -/
structure MeteredProgram where
  name : String
  cost : ComputeBudget → UInt64
  code : List UInt8 →
    Code UInt64 InvokeContext InvokeState HopperSvmError Unit SameLength

namespace MeteredProgram

def toProgram (program : MeteredProgram) : BuiltinProgram :=
  { name := program.name
    cost := program.cost
    invoke := fun data => (program.code data).run ctxMeter
    invoke_length := fun data =>
      (program.code data).run_keeps fun _ _ => rfl }

variable (program : MeteredProgram) (svm : HopperSvm) (ix : Instruction)

/-- The cost that is charged up front. -/
def baseline : UInt64 := program.cost svm.dispatchBudget.reset

def context : InvokeContext :=
  { programId := ix.programId
    accountMetas := ix.accounts
    sysvars := svm.sysvars }

/-- What the program is handed when its metas resolve to `received`. -/
def start (received : List KeyedAccount) : InvokeState :=
  { accounts := received
    logs := LogCapture.empty.invoke ix.programId
    budget :=
      (svm.dispatchBudget.reset.consume (program.baseline svm)).2
    cells := svm.cells }

/-- What the program charges during the instruction, with the answers it is
given. -/
def charges (accounts : List KeyedAccount) :
    List (UInt64 × Except HopperSvmError Unit) :=
  match resolveAccounts accounts ix.accounts with
  | .error _ => []
  | .ok received =>
      (program.code ix.data).charges ctxMeter (context svm ix)
        (program.start svm ix received)

theorem charges_eq {accounts received : List KeyedAccount}
    (resolved : resolveAccounts accounts ix.accounts = .ok received) :
    program.charges svm ix accounts =
      (program.code ix.data).charges ctxMeter (context svm ix)
        (program.start svm ix received) := by
  rw [charges, resolved]

theorem start_limit (received : List KeyedAccount) :
    ctxMeter.limit (program.start svm ix received) =
      svm.dispatchBudget.limit.toNat :=
  ctxMeter.limit_consume (program.baseline svm)
    { program.start svm ix received with
      budget := svm.dispatchBudget.reset }

theorem start_consumed (received : List KeyedAccount) :
    ctxMeter.consumed (program.start svm ix received) =
      (program.baseline svm).toNat := by
  have counted :
      ctxMeter.consumed (program.start svm ix received) =
        min (0 + (program.baseline svm).toNat) u64Max :=
    ctxMeter.consumed_consume (program.baseline svm)
      { program.start svm ix received with
        budget := svm.dispatchBudget.reset }
  rw [counted, Nat.zero_add,
    Nat.min_eq_left (toNat_le_u64Max (program.baseline svm))]

theorem start_within
    (affordable :
      (svm.dispatchBudget.reset.consume (program.baseline svm)).1 =
        .ok ())
    (received : List KeyedAccount) :
    ctxMeter.consumed (program.start svm ix received) ≤
      ctxMeter.limit (program.start svm ix received) := by
  have granted :=
    (ctxMeter.granted_iff (program.baseline svm)
      { program.start svm ix received with
        budget := svm.dispatchBudget.reset }).mp affordable
  rw [← ctxMeter.limit_consume (program.baseline svm)] at granted
  exact granted

/-- The units of these charges together. -/
def charged (accounts : List KeyedAccount) : ℕ :=
  ctxMeter.total ((program.charges svm ix accounts).map Prod.fst)

/-- A meter that takes these charges behind the baseline cost, and that
nobody else writes, refuses none of them. -/
def NoneRefused (accounts : List KeyedAccount) : Prop :=
  ctxMeter.Grants (program.start svm ix [])
    ((program.charges svm ix accounts).map Prod.fst)

/-- During the instruction the program writes the meter by charging it
only. -/
def OnlyCharges (accounts : List KeyedAccount) : Prop :=
  ∀ received, resolveAccounts accounts ix.accounts = .ok received →
    (program.code ix.data).OnlyCharges ctxMeter (context svm ix)
      (program.start svm ix received)

end MeteredProgram

namespace HopperSvm

open MeteredProgram

variable {svm svm' : HopperSvm} {ix : Instruction}
  {accounts : List KeyedAccount} {result : HopperExecutionResult}

/-- The units reported for a program that only charges the meter are those
it charged, cut off at the largest word. -/
theorem computeUnitsConsumed_metered {program : MeteredProgram}
    (registered : svm.Registered ix.programId program.toProgram)
    (ran : svm.processInstruction ix accounts = some (result, svm'))
    (success : result.outcome.error = none)
    (onlyCharges : program.OnlyCharges svm ix accounts) :
    result.outcome.computeUnitsConsumed.toNat =
      min ((program.baseline svm).toNat + program.charged svm ix accounts)
        u64Max := by
  obtain ⟨received, state, succeeds, outcome, _⟩ :=
    processInstruction_succeeded registered ran success
  have resolved := succeeds.reached.resolved
  have capped : ctxMeter.consumed (program.start svm ix received) ≤
      ctxMeter.cap :=
    toNat_le_u64Max _
  obtain ⟨consumed, _⟩ :=
    ctxMeter.reading_run (onlyCharges received resolved) capped
      succeeds.reached.invoked
  rw [outcome, charged, program.charges_eq svm ix resolved]
  rw [start_consumed] at consumed
  exact consumed

/-- The limit is kept where a meter of one's own refuses nothing, and does
not stop counting. -/
theorem charged_le_limit_iff (program : MeteredProgram)
    (affordable :
      (svm.dispatchBudget.reset.consume (program.baseline svm)).1 =
        .ok ()) :
    (program.baseline svm).toNat + program.charged svm ix accounts ≤
        svm.dispatchBudget.limit.toNat ↔
      program.NoneRefused svm ix accounts ∧
        (svm.dispatchBudget.limit.toNat = u64Max →
          (program.baseline svm).toNat + program.charged svm ix accounts ≤
            u64Max) := by
  have within := program.start_within svm ix affordable []
  have charged_le :=
    ctxMeter.total_le_iff within (toNat_le_u64Max _)
      ((program.charges svm ix accounts).map Prod.fst)
  rw [start_consumed, start_limit] at charged_le
  exact charged_le

/-- A program that only charges the meter is answered as by a meter of its
own. -/
theorem noneRefused_iff_answers {program : MeteredProgram}
    {received : List KeyedAccount}
    (resolved : resolveAccounts accounts ix.accounts = .ok received)
    (onlyCharges : program.OnlyCharges svm ix accounts) :
    program.NoneRefused svm ix accounts ↔
      ∀ charge ∈ program.charges svm ix accounts, charge.2 = .ok () := by
  have same : ctxMeter.SameReading (program.start svm ix received)
      (program.start svm ix []) :=
    ⟨rfl, rfl⟩
  rw [NoneRefused, program.charges_eq svm ix resolved]
  exact
    (ctxMeter.answers_ok_iff_grants (onlyCharges received resolved)
      same).symm

/-- A program that only charges the meter, and fails once it is refused,
keeps the limit. -/
theorem heeding_within_limit {program : MeteredProgram}
    (registered : svm.Registered ix.programId program.toProgram)
    (ran : svm.processInstruction ix accounts = some (result, svm'))
    (success : result.outcome.error = none)
    (onlyCharges : program.OnlyCharges svm ix accounts)
    (heeds : (program.code ix.data).Heeds ctxMeter)
    (below : svm.dispatchBudget.limit.toNat < u64Max) :
    (program.baseline svm).toNat + program.charged svm ix accounts ≤
      svm.dispatchBudget.limit.toNat := by
  obtain ⟨received, state, succeeds, _, _⟩ :=
    processInstruction_succeeded registered ran success
  have resolved := succeeds.reached.resolved
  rw [charged_le_limit_iff program succeeds.reached.affordable]
  constructor
  · rw [noneRefused_iff_answers resolved onlyCharges,
      program.charges_eq svm ix resolved]
    exact Code.answers_ok_of_heeds heeds succeeds.reached.invoked
  · intro largest
    exact absurd largest below.ne

end HopperSvm

end Hopper
