import HopperSvm.Bundled
import HopperSvm.Fields

/-!
The one bundled program that writes the harness cells it shares: a limit
request sets the pending compute-unit limit, a price request the priority
fee.  It leaves its account slice as it is, and writes only after every
check has passed.
-/

namespace Hopper

/-- `compute_budget::id()`. -/
def computeBudgetProgramId : Pubkey :=
  ⟨[3, 6, 70, 111, 229, 33, 23, 50, 255, 236, 173, 186, 114, 195, 155, 231,
      188, 140, 229, 187, 197, 247, 18, 107, 44, 67, 155, 58, 64, 0, 0,
      0], rfl⟩

def computeBudgetCu : UInt64 := 150

def maxComputeUnitLimit : UInt32 := 1400000

/-- `ComputeBudgetInstruction`. -/
inductive ComputeBudgetInstruction where
  | requestUnits (units : UInt32)
  | requestHeapFrame (bytes : UInt32)
  | setComputeUnitLimit (units : UInt32)
  | setComputeUnitPrice (microLamports : UInt64)
  | setLoadedAccountsDataSizeLimit (bytes : UInt32)
  deriving DecidableEq

namespace ComputeBudgetInstruction

/-- The request of instruction data that passes every check, or the text of
the first check it fails. -/
def parse : List UInt8 → Except String ComputeBudgetInstruction
  | [] => .error "compute-budget: empty instruction data"
  | tag :: body =>
      match tag.toNat with
      | 0 =>
          if body.length < 8 then
            .error "compute-budget::RequestUnits: body < 8 bytes"
          else if u32At body 0 > maxComputeUnitLimit then
            .error
              s!"compute-budget::RequestUnits: {u32At body 0} > MAX_COMPUTE_UNIT_LIMIT ({maxComputeUnitLimit})"
          else
            .ok (.requestUnits (u32At body 0))
      | 1 =>
          if body.length < 4 then
            .error "compute-budget::RequestHeapFrame: body < 4 bytes"
          else
            .ok (.requestHeapFrame (u32At body 0))
      | 2 =>
          if body.length < 4 then
            .error "compute-budget::SetComputeUnitLimit: body < 4 bytes"
          else if u32At body 0 > maxComputeUnitLimit then
            .error
              s!"compute-budget::SetComputeUnitLimit: {u32At body 0} > MAX_COMPUTE_UNIT_LIMIT ({maxComputeUnitLimit})"
          else
            .ok (.setComputeUnitLimit (u32At body 0))
      | 3 =>
          if body.length < 8 then
            .error "compute-budget::SetComputeUnitPrice: body < 8 bytes"
          else
            .ok (.setComputeUnitPrice (u64At body 0))
      | 4 =>
          if body.length < 4 then
            .error
              "compute-budget::SetLoadedAccountsDataSizeLimit: body < 4 bytes"
          else
            .ok (.setLoadedAccountsDataSizeLimit (u32At body 0))
      | other =>
          .error
            s!"compute-budget: unknown instruction tag {other} (supported: 0/RequestUnits, 1/RequestHeapFrame, 2/SetComputeUnitLimit, 3/SetComputeUnitPrice, 4/SetLoadedAccountsDataSizeLimit)"

/-- The cells an accepted request leaves. -/
def apply (request : ComputeBudgetInstruction) (cells : HarnessCells) :
    HarnessCells :=
  match request with
  | requestUnits units =>
      { cells with pendingCuLimit := some units.toUInt64 }
  | requestHeapFrame _ => cells
  | setComputeUnitLimit units =>
      { cells with pendingCuLimit := some units.toUInt64 }
  | setComputeUnitPrice microLamports =>
      { cells with priorityFeeMicroLamportsPerCu := microLamports }
  | setLoadedAccountsDataSizeLimit _ => cells

/-- The line an accepted request logs. -/
def logged : ComputeBudgetInstruction → String
  | requestUnits units =>
      s!"compute-budget::RequestUnits (deprecated): {units} CU"
  | requestHeapFrame bytes =>
      s!"compute-budget::RequestHeapFrame: {bytes} bytes (Phase 1 heap is fixed at 32 KiB)"
  | setComputeUnitLimit units =>
      s!"compute-budget::SetComputeUnitLimit: {units} CU (applies to subsequent instructions)"
  | setComputeUnitPrice microLamports =>
      s!"compute-budget::SetComputeUnitPrice: {microLamports} μlamports/CU (applied to subsequent process_transaction calls)"
  | setLoadedAccountsDataSizeLimit bytes =>
      s!"compute-budget::SetLoadedAccountsDataSizeLimit: {bytes} bytes (Phase 1 doesn't enforce)"

end ComputeBudgetInstruction

namespace ComputeBudgetProgram

open Procedure

/-- The request of the instruction data, or the builtin error it ends in. -/
def requested (data : List UInt8) : Handler ComputeBudgetInstruction := do
  let context ← environment
  ofExcept <|
    (ComputeBudgetInstruction.parse data).mapError
      (.builtinError context.programId)

/-- `ComputeBudgetProgramSimulator::invoke`. -/
def invoke (data : List UInt8) : Handler Unit := do
  let request ← requested data
  modify fun state => { state with cells := request.apply state.cells }
  Handler.log request.logged

theorem requested_stateless (data : List UInt8) :
    Stateless (requested data) :=
  .bind .environment fun _ => .ofExcept _

theorem invoke_sameAddresses (data : List UInt8) :
    Keeps SameAddresses (invoke data) := by
  refine Keeps.bind (requested_stateless data).keeps fun request => ?_
  refine Keeps.bind (Keeps.modify fun _ => rfl) fun _ => ?_
  exact Handler.log_sameAddresses _

/-- A run accepts the request it parses, writing its cells and logging its
line, or leaves the state and fails. -/
theorem invoke_eq (data : List UInt8) (context : InvokeContext)
    (state : InvokeState) :
    invoke data context state =
      match ComputeBudgetInstruction.parse data with
      | .ok request =>
          some
            (.ok (),
              { state with
                cells := request.apply state.cells
                logs := state.logs.programLog request.logged })
      | .error message =>
          some
            (.error (.builtinError context.programId message), state) := by
  cases parsed : ComputeBudgetInstruction.parse data with
  | error message =>
      unfold invoke requested
      rw [parsed]
      rfl
  | ok request =>
      unfold invoke requested
      rw [parsed]
      rfl

end ComputeBudgetProgram

/-- `ComputeBudgetProgramSimulator`. -/
def computeBudgetProgramSimulator : BuiltinProgram :=
  .ofHandler "compute-budget" (fun _ => computeBudgetCu)
    ComputeBudgetProgram.invoke ComputeBudgetProgram.invoke_sameAddresses

end Hopper
