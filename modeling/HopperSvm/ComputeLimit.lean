import HopperSvm.Library.Overlay
import HopperSvm.Library.Trace
import HopperSvm.Simulation

/-!
The limit lives in two cells: the harness's own budget, which
`set_compute_budget` writes, and the pending limit, which a request to the
compute-budget program writes.  The inline engine and the BPF compatibility
engine read the budget through the pending limit; the Agave dispatch reads
the budget alone.  Over a run the two cells are a setting with an overlay.
-/

namespace Hopper

open Labelled Overlay

namespace HopperSvm

/-- `HopperSvm::set_compute_budget`. -/
def setComputeBudget (svm : HopperSvm) (units : UInt64) : HopperSvm :=
  { svm with budget := svm.budget.setLimit units }

/-- The budget the engine that executes the instruction is handed. -/
def handedBudget (svm : HopperSvm) (ix : Instruction) : ComputeBudget :=
  if svm.agaveClaims ix.programId then svm.budget else svm.dispatchBudget

/-- The limit the instruction runs under. -/
def runningLimit (svm : HopperSvm) (ix : Instruction) : UInt64 :=
  (svm.handedBudget ix).limit

variable {svm svm' : HopperSvm} {ix : Instruction}
  {accounts : List KeyedAccount} {logs : LogCapture}

/-- A dispatch depends on the budget of its harness only through the one its
engine is handed. -/
theorem dispatchOne_eq_of_handedBudget {budget : ComputeBudget}
    (handed :
      { svm with budget }.handedBudget ix = svm.handedBudget ix) :
    { svm with budget }.dispatchOne ix accounts logs =
      svm.dispatchOne ix accounts logs := by
  have sameClaims :
      { svm with budget }.agaveClaims ix.programId =
        svm.agaveClaims ix.programId :=
    rfl
  rw [handedBudget, handedBudget, sameClaims] at handed
  cases claims : svm.agaveEngine.filter fun engine =>
      engine.isRegistered ix.programId with
  | some engine =>
      rw [agaveClaims_of_filter_some claims, if_pos rfl, if_pos rfl]
        at handed
      rw [dispatchOne, dispatchOne, claims]
      subst handed
      rfl
  | none =>
      have unclaimed := agaveClaims_of_filter claims
      rw [unclaimed, if_neg Bool.false_ne_true, if_neg Bool.false_ne_true]
        at handed
      rw [dispatchOne, dispatchOne, claims, handed]

/-- The cells the limit lives in. -/
def limitCells (svm : HopperSvm) : Setting UInt64 :=
  ⟨svm.budget.limit, svm.cells.pendingCuLimit⟩

theorem runningLimit_of_claimed
    (claimed : svm.agaveClaims ix.programId = true) :
    svm.runningLimit ix = svm.limitCells.base := by
  rw [runningLimit, handedBudget, if_pos claimed]
  rfl

theorem runningLimit_of_unclaimed
    (unclaimed : svm.agaveClaims ix.programId = false) :
    svm.runningLimit ix = svm.limitCells.value := by
  rw [runningLimit, handedBudget, if_neg (by simp [unclaimed])]
  simp only [dispatchBudget, limitCells, Setting.value]
  cases svm.cells.pendingCuLimit <;> rfl

/-- No other program has access to the cells the compute-budget program
shares with the harness. -/
def CellsGuarded (svm : HopperSvm) : Prop :=
  ∀ id program, svm.registry id = some program →
    program.KeepsCells ∨
      id = computeBudgetProgramId ∧
        program = computeBudgetProgramSimulator

/-- Requests to the compute-budget program go to its simulator. -/
def Metered (svm : HopperSvm) : Prop :=
  svm.Registered computeBudgetProgramId computeBudgetProgramSimulator

end HopperSvm

/-- The limit asked for by SetComputeUnitLimit or RequestUnits. -/
def requestedLimit : List UInt8 → Option UInt64
  | [] => none
  | tag :: body =>
      if tag.toNat = 0 ∧ 8 ≤ body.length ∨
          tag.toNat = 2 ∧ 4 ≤ body.length then
        some (u32At body 0).toUInt64
      else
        none

/-- An accepted request leaves the limit it asks for pending. -/
theorem ComputeBudgetInstruction.pendingCuLimit_apply
    {data : List UInt8} {request : ComputeBudgetInstruction}
    {cells : HarnessCells} (parsed : parse data = .ok request) :
    (request.apply cells).pendingCuLimit =
      (requestedLimit data).or cells.pendingCuLimit := by
  cases data with
  | nil =>
      cases parsed
  | cons tag body =>
      rw [requestedLimit]
      unfold parse at parsed
      dsimp only at parsed
      generalize tag.toNat = number at parsed ⊢
      split at parsed
      · split at parsed
        · cases parsed
        · split at parsed
          · cases parsed
          · cases parsed
            rename_i long _
            simp [apply, not_lt.mp long]
      · split at parsed
        · cases parsed
        · cases parsed
          simp [apply]
      · split at parsed
        · cases parsed
        · split at parsed
          · cases parsed
          · cases parsed
            rename_i long _
            simp [apply, not_lt.mp long]
      · split at parsed
        · cases parsed
        · cases parsed
          simp [apply]
      · split at parsed
        · cases parsed
        · cases parsed
          simp [apply]
      · cases parsed

namespace HopperSvm

variable {svm svm' : HopperSvm} {ix : Instruction}
  {accounts : List KeyedAccount} {logs : LogCapture}
  {dispatched : Dispatch}

/-- A successful request leaves the limit it asks for pending. -/
theorem dispatchOne_request_pending (metered : svm.Metered)
    (toProgram : ix.programId = computeBudgetProgramId)
    (ran : svm.dispatchOne ix accounts logs = some dispatched)
    (success : dispatched.outcome.error = none) :
    dispatched.cells.pendingCuLimit =
      (requestedLimit ix.data).or svm.cells.pendingCuLimit := by
  have registered :
      svm.Registered ix.programId computeBudgetProgramSimulator := by
    rw [toProgram]
    exact metered
  obtain ⟨received, state, succeeds, rfl⟩ :=
    dispatchOne_succeeded registered ran success
  have invoked :
      ComputeBudgetProgram.invoke ix.data _ _ = some (.ok (), state) :=
    succeeds.reached.invoked
  rw [ComputeBudgetProgram.invoke_eq] at invoked
  split at invoked
  · rename_i request parsed
    cases invoked
    exact request.pendingCuLimit_apply parsed
  · cases invoked

/-- Any other dispatch leaves the cells. -/
theorem dispatchOne_other_cells (guarded : svm.CellsGuarded)
    (ran : svm.dispatchOne ix accounts logs = some dispatched)
    (other : ¬ (svm.Metered ∧ ix.programId = computeBudgetProgramId ∧
      dispatched.outcome.error = none)) :
    dispatched.cells = svm.cells := by
  have failed (bundled : ∀ program,
      svm.registry ix.programId = some program → program.Bundled)
      (failure : dispatched.outcome.error ≠ none) :
      dispatched.cells = svm.cells :=
    dispatchOne_failed_cells bundled ran failure
  cases goes_of_dispatchOne ran with
  | agave engine claimed linked =>
      rfl
  | builtin unclaimed found executed =>
      rcases guarded _ _ found with keeps | ⟨toProgram, rfl⟩
      · rcases execute_cells executed with kept | wrote
        · exact kept
        · rcases wrote with ⟨_, _, _, _, state, _, invoked, cells, _⟩
          exact cells.trans (keeps ix.data _ _ _ _ invoked)
      · rw [toProgram] at unclaimed found
        have metered : svm.Metered := ⟨unclaimed, found⟩
        apply failed
        · intro program found'
          rw [toProgram, found] at found'
          cases found'
          exact ⟨_, .computeBudget⟩
        · intro success
          exact other ⟨metered, toProgram, success⟩
  | bpf unclaimed unregistered installed tried =>
      rfl
  | nowhere unclaimed unregistered unloaded =>
      rfl

end HopperSvm

/-! ## Runs -/

/-- What happens to a harness: a call that sets its budget, or a dispatch
with what it left. -/
inductive LimitEvent where
  | setComputeBudget (units : UInt64)
  | dispatch (ix : Instruction) (accounts : List KeyedAccount)
      (logs : LogCapture) (dispatched : Dispatch)

namespace LimitEvent

/-- The event takes the harness from `svm` to `svm'`. -/
def Step (svm : HopperSvm) (event : LimitEvent) (svm' : HopperSvm) :
    Prop :=
  match event with
  | .setComputeBudget units => svm' = svm.setComputeBudget units
  | .dispatch ix accounts logs dispatched =>
      svm.dispatchOne ix accounts logs = some dispatched ∧
        svm' = svm.withCells dispatched.cells

/-- The write of the limit the event is: `set_compute_budget` is one to the
base, a successful request to the program one to the overlay. -/
def asked : LimitEvent → Option (Write UInt64)
  | .setComputeBudget units => some (.base units)
  | .dispatch ix _ _ dispatched =>
      if ix.programId = computeBudgetProgramId ∧
          dispatched.outcome.error = none then
        (requestedLimit ix.data).map .overlay
      else
        none

/-- The writes of the events, in order. -/
def writes (entries : List (Entry HopperSvm LimitEvent)) :
    List (Write UInt64) :=
  entries.filterMap fun entry => entry.event.asked

variable {svm svm' : HopperSvm} {event : LimitEvent}

/-- A step changes nothing the engines are chosen by. -/
structure SameEngines (svm svm' : HopperSvm) : Prop where
  registry : svm'.registry = svm.registry
  agaveEngine : svm'.agaveEngine = svm.agaveEngine

theorem Step.sameEngines (step : Step svm event svm') :
    SameEngines svm svm' := by
  cases event with
  | setComputeBudget units =>
      cases step
      exact ⟨rfl, rfl⟩
  | dispatch ix accounts logs dispatched =>
      rcases step with ⟨_, rfl⟩
      exact ⟨rfl, rfl⟩

theorem SameEngines.agaveClaims_eq (same : SameEngines svm svm')
    (programId : Pubkey) :
    svm'.agaveClaims programId = svm.agaveClaims programId := by
  rw [HopperSvm.agaveClaims, same.agaveEngine]
  rfl

theorem SameEngines.guarded (same : SameEngines svm svm')
    (guarded : svm.CellsGuarded) : svm'.CellsGuarded := by
  intro id program found
  rw [same.registry] at found
  exact guarded id program found

theorem SameEngines.metered_iff (same : SameEngines svm svm') :
    svm'.Metered ↔ svm.Metered := by
  constructor
  · rintro ⟨unclaimed, found⟩
    rw [same.agaveClaims_eq] at unclaimed
    rw [same.registry] at found
    exact ⟨unclaimed, found⟩
  · rintro ⟨unclaimed, found⟩
    rw [← same.agaveClaims_eq] at unclaimed
    rw [← same.registry] at found
    exact ⟨unclaimed, found⟩

/-- On a harness whose requests are metered every write reaches its cell. -/
theorem Step.limitCells_of_metered (guarded : svm.CellsGuarded)
    (metered : svm.Metered) (step : Step svm event svm') :
    svm'.limitCells = svm.limitCells.writeAll event.asked.toList := by
  cases event with
  | setComputeBudget units =>
      cases step
      rfl
  | dispatch ix accounts logs dispatched =>
      rcases step with ⟨ran, rfl⟩
      by_cases request : ix.programId = computeBudgetProgramId ∧
          dispatched.outcome.error = none
      · have pending :=
          HopperSvm.dispatchOne_request_pending metered request.1 ran
            request.2
        have cells :
            (svm.withCells dispatched.cells).limitCells =
              ⟨svm.budget.limit, dispatched.cells.pendingCuLimit⟩ :=
          rfl
        rw [asked, if_pos request, cells, pending]
        cases requestedLimit ix.data <;> rfl
      · have kept :=
          HopperSvm.dispatchOne_other_cells guarded ran fun all =>
            request all.2
        rw [asked, if_neg request, kept]
        rfl

/-- On any other harness only the writes to the budget do. -/
theorem Step.limitCells_of_not_metered (guarded : svm.CellsGuarded)
    (unmetered : ¬ svm.Metered) (step : Step svm event svm') :
    svm'.limitCells =
      svm.limitCells.writeAll
        ((bases event.asked.toList).map .base) := by
  cases event with
  | setComputeBudget units =>
      cases step
      rfl
  | dispatch ix accounts logs dispatched =>
      rcases step with ⟨ran, rfl⟩
      have kept :=
        HopperSvm.dispatchOne_other_cells guarded ran fun all =>
          unmetered all.1
      have noBase :
          bases (asked (.dispatch ix accounts logs dispatched)).toList =
            [] := by
        rw [asked]
        split
        · cases requestedLimit ix.data <;> rfl
        · rfl
      rw [noBase, kept]
      rfl

variable {entries : List (Entry HopperSvm LimitEvent)}

theorem writes_cons {entry : Entry HopperSvm LimitEvent}
    {rest : List (Entry HopperSvm LimitEvent)} :
    writes (entry :: rest) = entry.event.asked.toList ++ writes rest := by
  simp only [writes]
  rw [List.filterMap_cons]
  cases entry.event.asked <;> rfl

theorem sameEngines_of_run (run : Trace Step svm entries svm') :
    SameEngines svm svm' := by
  refine run.invariant ?_ ⟨rfl, rfl⟩
  intro before event after same step
  exact
    ⟨step.sameEngines.registry.trans same.registry,
      step.sameEngines.agaveEngine.trans same.agaveEngine⟩

/-- If each step writes what `heeds` keeps of its write, a run writes what
`heeds` keeps of its writes. -/
theorem limitCells_of_run (holds : HopperSvm → Prop)
    (heeds : List (Write UInt64) → List (Write UInt64))
    (heeds_nil : heeds [] = [])
    (heeds_append : ∀ front back,
      heeds (front ++ back) = heeds front ++ heeds back)
    (keeps : ∀ svm event svm', holds svm → Step svm event svm' →
      holds svm' ∧
        svm'.limitCells =
          svm.limitCells.writeAll (heeds event.asked.toList))
    (initial : holds svm) (run : Trace Step svm entries svm') :
    svm'.limitCells =
      svm.limitCells.writeAll (heeds (writes entries)) := by
  induction run with
  | nil =>
      rw [writes, List.filterMap_nil, heeds_nil, Setting.writeAll_nil]
  | cons first later inductionHypothesis =>
      obtain ⟨next, wrote⟩ := keeps _ _ _ initial first
      rw [inductionHypothesis next, wrote, writes_cons, heeds_append,
        Setting.writeAll_append]

/-- The harness has had no write to its limit. -/
structure Fresh (svm : HopperSvm) : Prop where
  budget : svm.budget = .default
  pendingCuLimit : svm.cells.pendingCuLimit = none

/-- The limit of a harness nobody has written to. -/
def defaultLimit : UInt64 := ComputeBudget.default.limit

theorem Fresh.limitCells_eq (fresh : Fresh svm) :
    svm.limitCells = ⟨defaultLimit, none⟩ := by
  rw [HopperSvm.limitCells, fresh.budget, fresh.pendingCuLimit]
  rfl

theorem limitCells_of_metered_run (guarded : svm.CellsGuarded)
    (metered : svm.Metered) (run : Trace Step svm entries svm') :
    svm'.limitCells = svm.limitCells.writeAll (writes entries) := by
  refine
    limitCells_of_run (fun svm => svm.CellsGuarded ∧ svm.Metered) id rfl
      (fun _ _ => rfl) ?_ ⟨guarded, metered⟩ run
  intro before event after conditions step
  have same := step.sameEngines
  exact
    ⟨⟨same.guarded conditions.1, same.metered_iff.mpr conditions.2⟩,
      step.limitCells_of_metered conditions.1 conditions.2⟩

theorem limitCells_of_unmetered_run (guarded : svm.CellsGuarded)
    (unmetered : ¬ svm.Metered) (run : Trace Step svm entries svm') :
    svm'.limitCells =
      ⟨(bases (writes entries)).getLastD svm.limitCells.base,
        svm.limitCells.overlay⟩ := by
  rw [← Setting.writeAll_map_base]
  refine
    limitCells_of_run (fun svm => svm.CellsGuarded ∧ ¬ svm.Metered)
      (fun writes => (bases writes).map .base) rfl (by simp [bases]) ?_
      ⟨guarded, unmetered⟩ run
  intro before event after conditions step
  have same := step.sameEngines
  refine
    ⟨⟨same.guarded conditions.1, ?_⟩,
      step.limitCells_of_not_metered conditions.1 conditions.2⟩
  rw [same.metered_iff]
  exact conditions.2

/-- Every dispatch runs under the last limit asked for before it. -/
def LastWriterWins (entries : List (Entry HopperSvm LimitEvent)) : Prop :=
  ∀ front entry back, entries = front ++ entry :: back →
    ∀ ix accounts logs dispatched,
      entry.event = .dispatch ix accounts logs dispatched →
        entry.before.runningLimit ix =
          lastWritten defaultLimit (writes front)

/-- The write the instruction's engine goes by asks for the same as the last
write of all: for an engine that reads the budget alone, and on a harness
whose requests are not metered, the last `set_compute_budget`; for the
others the last request, if there was one. -/
structure Agrees (svm : HopperSvm) (ix : Instruction)
    (writes : List (Write UInt64)) : Prop where
  budget : svm.agaveClaims ix.programId = true ∨ ¬ svm.Metered →
    (bases writes).getLastD defaultLimit = lastWritten defaultLimit writes
  request : svm.agaveClaims ix.programId = false → svm.Metered →
    ∀ units, (overlays writes).getLast? = some units →
      units = lastWritten defaultLimit writes

/-- Before every dispatch the writes agree. -/
def WritesAgree (entries : List (Entry HopperSvm LimitEvent)) : Prop :=
  ∀ front entry back, entries = front ++ entry :: back →
    ∀ ix accounts logs dispatched,
      entry.event = .dispatch ix accounts logs dispatched →
        Agrees entry.before ix (writes front)

/-- After a run a dispatch goes by the last writer just when the writes
agree. -/
theorem runningLimit_eq_lastWritten_iff (fresh : Fresh svm)
    (guarded : svm.CellsGuarded) (run : Trace Step svm entries svm')
    (ix : Instruction) :
    svm'.runningLimit ix = lastWritten defaultLimit (writes entries) ↔
      Agrees svm' ix (writes entries) := by
  have same := sameEngines_of_run run
  by_cases metered : svm.Metered
  · have metered' := same.metered_iff.mpr metered
    have cells := limitCells_of_metered_run guarded metered run
    rw [fresh.limitCells_eq] at cells
    cases claimed : svm'.agaveClaims ix.programId with
    | true =>
        rw [HopperSvm.runningLimit_of_claimed claimed, cells,
          Setting.base_writeAll]
        constructor
        · intro asked
          exact ⟨fun _ => asked, by simp [claimed]⟩
        · intro agrees
          exact agrees.budget (Or.inl claimed)
    | false =>
        rw [HopperSvm.runningLimit_of_unclaimed claimed, cells,
          Setting.value_writeAll_eq_lastWritten_iff]
        constructor
        · intro asked
          refine ⟨?_, fun _ _ => asked⟩
          intro either
          rcases either with claimed' | unmetered
          · rw [claimed] at claimed'
            cases claimed'
          · exact absurd metered' unmetered
        · intro agrees
          exact agrees.request claimed metered'
  · have unmetered : ¬ svm'.Metered := fun metered' =>
      metered (same.metered_iff.mp metered')
    have cells := limitCells_of_unmetered_run guarded metered run
    rw [fresh.limitCells_eq] at cells
    have budget : svm'.runningLimit ix =
        (bases (writes entries)).getLastD defaultLimit := by
      cases claimed : svm'.agaveClaims ix.programId with
      | true =>
          rw [HopperSvm.runningLimit_of_claimed claimed, cells]
      | false =>
          rw [HopperSvm.runningLimit_of_unclaimed claimed, cells]
          rfl
    rw [budget]
    constructor
    · intro asked
      exact ⟨fun _ => asked, fun _ metered' => absurd metered' unmetered⟩
    · intro agrees
      exact agrees.budget (Or.inr unmetered)

/-- The last writer wins in just the runs in which the writes agree before
every dispatch. -/
theorem lastWriterWins_iff {start finish : HopperSvm}
    (fresh : Fresh start) (guarded : start.CellsGuarded)
    (run : Trace Step start entries finish) :
    LastWriterWins entries ↔ WritesAgree entries := by
  constructor
  · intro wins front entry back split ix accounts logs dispatched event_eq
    have asked :=
      wins front entry back split ix accounts logs dispatched event_eq
    rw [split] at run
    have upTo := run.of_append.1
    exact (runningLimit_eq_lastWritten_iff fresh guarded upTo ix).mp asked
  · intro agree front entry back split ix accounts logs dispatched event_eq
    have agrees :=
      agree front entry back split ix accounts logs dispatched event_eq
    rw [split] at run
    have upTo := run.of_append.1
    exact
      (runningLimit_eq_lastWritten_iff fresh guarded upTo ix).mpr agrees

/-- A harness with nothing but the compute-budget program. -/
def limitSvm : HopperSvm :=
  (HopperSvm.ofRegistry fun _ => none).withComputeBudgetProgram

/-- SetComputeUnitLimit to 300000. -/
def raiseLimitIx : Instruction :=
  { programId := computeBudgetProgramId
    accounts := []
    data := [2, 224, 147, 4, 0]
    accounts_length := Instruction.noAccounts_length }

/-- SetComputeUnitPrice to one. -/
def priceIx : Instruction :=
  { programId := computeBudgetProgramId
    accounts := []
    data := [3, 1, 0, 0, 0, 0, 0, 0, 0]
    accounts_length := Instruction.noAccounts_length }

theorem raiseLimitIx_returns :
    (limitSvm.dispatchOne raiseLimitIx [] .empty).isSome := by
  decide +kernel

def raised : Dispatch :=
  (limitSvm.dispatchOne raiseLimitIx [] .empty).get raiseLimitIx_returns

def raisedSvm : HopperSvm := limitSvm.withCells raised.cells

/-- The user lowers the limit to 1000. -/
def loweredSvm : HopperSvm := raisedSvm.setComputeBudget 1000

theorem priceIx_returns :
    (loweredSvm.dispatchOne priceIx [] .empty).isSome := by
  decide +kernel

def priced : Dispatch :=
  (loweredSvm.dispatchOne priceIx [] .empty).get priceIx_returns

/-- A request, a call that lowers the limit, and an instruction. -/
def loweringRun : List (Entry HopperSvm LimitEvent) :=
  [⟨limitSvm, .dispatch raiseLimitIx [] .empty raised, raisedSvm⟩,
    ⟨raisedSvm, .setComputeBudget 1000, loweredSvm⟩,
    ⟨loweredSvm, .dispatch priceIx [] .empty priced,
      loweredSvm.withCells priced.cells⟩]

theorem loweringRun_trace :
    Trace Step limitSvm loweringRun (loweredSvm.withCells priced.cells) := by
  refine .cons ⟨?_, rfl⟩ (.cons rfl (.cons ⟨?_, rfl⟩ .nil))
  · exact (Option.some_get raiseLimitIx_returns).symm
  · exact (Option.some_get priceIx_returns).symm

theorem limitSvm_guarded : limitSvm.CellsGuarded := by
  intro id program found
  right
  unfold limitSvm HopperSvm.withComputeBudgetProgram
    HopperSvm.withBuiltin at found
  dsimp only at found
  split at found
  · rename_i same
    cases found
    exact ⟨same, rfl⟩
  · cases found

theorem lastWriterWins_iff_lowering :
    LastWriterWins loweringRun ↔ WritesAgree loweringRun :=
  lastWriterWins_iff ⟨rfl, rfl⟩ limitSvm_guarded loweringRun_trace

/-- The instruction after the call runs under the limit of the request. -/
theorem lowered_limit_loses :
    Fresh limitSvm ∧ limitSvm.CellsGuarded ∧
      Trace Step limitSvm loweringRun
        (loweredSvm.withCells priced.cells) ∧
      ¬ LastWriterWins loweringRun := by
  refine ⟨⟨rfl, rfl⟩, limitSvm_guarded, loweringRun_trace, ?_⟩
  intro wins
  have asked :=
    wins (loweringRun.take 2)
      ⟨loweredSvm, .dispatch priceIx [] .empty priced,
        loweredSvm.withCells priced.cells⟩
      [] rfl priceIx [] .empty priced rfl
  revert asked
  decide +kernel

end LimitEvent

end Hopper
