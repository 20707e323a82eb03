import HopperSvm.Chain

/-!
A dispatch of a registered program opens a frame in the log and closes it
again, whether the program succeeds or fails.  The BPF compatibility engine
opens a frame and closes none, on any of its three ways out, so every line
behind it stands one level too deep.
-/

namespace Hopper

namespace LogCapture

variable {logs : LogCapture} {programId : Pubkey}

/-- The line that opens the frame of a program. -/
def invokeLine (programId : Pubkey) (depth : Nat) : String :=
  s!"Program {programId} invoke [{depth}]"

/-- The log goes on from an earlier one, at the same depth. -/
structure Continues (before after : LogCapture) : Prop where
  depth : after.depth = before.depth
  lines : before.lines <+: after.lines

theorem Continues.refl (logs : LogCapture) : Continues logs logs where
  depth := rfl
  lines := List.prefix_rfl

theorem Continues.trans {before middle after : LogCapture}
    (first : Continues before middle) (later : Continues middle after) :
    Continues before after where
  depth := later.depth.trans first.depth
  lines := first.lines.trans later.lines

theorem continues_line (text : String) : Continues logs (logs.line text) where
  depth := rfl
  lines := List.prefix_append _ _

theorem continues_programLogs (messages : List String) :
    Continues logs (messages.foldl programLog logs) := by
  induction messages generalizing logs with
  | nil =>
      exact .refl logs
  | cons message messages inductionHypothesis =>
      have first : Continues logs (logs.programLog message) :=
        continues_line _
      exact first.trans inductionHypothesis

/-- The log went through a frame of the program: it is as deep as before,
and the frame starts behind the lines there were. -/
structure Framed (programId : Pubkey) (before after : LogCapture) :
    Prop where
  depth : after.depth = before.depth
  opened :
    before.lines ++ [invokeLine programId (before.depth + 1)] <+:
      after.lines

/-- A frame that is opened and closed again around what continues it. -/
theorem Framed.of_success {inside : LogCapture} {consumed limit : UInt64}
    (within : Continues (logs.invoke programId) inside) :
    Framed programId logs (inside.success programId consumed limit) where
  depth := by
    have deeper : inside.depth = logs.depth + 1 := within.depth
    rw [success, deeper, Nat.add_sub_cancel]
  opened := within.lines.trans (List.prefix_append _ _)

theorem Framed.of_failure {inside : LogCapture} {consumed limit : UInt64}
    {err : HopperSvmError}
    (within : Continues (logs.invoke programId) inside) :
    Framed programId logs
      (inside.failure programId consumed limit err) where
  depth := by
    have deeper : inside.depth = logs.depth + 1 := within.depth
    rw [failure, deeper, Nat.add_sub_cancel]
  opened := within.lines.trans (List.prefix_append _ _)

theorem Framed.continued {middle after : LogCapture}
    (framed : Framed programId logs middle)
    (later : Continues middle after) : Framed programId logs after where
  depth := later.depth.trans framed.depth
  opened := framed.opened.trans later.lines

end LogCapture

open LogCapture

/-- The log of the later state is that of the earlier one with lines logged
through `ctx.log` behind it. -/
def LoggedThroughContext (before after : InvokeState) : Prop :=
  ∃ messages : List String,
    after.logs = messages.foldl programLog before.logs

instance : IsPreorder InvokeState LoggedThroughContext where
  refl _ := ⟨[], rfl⟩
  trans := by
    rintro first middle last ⟨messages, logged⟩ ⟨messages', logged'⟩
    refine ⟨messages ++ messages', ?_⟩
    rw [List.foldl_append, ← logged]
    exact logged'

/-- The program logs through `ctx.log` only. -/
def BuiltinProgram.LogsThroughContext (program : BuiltinProgram) : Prop :=
  ∀ data, Procedure.Keeps LoggedThroughContext (program.invoke data)

section Engines

variable {program : BuiltinProgram} {ix : Instruction}
  {accounts : List KeyedAccount} {budget : ComputeBudget}
  {sysvars : Sysvars} {logs : LogCapture} {cells : HarnessCells}

/-- The built-in engine closes the frame on each of its ways out. -/
theorem BuiltinEngine.execute_framed {run : EngineRun}
    (logging : program.LogsThroughContext)
    (ran : execute program ix accounts budget sysvars logs cells =
      some run) :
    Framed ix.programId logs run.logs := by
  have within {budget' : ComputeBudget} {received : List KeyedAccount}
      {verdict : Except HopperSvmError Unit} {state : InvokeState}
      (invoked :
        invoke program ix sysvars budget' (logs.invoke ix.programId) cells
          received = some (verdict, state)) :
      Continues (logs.invoke ix.programId) state.logs := by
    obtain ⟨messages, logged⟩ :=
      logging ix.data _ _ verdict state invoked
    rw [logged]
    exact continues_programLogs messages
  cases ends_of_execute ran with
  | early err charged =>
      exact .of_failure (.refl _)
  | refused charged resolved invoked =>
      exact .of_failure (within invoked)
  | accepted reached =>
      exact .of_success (within reached.invoked)

/-- The log went one level deeper and stays there. -/
structure LeftOpen (programId : Pubkey) (before after : LogCapture) :
    Prop where
  depth : after.depth = before.depth + 1
  opened :
    before.lines ++ [invokeLine programId (before.depth + 1)] <+:
      after.lines

theorem LeftOpen.continued {programId : Pubkey}
    {before middle after : LogCapture}
    (leftOpen : LeftOpen programId before middle)
    (later : Continues middle after) : LeftOpen programId before after where
  depth := later.depth.trans leftOpen.depth
  opened := leftOpen.opened.trans later.lines

end Engines

namespace HopperSvm

variable {svm : HopperSvm} {ix : Instruction} {ixs : List Instruction}
  {accounts : List KeyedAccount} {logs : LogCapture}

/-- The instructions of the program go to the built-in engine. -/
def RunsBuiltin (svm : HopperSvm) (programId : Pubkey) : Prop :=
  svm.agaveClaims programId = false ∧
    ∃ program, svm.registry programId = some program

/-- The instructions of the program go to the BPF compatibility engine. -/
def RunsOnBpf (svm : HopperSvm) (programId : Pubkey) : Prop :=
  svm.agaveClaims programId = false ∧ svm.registry programId = none ∧
    ∃ engine loaded, svm.bpfEngine = some engine ∧
      engine.programs programId = some loaded

theorem applyValidation_continues {outcome : ExecutionOutcome}
    {policy : ValidationPolicy} :
    Continues logs
      (applyValidation ix accounts outcome policy logs).2 := by
  unfold applyValidation
  split
  · exact .refl logs
  · split
    · exact .refl logs
    · exact continues_line _

/-- What a dispatch does to the log, by the engine it goes to. -/
inductive Logs (svm : HopperSvm) (programId : Pubkey)
    (before after : LogCapture) : Prop
  | builtin (runs : svm.RunsBuiltin programId)
      (framed : Framed programId before after)
  | bpf (runs : svm.RunsOnBpf programId)
      (leftOpen : LeftOpen programId before after)
  | other (notBuiltin : ¬ svm.RunsBuiltin programId)
      (notBpf : ¬ svm.RunsOnBpf programId)
      (continues : Continues before after)

theorem dispatchOne_logs {dispatch : Dispatch}
    (logging : svm.AllPrograms BuiltinProgram.LogsThroughContext)
    (ran : svm.dispatchOne ix accounts logs = some dispatch) :
    svm.Logs ix.programId logs dispatch.logs := by
  cases goes_of_dispatchOne ran with
  | @agave run engine claimed linked =>
      obtain ⟨text, logged⟩ := (reported_of_agave linked).2
      have continues : Continues logs run.2 := by
        rw [logged]
        exact continues_line text
      have shadowed : svm.agaveClaims ix.programId ≠ false := by
        rw [claimed]
        decide
      exact
        .other (fun runs => shadowed runs.1) (fun runs => shadowed runs.1)
          continues
  | builtin unclaimed found executed =>
      have framed :=
        BuiltinEngine.execute_framed (logging ix.programId _ found)
          executed
      exact
        .builtin ⟨unclaimed, _, found⟩
          (framed.continued applyValidation_continues)
  | @bpf engine run unclaimed unregistered installed tried =>
      obtain ⟨⟨loaded, known⟩, _, text, logged⟩ :=
        reported_of_tryExecute tried
      have leftOpen : LeftOpen ix.programId logs run.2 := by
        rw [logged]
        exact ⟨rfl, List.prefix_append _ _⟩
      exact
        .bpf ⟨unclaimed, unregistered, engine, loaded, installed, known⟩
          (leftOpen.continued applyValidation_continues)
  | nowhere unclaimed unregistered unloaded =>
      refine .other ?_ ?_ (.refl logs)
      · rintro ⟨_, program, found⟩
        rw [unregistered] at found
        cases found
      · rintro ⟨_, _, engine, loaded, installed, known⟩
        rw [unloaded engine installed] at known
        cases known

/-! ## Chains -/

/-- One dispatch of a chain: the log it was handed, and the log it left. -/
structure ChainEntry where
  ix : Instruction
  before : LogCapture
  after : LogCapture

/-- The dispatches of a chain: of each instruction that the loop reaches
through those in front of it. -/
inductive Dispatches (svm : HopperSvm) (ixs : List Instruction)
    (accounts : List KeyedAccount) : ChainEntry → Prop
  | reached {front back : List Instruction} {ix : Instruction}
      {reached : ChainEnd} {dispatch : Dispatch}
      (split : ixs = front ++ ix :: back)
      (ran : runChain svm 0 front accounts .empty none = some reached)
      (fine : reached.failed = false)
      (dispatched :
        reached.svm.dispatchOne ix reached.state
          (reached.logs.sectionBreak
            s!"ix[{front.length}] @ {ix.programId}") = some dispatch) :
      Dispatches svm ixs accounts
        ⟨ix,
          reached.logs.sectionBreak
            s!"ix[{front.length}] @ {ix.programId}",
          dispatch.logs⟩

/-- The frame of each registered program starts at depth 1, and each
dispatch ends at the depth it started with. -/
def FramesBalance (svm : HopperSvm) (ixs : List Instruction)
    (accounts : List KeyedAccount) : Prop :=
  ∀ entry, svm.Dispatches ixs accounts entry →
    entry.after.depth = entry.before.depth ∧
      (svm.RunsBuiltin entry.ix.programId ∨
          svm.RunsOnBpf entry.ix.programId →
        entry.before.lines ++ [invokeLine entry.ix.programId 1] <+:
          entry.after.lines)

/-- Every dispatch of a chain does to the log what a dispatch does. -/
theorem Dispatches.logged {entry : ChainEntry}
    (logging : svm.AllPrograms BuiltinProgram.LogsThroughContext)
    (dispatches : svm.Dispatches ixs accounts entry) :
    svm.Logs entry.ix.programId entry.before entry.after := by
  cases dispatches with
  | @reached front back ix reached dispatch split ran fine dispatched =>
      have logging' :
          reached.svm.AllPrograms BuiltinProgram.LogsThroughContext := by
        rw [runChain_svm ran]
        exact logging
      have own := dispatchOne_logs logging' dispatched
      rw [runChain_svm ran] at own
      cases own with
      | builtin runs framed =>
          exact .builtin runs framed
      | bpf runs leftOpen =>
          exact .bpf runs leftOpen
      | other notBuiltin notBpf continues =>
          exact .other notBuiltin notBpf continues

theorem sectionBreak_grows (label : String) :
    logs.lines <+: (logs.sectionBreak label).lines := by
  rw [sectionBreak]
  by_cases blank : logs.lines.isEmpty
  · rw [List.isEmpty_iff.mp blank]
    exact List.nil_prefix
  · rw [if_neg blank, List.append_assoc]
    exact List.prefix_append _ _

section Logged

variable {programId : Pubkey} {before after : LogCapture}

theorem Logs.grows (logged : svm.Logs programId before after) :
    before.lines <+: after.lines := by
  cases logged with
  | builtin runs framed =>
      exact (List.prefix_append _ _).trans framed.opened
  | bpf runs leftOpen =>
      exact (List.prefix_append _ _).trans leftOpen.opened
  | other notBuiltin notBpf continues =>
      exact continues.lines

/-- Only the compatibility engine leaves the log at another depth. -/
theorem Logs.depth_iff (logged : svm.Logs programId before after) :
    after.depth = before.depth ↔ ¬ svm.RunsOnBpf programId := by
  cases logged with
  | builtin runs framed =>
      refine iff_of_true framed.depth ?_
      rintro ⟨_, unregistered, _⟩
      obtain ⟨_, program, found⟩ := runs
      rw [unregistered] at found
      cases found
  | bpf runs leftOpen =>
      have deeper := leftOpen.depth
      exact iff_of_false (by omega) (not_not.mpr runs)
  | other notBuiltin notBpf continues =>
      exact iff_of_true continues.depth notBpf

/-- Both engines that hold programs open a frame. -/
theorem Logs.opened (logged : svm.Logs programId before after)
    (invoked : svm.RunsBuiltin programId ∨ svm.RunsOnBpf programId) :
    before.lines ++ [invokeLine programId (before.depth + 1)] <+:
      after.lines := by
  cases logged with
  | builtin runs framed =>
      exact framed.opened
  | bpf runs leftOpen =>
      exact leftOpen.opened
  | other notBuiltin notBpf continues =>
      exact absurd invoked (not_or.mpr ⟨notBuiltin, notBpf⟩)

end Logged

/-- The loop only adds to the log. -/
theorem runChain_grows {index : Nat} {final : Option ExecutionOutcome}
    {ended : ChainEnd}
    (logging : svm.AllPrograms BuiltinProgram.LogsThroughContext)
    (ran : runChain svm index ixs accounts logs final = some ended) :
    logs.lines <+: ended.logs.lines := by
  have run := runs_of_runChain ran
  clear ran
  induction run with
  | finished =>
      exact List.prefix_rfl
  | failed ran failure =>
      exact (sectionBreak_grows _).trans (dispatchOne_logs logging ran).grows
  | @completed svm index ix rest accounts logs final dispatch ended ran
      success later inductionHypothesis =>
      have entered : logs.lines <+: dispatch.logs.lines :=
        (sectionBreak_grows _).trans (dispatchOne_logs logging ran).grows
      have onwards : (svm.withCells dispatch.cells).AllPrograms
          BuiltinProgram.LogsThroughContext := logging
      exact entered.trans (inductionHypothesis onwards)

/-- The transcript of a chain goes on from what each of its dispatches
left. -/
theorem Dispatches.transcribed {entry : ChainEntry} {ended : ChainEnd}
    (logging : svm.AllPrograms BuiltinProgram.LogsThroughContext)
    (dispatches : svm.Dispatches ixs accounts entry)
    (whole : runChain svm 0 ixs accounts .empty none = some ended) :
    entry.after.lines <+: ended.logs.lines := by
  cases dispatches with
  | @reached front back ix reached dispatch split ran fine dispatched =>
      rw [split, runChain_append rfl, ran, Option.bind_some, fine,
        Nat.zero_add] at whole
      have onwards := whole
      rw [if_neg Bool.false_ne_true, runChain_cons dispatched] at onwards
      split at onwards
      · cases onwards
        exact List.prefix_rfl
      · refine runChain_grows ?_ onwards
        rw [runChain_svm ran]
        exact logging

/-- While every dispatch keeps the depth, the loop does. -/
theorem depth_of_runChain {front : List Instruction} {reached : ChainEnd}
    (kept : ∀ entry, svm.Dispatches ixs accounts entry →
      entry.after.depth = entry.before.depth)
    (upTo : front <+: ixs)
    (ran : runChain svm 0 front accounts .empty none = some reached)
    (fine : reached.failed = false) : reached.logs.depth = 0 := by
  induction front using List.reverseRecOn generalizing reached with
  | nil =>
      cases ran
      rfl
  | append_singleton front ix inductionHypothesis =>
      rw [runChain_append rfl] at ran
      obtain ⟨middle, ranFront, later⟩ := Option.bind_eq_some_iff.mp ran
      by_cases stopped : middle.failed
      · rw [if_pos stopped] at later
        cases later
        rw [stopped] at fine
        cases fine
      · rw [if_neg stopped, Nat.zero_add] at later
        have fineFront : middle.failed = false := by
          simpa using stopped
        have atTop :=
          inductionHypothesis ((List.prefix_append _ _).trans upTo) ranFront
            fineFront
        obtain ⟨back, split⟩ := upTo
        rw [List.append_assoc] at split
        cases dispatched : middle.svm.dispatchOne ix middle.state
            (middle.logs.sectionBreak
              s!"ix[{front.length}] @ {ix.programId}") with
        | none =>
            rw [runChain, dispatched] at later
            cases later
        | some dispatch =>
            have own :=
              kept _ (.reached split.symm ranFront fineFront dispatched)
            have left : reached.logs = dispatch.logs := by
              rw [runChain_cons dispatched] at later
              split at later
              · cases later
                rfl
              · cases later
                rfl
            rw [left]
            exact own.trans atTop

/-- The frames of a chain balance exactly when none of its dispatches goes
to the compatibility engine. -/
theorem chain_framesBalance_iff (svm : HopperSvm)
    (logging : svm.AllPrograms BuiltinProgram.LogsThroughContext)
    (ixs : List Instruction) (accounts : List KeyedAccount) :
    svm.FramesBalance ixs accounts ↔
      ∀ entry, svm.Dispatches ixs accounts entry →
        ¬ svm.RunsOnBpf entry.ix.programId := by
  constructor
  · intro balance entry dispatches
    have kept := (balance entry dispatches).1
    exact (dispatches.logged logging).depth_iff.mp kept
  · intro noBpf
    have kept : ∀ entry, svm.Dispatches ixs accounts entry →
        entry.after.depth = entry.before.depth := by
      intro entry dispatches
      exact
        (dispatches.logged logging).depth_iff.mpr (noBpf entry dispatches)
    intro entry dispatches
    refine ⟨kept entry dispatches, ?_⟩
    intro invoked
    have opened := (dispatches.logged logging).opened invoked
    have top : entry.before.depth = 0 := by
      obtain ⟨split, ran, fine, dispatched⟩ := dispatches
      exact depth_of_runChain kept ⟨_, split.symm⟩ ran fine
    rw [top] at opened
    exact opened

theorem addByte_logsThroughContext (byte : UInt8) :
    (addByte byte).LogsThroughContext :=
  fun _ =>
    Procedure.Keeps.bind
      (Procedure.Keeps.modify fun _ => ⟨["running AddByte"], rfl⟩)
      fun _ => Handler.writeSlot_keeps 0 fun _ _ _ => ⟨[], rfl⟩

theorem chain_framesBalance_appending :
    appendingSvm.FramesBalance [clonedIx 1, clonedIx 1]
        [clonedAccount] ↔
      ∀ entry,
        appendingSvm.Dispatches [clonedIx 1, clonedIx 1] [clonedAccount]
            entry →
          ¬ appendingSvm.RunsOnBpf entry.ix.programId :=
  chain_framesBalance_iff appendingSvm
    (AllPrograms.ofRegistry_none.withBuiltin _
      (addByte_logsThroughContext 0xAB)) _ _

/-- A program of the compatibility engine that does nothing. -/
def idleBpfSvm : HopperSvm :=
  { ofRegistry fun _ => none with
    bpfEngine :=
      some
        { programs := fun programId =>
            if programId = .filled 7 then
              some { loader := .v3, loadError := none }
            else
              none
          agave :=
            { lamportsPerSignature := 5000
              kinds := fun _ => none
              runtime := fun request =>
                some (.ok (1, request.accounts)) } } }

def idleBpfIx : Instruction :=
  { programId := .filled 7
    accounts := []
    data := []
    accounts_length := Instruction.noAccounts_length }

/-- The second of two instructions is framed at depth 2. -/
theorem idle_chain_unbalanced :
    ¬ idleBpfSvm.FramesBalance [idleBpfIx, idleBpfIx] [] ∧
      ∃ result svm',
        idleBpfSvm.processInstructionChain [idleBpfIx, idleBpfIx] [] =
          some (result, svm') ∧
        invokeLine (.filled 7) 2 ∈ result.logs := by
  constructor
  · intro balance
    have first :=
      balance _
        (.reached (List.nil_append [idleBpfIx, idleBpfIx]).symm rfl rfl rfl)
    exact absurd first.1 (by decide)
  · refine ⟨_, _, rfl, ?_⟩
    decide +kernel

end HopperSvm

end Hopper
