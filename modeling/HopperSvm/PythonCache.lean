import HopperSvm.PythonObjects
import HopperSvm.Session

namespace Hopper

open Boxes

/-- Setting an account caches its address. -/
theorem FfiHarness.addresses_setAccount (harness : FfiHarness)
    (account : KeyedAccount) :
    addresses (harness.setAccount account).accounts =
      HopperSvm.pushUnseen (addresses harness.accounts)
        account.address := by
  rw [FfiHarness.setAccount, HopperSvm.pushUnseen]
  by_cases known : account.address ∈ addresses harness.accounts
  · rw [if_pos known]
    exact KeyedList.keys_upsert_of_mem KeyedAccount.address known
  · rw [if_neg known, addresses,
      KeyedList.upsert_of_not_mem KeyedAccount.address known,
      List.map_append]
    rfl

/-- A dispatch keeps the guard and the cached addresses. -/
theorem FfiHarness.dispatch_guarded {harness : FfiHarness} {ix : Instruction}
    {run : HopperExecutionResult × FfiHarness}
    (guarded : harness.svm.Guarded) (ran : harness.dispatch ix = some run) :
    run.2.svm.Guarded ∧
      addresses run.2.accounts = addresses harness.accounts := by
  obtain ⟨processed, processes, rfl⟩ := Option.map_eq_some_iff.mp ran
  obtain ⟨dispatch, dispatched, rfl⟩ :=
    Option.map_eq_some_iff.mp processes
  refine ⟨guarded.withCells _, ?_⟩
  exact (guarded.applies_dispatch dispatched).addresses_eq

namespace PythonBinding

/-- The address a call caches in a harness. -/
def caches (svm : ℕ) : Call → Except PythonError Reply → Option Pubkey
  | .setAccount other address _ _ _ _, .ok _ =>
      if other = svm then address.address.toOption else none
  | _, _ => none

/-- The addresses cached after a call: none in a new harness. -/
def cachedAfterCall (svm : ℕ) (cached : List Pubkey) (call : Call)
    (reply : Except PythonError Reply) : List Pubkey :=
  if opened reply = some { kind := .svm, number := svm } then []
  else (caches svm call reply).toList.foldl HopperSvm.pushUnseen cached

/-- The addresses cached after the calls, in order. -/
def cachedAfter (svm : ℕ) :
    List Pubkey → List (Call × Except PythonError Reply) → List Pubkey
  | cached, [] => cached
  | cached, (call, reply) :: rest =>
      cachedAfter svm (cachedAfterCall svm cached call reply) rest

theorem nodup_cachedAfterCall {svm : ℕ} {cached : List Pubkey}
    (distinct : cached.Nodup) (call : Call)
    (reply : Except PythonError Reply) :
    (cachedAfterCall svm cached call reply).Nodup := by
  rw [cachedAfterCall]
  by_cases fresh : opened reply = some { kind := .svm, number := svm }
  · rw [if_pos fresh]
    exact List.nodup_nil
  · rw [if_neg fresh]
    exact HopperSvm.nodup_foldl_pushUnseen distinct _

theorem nodup_cachedAfter {svm : ℕ} {cached : List Pubkey}
    (distinct : cached.Nodup)
    (history : List (Call × Except PythonError Reply)) :
    (cachedAfter svm cached history).Nodup := by
  induction history generalizing cached with
  | nil =>
      exact distinct
  | cons first rest inductionHypothesis =>
      exact
        inductionHypothesis
          (nodup_cachedAfterCall distinct first.1 first.2)

/-- What a call can do to harness `svm`. -/
inductive Touches (svm : ℕ) : Call → Except PythonError Reply →
    Option FfiHarness → Option FfiHarness → Prop
  | untouched {call : Call} {reply : Except PythonError Reply}
      {held : Option FfiHarness}
      (notOpened : opened reply ≠ some { kind := .svm, number := svm })
      (notSet : ∀ address lamports owner data executable,
        call = .setAccount svm address lamports owner data executable →
          ∃ err, reply = .error err) :
      Touches svm call reply held held
  | opened {call : Call} {reply : Except PythonError Reply}
      {held : Option FfiHarness} {harness : FfiHarness}
      (opens : opened reply = some { kind := .svm, number := svm })
      (guarded : harness.svm.Guarded) (empty : harness.accounts = []) :
      Touches svm call reply held (some harness)
  | budget {units : ℤ} {harness : FfiHarness} (limit : UInt64) :
      Touches svm (.setComputeBudget svm units) (.ok .done) (some harness)
        (some (harness.setComputeBudget limit))
  | set {address owner : PubkeyLike} {lamports : ℤ} {data : List UInt8}
      {executable : Bool} {harness : FfiHarness} (account : KeyedAccount)
      (named : address.address = .ok account.address)
      (priced : toUint64 lamports = .ok account.lamports) :
      Touches svm
        (.setAccount svm address lamports owner data executable)
        (.ok .done) (some harness) (some (harness.setAccount account))
  | dispatched {listed : InstructionLike} {ix : Instruction}
      {reply : Except PythonError Reply} {harness : FfiHarness}
      {run : HopperExecutionResult × FfiHarness}
      (notOpened : PythonBinding.opened reply ≠
        some { kind := .svm, number := svm })
      (read : listed.read = .ok ix) (ran : harness.dispatch ix = some run) :
      Touches svm (.dispatch svm listed) reply (some harness) (some run.2)
  | closed {call : Call} {reply : Except PythonError Reply}
      {held : Option FfiHarness} :
      Touches svm call reply held none

namespace Desk

variable {links : RuntimeLinks} {desk desk' : Desk} {svm : ℕ}

/-- The harness of the desk that has been written. -/
theorem svms_setSvm (desk : Desk) (other svm : ℕ)
    (harness : Option FfiHarness) :
    (desk.setSvm other harness).svms svm =
      if svm = other then harness else desk.svms svm :=
  Function.update_apply _ _ _ _

/-- A call on another harness. -/
theorem touches_other {call : Call} {other : ℕ} {harness : FfiHarness}
    {reply : Except PythonError Reply} (apart : svm ≠ other)
    (notOpened : opened reply ≠ some { kind := .svm, number := svm })
    (notSet : ∀ address lamports owner data executable,
      call = .setAccount svm address lamports owner data executable →
        ∃ err, reply = .error err) :
    Touches svm call reply (desk.svms svm)
      ((desk.setSvm other harness).svms svm) := by
  rw [svms_setSvm, if_neg apart]
  exact .untouched notOpened notSet

/-- A new harness is this one or another. -/
theorem touches_opens {call : Call} {harness : FfiHarness}
    (guarded : harness.svm.Guarded) (empty : harness.accounts = [])
    (notSet : ∀ svm address lamports owner data executable,
      call ≠ .setAccount svm address lamports owner data executable) :
    Touches svm call (desk.handOut .svm) (desk.svms svm)
      (((desk.setSvm (desk.created .svm) harness).count .svm).svms
        svm) := by
  by_cases same : svm = desk.created .svm
  · have written :
        ((desk.setSvm (desk.created .svm) harness).count .svm).svms svm =
          some harness :=
      (svms_setSvm desk _ svm _).trans (if_pos same)
    rw [written]
    exact .opened (by rw [same]; rfl) guarded empty
  · refine touches_other same ?_ ?_
    · intro opens
      cases opens
      exact same rfl
    · intro address lamports owner data executable sets
      exact absurd sets (notSet _ _ _ _ _ _)

theorem Step.touches {call : Call} {reply : Except PythonError Reply}
    (step : Step links desk call reply desk') (svm : ℕ) :
    Touches svm call reply (desk.svms svm) (desk'.svms svm) := by
  cases step with
  | refused err keeps =>
      refine .untouched ?_ fun _ _ _ _ _ _ => ⟨err, rfl⟩
      intro opens
      cases opens
  | newSvm =>
      refine touches_opens ?_ rfl fun _ _ _ _ _ _ sets => by cases sets
      exact
        { HopperSvm.runsBundled_new links.crates with
          strict := rfl }
  | newWithSolanaRuntime =>
      refine touches_opens ?_ rfl fun _ _ _ _ _ _ sets => by cases sets
      exact
        { (HopperSvm.runsBundled_new links.crates).withSolanaRuntime
            links with
          strict := rfl }
  | @setComputeBudget other units harness held limit =>
      by_cases same : svm = other
      · subst same
        rw [svms_setSvm, if_pos rfl, held]
        exact .budget limit
      · refine touches_other same ?_ ?_
        · intro opens
          cases opens
        · intro address lamports owner data executable sets
          cases sets
  | @setAccount other address owner lamports data executable harness held
      account named priced =>
      by_cases same : svm = other
      · subst same
        rw [svms_setSvm, if_pos rfl, held]
        exact .set account named priced
      · refine touches_other same ?_ ?_
        · intro opens
          cases opens
        · intro address lamports owner data executable sets
          cases sets
          exact absurd rfl same
  | getLamports balance =>
      refine .untouched ?_ ?_
      · intro opens
        cases opens
      · intro address lamports owner data executable sets
        cases sets
  | @dispatch other listed harness ix run held read ran =>
      have notOpened :
          opened (desk.handOut .result) ≠
            some { kind := .svm, number := svm } := by
        intro opens
        cases opens
      by_cases same : svm = other
      · subst same
        have written :
            (((desk.setSvm svm run.2).setResult (desk.created .result)
              run.1).count .result).svms svm = some run.2 :=
          (svms_setSvm desk svm svm _).trans (if_pos rfl)
        rw [written, held]
        exact .dispatched notOpened read ran
      · refine touches_other same notOpened ?_
        intro address lamports owner data executable sets
        cases sets
  | @ask result question answers =>
      refine .untouched ?_ ?_
      · intro opens
        cases question <;> cases opens
      · intro address lamports owner data executable sets
        cases sets
  | @close object desk' cleared =>
      have here := congrFun cleared { kind := .svm, number := svm }
      by_cases same : object = { kind := .svm, number := svm }
      · rw [same, Function.update_self] at here
        have none : desk'.svms svm = none := Option.map_eq_none_iff.mp here
        rw [none]
        exact .closed
      · rw [Function.update_of_ne (Ne.symm same)] at here
        have kept : desk'.svms svm = desk.svms svm := by
          refine Option.map_injective ?_ here
          intro left right sameCell
          cases sameCell
          rfl
        rw [kept]
        refine .untouched ?_ ?_
        · intro opens
          cases opens
        · intro address lamports owner data executable sets
          cases sets

end Desk

/-! ## The cache -/

/-- A harness that runs bundled programs under strict validation, with
these addresses cached. -/
structure Caches (held : Option FfiHarness) (cached : List Pubkey) :
    Prop where
  guarded : ∀ harness, held = some harness → harness.svm.Guarded
  exactly : ∀ harness, held = some harness →
    addresses harness.accounts = cached

theorem Caches.intro {harness : FfiHarness} {cached : List Pubkey}
    (guarded : harness.svm.Guarded)
    (exactly : addresses harness.accounts = cached) :
    Caches (some harness) cached where
  guarded _ same := Option.some.inj same ▸ guarded
  exactly _ same := Option.some.inj same ▸ exactly

theorem Caches.none (cached : List Pubkey) : Caches none cached where
  guarded _ same := nomatch same
  exactly _ same := nomatch same

/-- A call that sets nothing in the harness caches nothing in it. -/
theorem cachedAfterCall_of_not_set {svm : ℕ} {cached : List Pubkey}
    {call : Call} {reply : Except PythonError Reply}
    (notOpened : opened reply ≠ some { kind := .svm, number := svm })
    (notSet : ∀ address lamports owner data executable,
      call = .setAccount svm address lamports owner data executable →
        ∃ err, reply = .error err) :
    cachedAfterCall svm cached call reply = cached := by
  have silent : caches svm call reply = none := by
    unfold caches
    split
    · rename_i other address lamports owner data executable answer
      by_cases same : other = svm
      · subst same
        obtain ⟨err, failed⟩ := notSet _ _ _ _ _ rfl
        cases failed
      · exact if_neg same
    · rfl
  rw [cachedAfterCall, if_neg notOpened, silent]
  rfl

theorem Touches.caches {svm : ℕ} {call : Call}
    {reply : Except PythonError Reply} {held held' : Option FfiHarness}
    {cached : List Pubkey} (touches : Touches svm call reply held held')
    (caches : Caches held cached) :
    Caches held' (cachedAfterCall svm cached call reply) := by
  cases touches with
  | untouched notOpened notSet =>
      rw [cachedAfterCall_of_not_set notOpened notSet]
      exact caches
  | opened opens guarded empty =>
      refine .intro guarded ?_
      rw [empty, cachedAfterCall, if_pos opens]
      rfl
  | @budget units harness limit =>
      have guarded := caches.guarded harness rfl
      exact
        .intro (guarded.congr rfl rfl rfl rfl) (caches.exactly harness rfl)
  | @set address owner lamports data executable harness account named
      priced =>
      refine .intro (caches.guarded harness rfl) ?_
      rw [FfiHarness.addresses_setAccount, caches.exactly harness rfl]
      simp [cachedAfterCall, PythonBinding.opened, PythonBinding.caches,
        named, Except.toOption]
  | @dispatched listed ix reply harness run notOpened read ran =>
      obtain ⟨guarded, kept⟩ :=
        FfiHarness.dispatch_guarded (caches.guarded harness rfl) ran
      have silent :
          cachedAfterCall svm cached (.dispatch svm listed) reply =
            cached := by
        refine cachedAfterCall_of_not_set notOpened ?_
        intro address lamports owner data executable sets
        cases sets
      rw [silent]
      exact .intro guarded (kept.trans (caches.exactly harness rfl))
  | closed =>
      exact .none _

theorem caches_run {links : RuntimeLinks} {desk desk' : Desk} {svm : ℕ}
    {calls : List Call} {replies : List (Except PythonError Reply)}
    {cached : List Pubkey}
    (answered : Desk.run links desk calls = some (replies, desk'))
    (caches : Caches (desk.svms svm) cached) :
    Caches (desk'.svms svm) (cachedAfter svm cached (calls.zip replies)) := by
  induction calls generalizing desk replies cached with
  | nil =>
      cases answered
      exact caches
  | cons call rest inductionHypothesis =>
      obtain ⟨first, called, later⟩ := Option.bind_eq_some_iff.mp answered
      obtain ⟨last, ran, same⟩ := Option.bind_eq_some_iff.mp later
      cases same
      have step := (Desk.step_of_call called).touches svm
      exact inductionHypothesis ran (step.caches caches)

/-- A harness that is open after a program is one the desk holds. -/
theorem held_of_run {context : FfiEnvironment} {calls : List Call}
    {replies : List (Except PythonError Reply)} {world : World}
    (ran : World.run context .start calls = some (replies, world))
    {svm place : ℕ} {harness : FfiHarness}
    (held : world.handles { kind := .svm, number := svm } = some place)
    (found : world.memory.box place = some (.harness harness)) :
    ∃ desk,
      Desk.run context.links .start calls = some (replies, desk) ∧
        desk.svms svm = some harness := by
  obtain ⟨desk, answered, same⟩ := exists_desk ran
  obtain ⟨cell, owns, inBox⟩ := same.represents.opened held
  have isHarness : cell = .harness harness :=
    Option.some.inj (inBox.symm.trans found)
  subst isHarness
  obtain ⟨harness', holds, sameCell⟩ := Option.map_eq_some_iff.mp owns
  cases sameCell
  exact ⟨desk, answered, holds⟩

/-- After a program the cache of an open harness holds each address set on
it since it was made, once, in the order they were first set. -/
theorem run_caches {context : FfiEnvironment} {calls : List Call}
    {replies : List (Except PythonError Reply)} {world : World}
    (ran : World.run context .start calls = some (replies, world))
    {svm place : ℕ} {harness : FfiHarness}
    (held : world.handles { kind := .svm, number := svm } = some place)
    (found : world.memory.box place = some (.harness harness)) :
    addresses harness.accounts =
        cachedAfter svm [] (calls.zip replies) ∧
      (addresses harness.accounts).Nodup := by
  obtain ⟨desk, answered, holds⟩ := held_of_run ran held found
  have caches :
      Caches (desk.svms svm) (cachedAfter svm [] (calls.zip replies)) :=
    caches_run answered (.none [])
  have exactly := caches.exactly harness holds
  refine ⟨exactly, ?_⟩
  rw [exactly]
  exact nodup_cachedAfter List.nodup_nil _

/-- A sender and a receiver are cached, and the sender pays three
lamports. -/
def payingCalls : List Call :=
  [.newSvm,
    .setAccount 0 (.pubkey Simulator.senderAddress) 5
      (.pubkey systemProgramId) [] false,
    .setAccount 0 (.bytes Simulator.receiverAddress.bytes) 0
      (.pubkey systemProgramId) [] false,
    .dispatch 0
      { programId := .pubkey systemProgramId
        accounts :=
          [{ pubkey := .pubkey Simulator.senderAddress
             isSigner := true
             isWritable := true },
            { pubkey := .pubkey Simulator.receiverAddress
              isSigner := false
              isWritable := true }]
        data := Simulator.transferThree
        accounts_length := by decide }]

theorem run_caches_payingCalls :
    ∃ replies world place harness,
      World.run idleEnvironment .start payingCalls =
          some (replies, world) ∧
        world.handles { kind := .svm, number := 0 } = some place ∧
        world.memory.box place = some (.harness harness) ∧
        addresses harness.accounts =
            cachedAfter 0 [] (payingCalls.zip replies) ∧
          (addresses harness.accounts).Nodup := by
  obtain ⟨replies, world, place, harness, ran, held, found⟩ :
      ∃ replies world place harness,
        World.run idleEnvironment .start payingCalls =
            some (replies, world) ∧
          world.handles { kind := .svm, number := 0 } = some place ∧
          world.memory.box place = some (.harness harness) :=
    ⟨_, _, _, _, rfl, rfl, rfl⟩
  exact
    ⟨replies, world, place, harness, ran, held, found,
      run_caches ran held found⟩

end PythonBinding

end Hopper
