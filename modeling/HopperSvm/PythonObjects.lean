import HopperSvm.BundledHarness
import HopperSvm.PythonRuns

/-!
A history tells which objects are open: those handed out and not closed
since.  After any program the boxes in use are theirs, one each, so a program
that closes what it opened leaves no box behind, and the strings that
crossed the interface are gone too.
-/

namespace Hopper

open Boxes

namespace PythonBinding

/-- The object a reply hands out. -/
def opened : Except PythonError Reply → Option ObjectId
  | .ok (.object object) => some object
  | _ => none

/-- The object a call closes. -/
def closed : Call → Option ObjectId
  | .close object => some object
  | _ => none

/-- Whether an object is open after the calls, going on from before. -/
def openAfter (object : ObjectId) :
    Bool → List (Call × Except PythonError Reply) → Bool
  | isOpen, [] => isOpen
  | isOpen, (call, reply) :: rest =>
      openAfter object
        (if opened reply = some object then true
        else if closed call = some object then false
        else isOpen)
        rest

namespace Desk

variable {links : RuntimeLinks} {desk desk' : Desk}

theorem ok_of_bind {ε α β : Type} {first : Except ε α}
    {next : α → Except ε β} {value : β}
    (same : first >>= next = .ok value) :
    ∃ middle, first = .ok middle ∧ next middle = .ok value := by
  cases first with
  | error err =>
      cases same
  | ok middle =>
      exact ⟨middle, rfl, same⟩

/-- What a call can do to the desk. -/
inductive Step (links : RuntimeLinks) (desk : Desk) :
    Call → Except PythonError Reply → Desk → Prop
  | refused {call : Call} (err : PythonError) (keeps : closed call = none) :
      Step links desk call (.error err) desk
  | newSvm :
      Step links desk .newSvm (desk.handOut .svm)
        ((desk.setSvm (desk.created .svm) (FfiHarness.fresh links)).count
          .svm)
  | newWithSolanaRuntime :
      Step links desk .newWithSolanaRuntime (desk.handOut .svm)
        ((desk.setSvm (desk.created .svm)
          ((FfiHarness.fresh links).withSolanaRuntime links)).count .svm)
  | setComputeBudget {svm : ℕ} {units : ℤ} {harness : FfiHarness}
      (held : desk.svms svm = some harness) (limit : UInt64) :
      Step links desk (.setComputeBudget svm units) (.ok .done)
        (desk.setSvm svm (harness.setComputeBudget limit))
  | setAccount {svm : ℕ} {address owner : PubkeyLike} {lamports : ℤ}
      {data : List UInt8} {executable : Bool} {harness : FfiHarness}
      (held : desk.svms svm = some harness) (account : KeyedAccount)
      (named : address.address = .ok account.address)
      (priced : toUint64 lamports = .ok account.lamports) :
      Step links desk
        (.setAccount svm address lamports owner data executable)
        (.ok .done) (desk.setSvm svm (harness.setAccount account))
  | getLamports {svm : ℕ} {address : PubkeyLike} (balance : Option ℕ) :
      Step links desk (.getLamports svm address)
        (.ok (.balance balance)) desk
  | dispatch {svm : ℕ} {listed : InstructionLike} {harness : FfiHarness}
      {ix : Instruction} {run : HopperExecutionResult × FfiHarness}
      (held : desk.svms svm = some harness) (read : listed.read = .ok ix)
      (ran : harness.dispatch ix = some run) :
      Step links desk (.dispatch svm listed) (desk.handOut .result)
        (((desk.setSvm svm run.2).setResult (desk.created .result)
          run.1).count .result)
  | ask {result : ℕ} {question : Question}
      (answers : HopperExecutionResult) :
      Step links desk (.ask result question)
        (.ok (question.answer answers)) desk
  | close {object : ObjectId} {desk' : Desk}
      (cleared :
        desk'.object = Function.update desk.object object none) :
      Step links desk (.close object) (.ok .done) desk'

theorem setSvm_of_held {svm : ℕ} {harness : FfiHarness}
    (held : desk.svms svm = some harness) :
    desk.setSvm svm harness = desk := by
  rw [setSvm, ← held, Function.update_eq_self]

/-- A method on a harness is refused, or performed on the open harness. -/
theorem step_onSvm {call : Call} {svm : ℕ}
    {operation : FfiHarness → Except PythonError (Reply × FfiHarness)}
    {reply : Except PythonError Reply} (keeps : closed call = none)
    (performs : ∀ harness reply harness',
      desk.svms svm = some harness →
        operation harness = .ok (reply, harness') →
          Step links desk call (.ok reply) (desk.setSvm svm harness'))
    (answered : desk.onSvm svm operation = (reply, desk')) :
    Step links desk call reply desk' := by
  rw [onSvm] at answered
  cases held : desk.svms svm with
  | none =>
      rw [held] at answered
      cases answered
      exact .refused _ keeps
  | some harness =>
      rw [held] at answered
      dsimp only at answered
      cases performed : operation harness with
      | error err =>
          rw [performed] at answered
          cases answered
          exact .refused _ keeps
      | ok performed' =>
          rw [performed] at answered
          cases answered
          exact performs _ _ _ held performed

theorem step_of_call {call : Call} {reply : Except PythonError Reply}
    (answered : desk.call links call = some (reply, desk')) :
    Step links desk call reply desk' := by
  cases call with
  | newSvm =>
      cases Option.some.inj answered
      exact .newSvm
  | newWithSolanaRuntime =>
      cases Option.some.inj answered
      exact .newWithSolanaRuntime
  | setComputeBudget svm units =>
      refine step_onSvm rfl ?_ (Option.some.inj answered)
      intro harness reply harness' held performed
      obtain ⟨limit, _, same⟩ := ok_of_bind performed
      cases same
      exact .setComputeBudget held limit
  | setAccount svm address lamports owner data executable =>
      refine step_onSvm rfl ?_ (Option.some.inj answered)
      intro harness reply harness' held performed
      obtain ⟨place, named, performed⟩ := ok_of_bind performed
      obtain ⟨owner, _, performed⟩ := ok_of_bind performed
      obtain ⟨lamports, priced, same⟩ := ok_of_bind performed
      cases same
      exact .setAccount held _ named priced
  | getLamports svm address =>
      refine step_onSvm rfl ?_ (Option.some.inj answered)
      intro harness reply harness' held performed
      obtain ⟨place, _, same⟩ := ok_of_bind performed
      cases same
      rw [setSvm_of_held held]
      exact .getLamports _
  | dispatch svm listed =>
      change desk.dispatch svm listed = _ at answered
      rw [Desk.dispatch] at answered
      cases held : desk.svms svm with
      | none =>
          rw [held] at answered
          cases answered
          exact .refused _ rfl
      | some harness =>
          rw [held] at answered
          dsimp only at answered
          cases read : listed.read with
          | error err =>
              rw [read] at answered
              cases answered
              exact .refused _ rfl
          | ok ix =>
              rw [read] at answered
              obtain ⟨run, ran, same⟩ :=
                Option.map_eq_some_iff.mp answered
              cases same
              exact .dispatch held read ran
  | ask result question =>
      rw [call] at answered
      cases held : desk.results result with
      | none =>
          rw [held] at answered
          cases answered
          exact .refused _ rfl
      | some answers =>
          rw [held] at answered
          cases answered
          exact .ask answers
  | close object =>
      rcases object with ⟨kind, number⟩
      cases kind with
      | svm =>
          cases Option.some.inj answered
          exact .close (object_setSvm desk number none)
      | result =>
          cases Option.some.inj answered
          exact .close (object_setResult desk number none)

theorem isSome_update (desk : Desk) (object other : ObjectId)
    (cell : Option Cell) :
    (Function.update desk.object other cell object).isSome =
      if other = object then cell.isSome
      else (desk.object object).isSome := by
  by_cases same : other = object
  · rw [if_pos same, same, Function.update_self]
  · rw [if_neg same, Function.update_of_ne (Ne.symm same)]

/-- Writing an open harness opens and closes nothing. -/
theorem isSome_object_setSvm {svm : ℕ} {harness : FfiHarness}
    (held : desk.svms svm = some harness) (harness' : FfiHarness)
    (object : ObjectId) :
    ((desk.setSvm svm harness').object object).isSome =
      (desk.object object).isSome := by
  rw [object_setSvm, isSome_update]
  by_cases same : ({ kind := .svm, number := svm } : ObjectId) = object
  · rw [if_pos same, ← same, Desk.object, held]
    rfl
  · rw [if_neg same]

/-- A call opens what its reply hands out, closes what it names, and leaves
the rest. -/
theorem Step.isSome_object {call : Call} {reply : Except PythonError Reply}
    (step : Step links desk call reply desk') (object : ObjectId) :
    (desk'.object object).isSome =
      if opened reply = some object then true
      else if closed call = some object then false
      else (desk.object object).isSome := by
  cases step with
  | refused err keeps =>
      rw [keeps]
      simp [opened]
  | newSvm =>
      rw [object_count, object_setSvm, isSome_update]
      simp [opened, handOut, closed]
  | newWithSolanaRuntime =>
      rw [object_count, object_setSvm, isSome_update]
      simp [opened, handOut, closed]
  | setComputeBudget held limit =>
      rw [isSome_object_setSvm held]
      simp [opened, closed]
  | setAccount held account named priced =>
      rw [isSome_object_setSvm held]
      simp [opened, closed]
  | getLamports balance =>
      simp [opened, closed]
  | dispatch held read ran =>
      rw [object_count, object_setResult, isSome_update,
        isSome_object_setSvm held]
      simp [opened, handOut, closed]
  | ask answers =>
      rename_i result question
      cases question <;> simp [opened, closed, Question.answer]
  | close cleared =>
      rw [cleared, isSome_update]
      simp [opened, closed]

theorem isSome_object_run {calls : List Call}
    {replies : List (Except PythonError Reply)}
    (answered : Desk.run links desk calls = some (replies, desk'))
    (object : ObjectId) :
    (desk'.object object).isSome =
      openAfter object (desk.object object).isSome (calls.zip replies) := by
  induction calls generalizing desk replies with
  | nil =>
      cases answered
      rfl
  | cons call rest inductionHypothesis =>
      obtain ⟨first, called, later⟩ := Option.bind_eq_some_iff.mp answered
      obtain ⟨last, ran, same⟩ := Option.bind_eq_some_iff.mp later
      cases same
      rw [inductionHypothesis ran, (step_of_call called).isSome_object object]
      rfl

end Desk

/-- The boxes in use are those of the open objects, one each. -/
structure Accounted (world : World) (isOpen : ObjectId → Bool) :
    Prop where
  held : ∀ object, isOpen object = (world.handles object).isSome
  apart : ∀ object other place, world.handles object = some place →
    world.handles other = some place → object = other
  boxes : ∀ place, (world.memory.box place).isSome = true ↔
    ∃ object, world.handles object = some place

theorem Matches.accounted {world : World} {desk : Desk}
    (same : Matches world desk) :
    Accounted world fun object => (desk.object object).isSome where
  held object := (same.represents.isSome_handles object).symm
  apart _ _ _ held other := same.represents.apart held other
  boxes place := by
    constructor
    · intro used
      obtain ⟨cell, found⟩ := Option.isSome_iff_exists.mp used
      exact same.represents.covered found
    · intro held
      obtain ⟨object, held⟩ := held
      obtain ⟨cell, _, found⟩ := same.represents.opened held
      rw [found]
      rfl

/-- A program that ends has a desk that gave its replies. -/
theorem exists_desk {context : FfiEnvironment} {calls : List Call}
    {replies : List (Except PythonError Reply)} {world : World}
    (ran : World.run context .start calls = some (replies, world)) :
    ∃ desk,
      Desk.run context.links .start calls = some (replies, desk) ∧
        Matches world desk := by
  have both :
      Option.Rel
        (fun ended answered =>
          ended.1 = answered.1 ∧ Matches ended.2 answered.2)
        (World.run context .start calls)
        (Desk.run context.links .start calls) :=
    run_agrees matches_start calls
  rw [ran] at both
  cases answered : Desk.run context.links .start calls with
  | none =>
      rw [answered] at both
      cases both
  | some ended =>
      rw [answered] at both
      cases both with
      | some same =>
          rcases ended with ⟨replies', desk⟩
          obtain ⟨sameReplies, same⟩ := same
          obtain rfl : replies = replies' := sameReplies
          exact ⟨desk, rfl, same⟩

/-- After a program the boxes in use are those of the objects it opened and
has not closed since, one each. -/
theorem run_accounted {context : FfiEnvironment} {calls : List Call}
    {replies : List (Except PythonError Reply)} {world : World}
    (ran : World.run context .start calls = some (replies, world)) :
    Accounted world fun object =>
      openAfter object false (calls.zip replies) := by
  obtain ⟨desk, answered, same⟩ := exists_desk ran
  have accounted := same.accounted
  have history :
      (fun object => (desk.object object).isSome) =
        fun object => openAfter object false (calls.zip replies) := by
    funext object
    have isOpen := Desk.isSome_object_run answered object
    rw [isOpen]
    rcases object with ⟨kind, number⟩
    cases kind with
    | svm =>
        rfl
    | result =>
        rfl
  rwa [history] at accounted

def idleEnvironment : FfiEnvironment :=
  { links := idleRuntime
    allocator := .bump Cell }

/-- Two harnesses, a dispatch on the second, and the first closed. -/
def twoHarnesses : List Call :=
  [.newSvm, .newSvm,
    .dispatch 1
      { programId := .pubkey .default
        accounts := []
        data := []
        accounts_length := by decide },
    .close { kind := .svm, number := 0 }]

theorem run_accounted_twoHarnesses :
    ∃ replies world,
      World.run idleEnvironment .start twoHarnesses =
          some (replies, world) ∧
        Accounted world fun object =>
          openAfter object false (twoHarnesses.zip replies) := by
  obtain ⟨replies, world, ran⟩ :
      ∃ replies world,
        World.run idleEnvironment .start twoHarnesses =
          some (replies, world) :=
    ⟨_, _, rfl⟩
  exact ⟨replies, world, ran, run_accounted ran⟩

end PythonBinding

end Hopper
