import HopperSvm.LamportAudit
import HopperSvm.PythonCache

/-!
Setting an account is the only way lamports come into a harness: a dispatch
that names no account twice moves them from one cached account to another.
So the cache never holds more than what was set, and it holds just that as
long as no cached account is set again.
-/

namespace Hopper

open Boxes

/-- Setting an account adds its lamports, in place of those of the account
it replaces. -/
theorem FfiHarness.totalLamports_setAccount (harness : FfiHarness)
    (account : KeyedAccount) :
    totalLamports (harness.setAccount account).accounts +
        ((findAccount account.address harness.accounts).map
          fun replaced => replaced.lamports.toNat).getD 0 =
      totalLamports harness.accounts + account.lamports.toNat :=
  KeyedList.sum_upsert KeyedAccount.address
    (fun held => held.lamports.toNat) account harness.accounts

theorem FfiHarness.totalLamports_setAccount_of_new {harness : FfiHarness}
    {account : KeyedAccount}
    (new : account.address ∉ addresses harness.accounts) :
    totalLamports (harness.setAccount account).accounts =
      totalLamports harness.accounts + account.lamports.toNat := by
  have added := harness.totalLamports_setAccount account
  have absent : findAccount account.address harness.accounts = none :=
    (KeyedList.lookup_eq_none_iff KeyedAccount.address).mpr new
  rw [absent] at added
  exact added

/-- A dispatch that names no account twice keeps the total. -/
theorem FfiHarness.totalLamports_dispatch {harness : FfiHarness}
    {ix : Instruction} {run : HopperExecutionResult × FfiHarness}
    (guarded : harness.svm.Guarded)
    (distinct : (addresses harness.accounts).Nodup)
    (unrepeated : ix.Unrepeated) (ran : harness.dispatch ix = some run) :
    totalLamports run.2.accounts = totalLamports harness.accounts := by
  obtain ⟨processed, processes, rfl⟩ := Option.map_eq_some_iff.mp ran
  obtain ⟨dispatch, dispatched, rfl⟩ :=
    Option.map_eq_some_iff.mp processes
  refine (guarded.applies_dispatch dispatched).total_eq distinct ?_
  intro ix' member
  rw [List.mem_singleton.mp member]
  exact unrepeated

namespace PythonBinding

/-- The lamports a call sets in a harness. -/
def sets (svm : ℕ) : Call → Except PythonError Reply → ℕ
  | .setAccount other _ lamports _ _ _, .ok _ =>
      if other = svm then lamports.toNat else 0
  | _, _ => 0

/-- The lamports set after a call: none in a new harness. -/
def setAfterCall (svm : ℕ) (total : ℕ) (call : Call)
    (reply : Except PythonError Reply) : ℕ :=
  if opened reply = some { kind := .svm, number := svm } then 0
  else total + sets svm call reply

/-- The lamports set after the calls. -/
def setAfter (svm : ℕ) :
    ℕ → List (Call × Except PythonError Reply) → ℕ
  | total, [] => total
  | total, (call, reply) :: rest =>
      setAfter svm (setAfterCall svm total call reply) rest

/-- No call sets an account that is cached. -/
def SetsOnce (svm : ℕ) :
    List Pubkey → List (Call × Except PythonError Reply) → Prop
  | _, [] => True
  | cached, (call, reply) :: rest =>
      (∀ address ∈ caches svm call reply, address ∉ cached) ∧
        SetsOnce svm (cachedAfterCall svm cached call reply) rest

/-- A dispatch on the harness names no account twice. -/
def Call.Unrepeated (svm : ℕ) : Call → Prop
  | .dispatch other listed =>
      other = svm → ∀ ix, listed.read = .ok ix → ix.Unrepeated
  | _ => True

theorem toNat_of_toUint64 {number : ℤ} {word : UInt64}
    (converts : toUint64 number = .ok word) :
    word.toNat = number.toNat := by
  rw [toUint64] at converts
  by_cases fits : 0 ≤ number ∧ number < 2 ^ 64
  · rw [if_pos fits] at converts
    cases converts
    refine UInt64.toNat_ofNat_of_lt ?_
    have small := Int.toNat_lt fits.1 |>.mpr fits.2
    exact small
  · rw [if_neg fits] at converts
    cases converts

/-- A harness whose cache holds no more than what was set, and just that if
no cached account was set again. -/
structure Audited (held : Option FfiHarness) (cached : List Pubkey)
    (total : ℕ) (once : Prop) : Prop extends Caches held cached where
  distinct : cached.Nodup
  bounded : ∀ harness, held = some harness →
    totalLamports harness.accounts ≤ total
  settled : once → ∀ harness, held = some harness →
    totalLamports harness.accounts = total

theorem Audited.intro {harness : FfiHarness} {cached : List Pubkey}
    {total : ℕ} {once : Prop} (caches : Caches (some harness) cached)
    (distinct : cached.Nodup)
    (bounded : totalLamports harness.accounts ≤ total)
    (settled : once → totalLamports harness.accounts = total) :
    Audited (some harness) cached total once where
  toCaches := caches
  distinct := distinct
  bounded _ same := Option.some.inj same ▸ bounded
  settled held _ same := Option.some.inj same ▸ settled held

theorem Audited.none {cached : List Pubkey} (distinct : cached.Nodup)
    (total : ℕ) (once : Prop) : Audited none cached total once where
  toCaches := Caches.none cached
  distinct := distinct
  bounded := by
    intro harness same
    cases same
  settled := by
    intro kept harness same
    cases same

/-- A call that sets nothing in the harness adds no lamports. -/
theorem setAfterCall_of_not_set {svm total : ℕ} {call : Call}
    {reply : Except PythonError Reply}
    (notOpened : opened reply ≠ some { kind := .svm, number := svm })
    (notSet : ∀ address lamports owner data executable,
      call = .setAccount svm address lamports owner data executable →
        ∃ err, reply = .error err) :
    setAfterCall svm total call reply = total := by
  have silent : sets svm call reply = 0 := by
    unfold sets
    split
    · rename_i other address lamports owner data executable answer
      by_cases same : other = svm
      · subst same
        obtain ⟨err, failed⟩ := notSet _ _ _ _ _ rfl
        cases failed
      · exact if_neg same
    · rfl
  rw [setAfterCall, if_neg notOpened, silent, Nat.add_zero]

theorem Touches.audited {svm : ℕ} {call : Call}
    {reply : Except PythonError Reply} {held held' : Option FfiHarness}
    {cached : List Pubkey} {total : ℕ} {once : Prop}
    (touches : Touches svm call reply held held')
    (unrepeated : call.Unrepeated svm)
    (audited : Audited held cached total once) :
    Audited held' (cachedAfterCall svm cached call reply)
      (setAfterCall svm total call reply)
      (once ∧ ∀ address ∈ PythonBinding.caches svm call reply,
        address ∉ cached) := by
  have caches := touches.caches audited.toCaches
  have distinct : (cachedAfterCall svm cached call reply).Nodup :=
    nodup_cachedAfterCall audited.distinct call reply
  cases touches with
  | untouched notOpened notSet =>
      rw [setAfterCall_of_not_set notOpened notSet]
      exact
        { toCaches := caches
          distinct := distinct
          bounded := audited.bounded
          settled := fun kept => audited.settled kept.1 }
  | opened opens guarded empty =>
      have nothing : setAfterCall svm total call reply = 0 := if_pos opens
      refine .intro caches distinct ?_ fun _ => ?_
      · rw [empty, nothing]
        exact Nat.le_refl 0
      · rw [empty, nothing]
        rfl
  | @budget units harness limit =>
      have same : setAfterCall svm total (.setComputeBudget svm units)
          (.ok .done) = total := rfl
      rw [same]
      exact
        .intro caches distinct (audited.bounded harness rfl)
          fun kept => audited.settled kept.1 harness rfl
  | @set address owner lamports data executable harness account named
      priced =>
      have added := harness.totalLamports_setAccount account
      have bounded := audited.bounded harness rfl
      have set :
          setAfterCall svm total
              (.setAccount svm address lamports owner data executable)
              (.ok .done) =
            total + account.lamports.toNat := by
        rw [toNat_of_toUint64 priced]
        simp [setAfterCall, PythonBinding.opened, sets]
      rw [set]
      refine .intro caches distinct (by omega) ?_
      intro kept
      have new : account.address ∉ addresses harness.accounts := by
        rw [audited.exactly harness rfl]
        refine kept.2 account.address ?_
        simp [PythonBinding.caches, named, Except.toOption]
      rw [FfiHarness.totalLamports_setAccount_of_new new,
        audited.settled kept.1 harness rfl]
  | @dispatched listed ix reply harness run notOpened read ran =>
      have distinct' : (addresses harness.accounts).Nodup := by
        rw [audited.exactly harness rfl]
        exact audited.distinct
      have moved :=
        FfiHarness.totalLamports_dispatch (audited.guarded harness rfl)
          distinct' (unrepeated rfl ix read) ran
      have silent :
          setAfterCall svm total (.dispatch svm listed) reply = total := by
        refine setAfterCall_of_not_set notOpened ?_
        intro address lamports owner data executable sets
        cases sets
      rw [silent]
      refine .intro caches distinct ?_ ?_
      · rw [moved]
        exact audited.bounded harness rfl
      · intro kept
        rw [moved]
        exact audited.settled kept.1 harness rfl
  | closed =>
      exact .none distinct _ _

theorem audited_run {links : RuntimeLinks} {desk desk' : Desk} {svm : ℕ}
    {calls : List Call} {replies : List (Except PythonError Reply)}
    {cached : List Pubkey} {total : ℕ} {once : Prop}
    (answered : Desk.run links desk calls = some (replies, desk'))
    (unrepeated : ∀ call ∈ calls, call.Unrepeated svm)
    (audited : Audited (desk.svms svm) cached total once) :
    Audited (desk'.svms svm) (cachedAfter svm cached (calls.zip replies))
      (setAfter svm total (calls.zip replies))
      (once ∧ SetsOnce svm cached (calls.zip replies)) := by
  induction calls generalizing desk replies cached total once with
  | nil =>
      cases answered
      exact
        { audited with
          settled := fun kept => audited.settled kept.1 }
  | cons call rest inductionHypothesis =>
      obtain ⟨first, called, later⟩ := Option.bind_eq_some_iff.mp answered
      obtain ⟨last, ran, same⟩ := Option.bind_eq_some_iff.mp later
      cases same
      have step := (Desk.step_of_call called).touches svm
      have next :=
        step.audited (unrepeated call List.mem_cons_self) audited
      have onwards :=
        inductionHypothesis ran
          (fun other member =>
            unrepeated other (List.mem_cons_of_mem _ member))
          next
      exact
        { onwards with
          settled := fun kept =>
            onwards.settled ⟨⟨kept.1, kept.2.1⟩, kept.2.2⟩ }

/-- After a program the cache of an open harness holds no more lamports than
were set in it since it was made, and just as many if no cached account was
set again; a dispatch that names no account twice moves them only. -/
theorem run_audited {context : FfiEnvironment} {calls : List Call}
    {replies : List (Except PythonError Reply)} {world : World}
    (ran : World.run context .start calls = some (replies, world))
    {svm place : ℕ} {harness : FfiHarness}
    (held : world.handles { kind := .svm, number := svm } = some place)
    (found : world.memory.box place = some (.harness harness))
    (unrepeated : ∀ call ∈ calls, call.Unrepeated svm) :
    totalLamports harness.accounts ≤ setAfter svm 0 (calls.zip replies) ∧
      (SetsOnce svm [] (calls.zip replies) →
        totalLamports harness.accounts =
          setAfter svm 0 (calls.zip replies)) ∧
      ∀ ix run, ix.Unrepeated → harness.dispatch ix = some run →
        totalLamports run.2.accounts = totalLamports harness.accounts := by
  obtain ⟨desk, answered, holds⟩ := held_of_run ran held found
  have nothing : Audited (Desk.start.svms svm) [] 0 True :=
    .none List.nodup_nil 0 True
  have audited := audited_run answered unrepeated nothing
  have distinct : (addresses harness.accounts).Nodup := by
    rw [audited.exactly harness holds]
    exact audited.distinct
  refine
    ⟨audited.bounded harness holds,
      fun once => audited.settled ⟨trivial, once⟩ harness holds, ?_⟩
  intro ix run named ran
  exact
    FfiHarness.totalLamports_dispatch (audited.guarded harness holds)
      distinct named ran

theorem run_audited_payingCalls :
    ∃ replies world place harness,
      World.run idleEnvironment .start payingCalls =
          some (replies, world) ∧
        world.handles { kind := .svm, number := 0 } = some place ∧
        world.memory.box place = some (.harness harness) ∧
        totalLamports harness.accounts = 5 := by
  obtain ⟨replies, world, place, harness, ran, held, found, sum, once⟩ :
      ∃ replies world place harness,
        World.run idleEnvironment .start payingCalls =
            some (replies, world) ∧
          world.handles { kind := .svm, number := 0 } = some place ∧
          world.memory.box place = some (.harness harness) ∧
          setAfter 0 0 (payingCalls.zip replies) = 5 ∧
          SetsOnce 0 [] (payingCalls.zip replies) := by
    refine ⟨_, _, _, _, rfl, rfl, rfl, rfl, ?_⟩
    have apart :
        Simulator.receiverAddress ∉ [Simulator.senderAddress] := by
      decide
    refine ⟨?_, ?_, ?_, ?_, trivial⟩
    · intro address sets
      cases sets
    · intro address sets
      exact List.not_mem_nil
    · intro address sets
      cases sets
      exact apart
    · intro address sets
      cases sets
  refine ⟨replies, world, place, harness, ran, held, found, ?_⟩
  rw [← sum]
  refine (run_audited ran held found ?_).2.1 once
  simp only [payingCalls, List.forall_mem_cons]
  refine ⟨trivial, trivial, trivial, ?_, ?_⟩
  · intro here ix read
    cases read
    unfold Instruction.Unrepeated
    decide
  · intro call member
    cases member

end PythonBinding

end Hopper
