import HopperSvm.Isolation
import HopperSvm.Scripts

namespace Hopper

open HopperSvm Labelled Words

namespace Script

/-- The event writes the address by a fixture, or processes an instruction
to the program on the overlay. -/
def Event.Disturbs (owner address : Pubkey) : Event → Prop
  | .setAccount account => account.address = address
  | .removeAccount other _ => other = address
  | .clearAccounts => True
  | .restoreAccounts _ => True
  | .createAccount other _ _ => other = address
  | .setTokenBalance other _ => other = address
  | .setMintSupply other _ => other = address
  | .commit result => address ∈ addresses result.outcome.resultingAccounts
  | .process verb _ =>
      ∃ ix ∈ verb.request.instructions, ix.programId = owner
  | _ => False

variable {minimumBalance : Rent → ℕ → UInt64}
  {before after : HopperSvm} {event : Event} {address : Pubkey}
  {p : KeyedAccount}

/-- The view of another address than the one that was written. -/
theorem view_put_of_ne (store : AccountStore) {other : Pubkey}
    {account : KeyedAccount} (apart : other ≠ address) :
    (store.put other account).view address = store.view address := by
  rw [AccountStore.view, AccountStore.get_put, if_neg apart]
  rfl

theorem view_forceWord {start : ℕ} {other : Pubkey} {word : UInt64}
    (ran : before.forceWord start other word = some after)
    (apart : other ≠ address) :
    after.accountStore.view address = before.accountStore.view address := by
  obtain ⟨account, found, _, rfl⟩ := forceWord_eq_some.mp ran
  exact view_put_of_ne _ apart

/-- An airdrop only adds lamports. -/
theorem isolated_airdrop (svm : HopperSvm) (other : Pubkey)
    (lamports : UInt64) :
    Isolated (svm.accountStore.view address)
      ((svm.airdrop other lamports).accountStore.view address) := by
  by_cases same : other = address
  · subst same
    unfold airdrop
    cases found : svm.accountStore.get other with
    | none =>
        have unknown :
            svm.accountStore.view other =
              AccountStore.unknownAccount other := by
          rw [AccountStore.view, found]
          rfl
        change Isolated _ ((svm.accountStore.put _ _).view other)
        rw [unknown, AccountStore.view, AccountStore.get_put, if_pos rfl]
        refine ⟨rfl, rfl, rfl, ?_⟩
        exact UInt64.le_iff_toNat_le.mpr (Nat.zero_le _)
    | some existing =>
        have held : svm.accountStore.view other = existing := by
          rw [AccountStore.view, found]
          rfl
        change Isolated _ ((svm.accountStore.put _ _).view other)
        rw [held, AccountStore.view, AccountStore.get_put, if_pos rfl]
        refine ⟨rfl, rfl, rfl, ?_⟩
        change existing.lamports ≤ saturatingAdd existing.lamports lamports
        have bound := toNat_le_u64Max existing.lamports
        rw [UInt64.le_iff_toNat_le, toNat_saturatingAdd]
        omega
  · have kept :
        (svm.airdrop other lamports).accountStore.view address =
          svm.accountStore.view address := by
      unfold airdrop
      split
      · exact view_put_of_ne _ same
      · exact view_put_of_ne _ same
    rw [kept]
    exact .refl _

/-- A verb whose instructions go to other programs. -/
theorem isolated_process {verb : Verb} {result : HopperExecutionResult}
    {list : List KeyedAccount}
    (processes : Verb.Processes before verb result after list)
    (inUse : ¬ Fresh p)
    (others : ∀ ix ∈ verb.request.instructions, ix.programId ≠ p.owner)
    (isolated : Isolated p (before.accountStore.view address)) :
    Isolated p (after.accountStore.view address) := by
  have listed := addresses_map_view processes.filed verb.listed
  have distinct := Verb.nodup_inputs processes.filed verb
  have same := processes.applies.addresses_eq.trans listed
  rw [processes.left]
  change
    Isolated p
      ((if result.outcome.error = none then _ else _ :
        AccountStore).view address)
  by_cases success : result.outcome.error = none
  · rw [if_pos success,
      AccountStore.view_insertAll _ (same ▸ verb.nodup_listed)]
    by_cases named : address ∈ verb.listed
    · have found :
          findAccount address
              (verb.listed.map before.accountStore.view) =
            some (before.accountStore.view address) :=
        ledgerOf_map_view processes.filed named
      obtain ⟨n, left, kept⟩ :=
        processes.applies.invariant (Session.Apart address p) distinct
          (fun ix member _ _ distinctBefore accepted apart =>
            apart.accepted accepted distinctBefore inUse
              (others ix member))
          ⟨_, found, isolated⟩
      rw [left]
      exact kept
    · have missing : findAccount address list = none := by
        refine (KeyedList.lookup_eq_none_iff KeyedAccount.address).mpr ?_
        change address ∉ addresses list
        rwa [same]
      rw [missing]
      exact isolated
  · rw [if_neg success]
    exact isolated

theorem Step.isolated (guarded : before.Guarded)
    (filed : before.accountStore.Filed)
    (step : Step minimumBalance before event after) (inUse : ¬ Fresh p)
    (undisturbed : ¬ event.Disturbs p.owner address)
    (isolated : Isolated p (before.accountStore.view address)) :
    Isolated p (after.accountStore.view address) := by
  cases event with
  | setAccount account =>
      subst step
      change Isolated p ((before.accountStore.insert account).view address)
      rw [AccountStore.insert, view_put_of_ne _ undisturbed]
      exact isolated
  | getAccount other found =>
      rw [step.2]
      exact isolated
  | removeAccount other removed =>
      cases step
      have apart : address ≠ other := Ne.symm undisturbed
      rw [AccountStore.view, AccountStore.get_remove, if_neg apart]
      exact isolated
  | clearAccounts =>
      exact absurd trivial undisturbed
  | restoreAccounts snapshot =>
      exact absurd trivial undisturbed
  | airdrop other lamports =>
      subst step
      exact isolated.trans (isolated_airdrop before other lamports)
  | createAccount other space owner =>
      subst step
      change Isolated p ((before.accountStore.put other _).view address)
      rw [view_put_of_ne _ undisturbed]
      exact isolated
  | setTokenBalance other amount =>
      rw [view_forceWord step undisturbed]
      exact isolated
  | setMintSupply other supply =>
      rw [view_forceWord step undisturbed]
      exact isolated
  | commit result =>
      subst step
      have missing :
          findAccount address result.outcome.resultingAccounts.reverse =
            none := by
        refine (KeyedList.lookup_eq_none_iff KeyedAccount.address).mpr ?_
        rw [List.map_reverse, List.mem_reverse]
        exact undisturbed
      change
        Isolated p
          ((before.accountStore.insertAll
            result.outcome.resultingAccounts).view address)
      rw [AccountStore.view, AccountStore.get_insertAll, missing]
      exact isolated
  | process verb result =>
      obtain ⟨list, processes⟩ :=
        Verb.processes_of_process guarded filed step
      refine isolated_process processes inUse ?_ isolated
      intro ix member same
      exact undisturbed ⟨ix, member, same⟩
  | simulate verb result =>
      rw [(simulate_svm step).1]
      exact isolated
  | request request accounts result =>
      rw [Verb.request_svm step]
      exact isolated
  | configure =>
      obtain ⟨_, _, _, _, same⟩ := step
      rw [same]
      exact isolated

theorem isolated_run {start finish : HopperSvm}
    {entries : List (Entry HopperSvm Event)}
    (run : Trace (Step minimumBalance) start entries finish)
    (guarded : start.Guarded) (filed : start.accountStore.Filed)
    (restores : ∀ entry ∈ entries, entry.event.RestoresFiled)
    (inUse : ¬ Fresh p)
    (undisturbed : ∀ entry ∈ entries,
      ¬ entry.event.Disturbs p.owner address)
    (isolated : Isolated p (start.accountStore.view address)) :
    Isolated p (finish.accountStore.view address) := by
  induction run with
  | nil =>
      exact isolated
  | cons first later inductionHypothesis =>
      have next :=
        first.isolated guarded filed inUse
          (undisturbed _ List.mem_cons_self) isolated
      have filed' := first.filed filed (restores _ List.mem_cons_self)
      refine
        inductionHypothesis (first.sameRules.guarded guarded) filed' ?_ ?_
          next
      · intro entry member
        exact restores entry (List.mem_cons_of_mem _ member)
      · intro entry member
        exact undisturbed entry (List.mem_cons_of_mem _ member)

/-- At the end of a script an account of the overlay that was in use has its
owner, its data and its executable flag, and no fewer lamports, unless some
event disturbed it. -/
theorem overlay_isolated {start finish : HopperSvm}
    {entries : List (Entry HopperSvm Event)}
    (run : Trace (Step minimumBalance) start entries finish)
    (guarded : start.Guarded) (filed : start.accountStore.Filed)
    (restores : ∀ entry ∈ entries, entry.event.RestoresFiled)
    (viewed : start.accountStore.view address = p) (inUse : ¬ Fresh p) :
    Isolated p (finish.accountStore.view address) ∨
      ∃ entry ∈ entries, entry.event.Disturbs p.owner address := by
  by_cases disturbed :
      ∃ entry ∈ entries, entry.event.Disturbs p.owner address
  · exact Or.inr disturbed
  · have each :
        ∀ entry ∈ entries, ¬ entry.event.Disturbs p.owner address :=
      fun entry member disturbs => disturbed ⟨entry, member, disturbs⟩
    exact
      Or.inl
        (isolated_run run guarded filed restores inUse each
          (viewed ▸ .refl _))

/-! A program's account beside the transfer. -/

def bystander : KeyedAccount :=
  .new (.filled 9) 3 (.filled 8) [1] false

theorem overlay_isolated_bystander :
    ∃ result finish,
      transferVerb.process (fixedSvm.setAccount bystander) =
          some (result, finish) ∧
        (Isolated bystander (finish.accountStore.view (.filled 9)) ∨
          ∃ entry ∈ [(⟨fixedSvm.setAccount bystander,
              .process transferVerb result, finish⟩ :
              Entry HopperSvm Event)],
            entry.event.Disturbs (.filled 8) (.filled 9)) := by
  obtain ⟨result, finish, processed⟩ :
      ∃ result finish,
        transferVerb.process (fixedSvm.setAccount bystander) =
          some (result, finish) :=
    ⟨_, _, rfl⟩
  have run :
      Trace (Step fun _ _ => 0) (fixedSvm.setAccount bystander)
        [⟨fixedSvm.setAccount bystander, .process transferVerb result,
          finish⟩]
        finish :=
    .cons processed .nil
  have guarded : (fixedSvm.setAccount bystander).Guarded :=
    fixedSvm_guarded.congr rfl rfl rfl rfl
  have filed : (fixedSvm.setAccount bystander).accountStore.Filed :=
    fixedSvm_filed.insert bystander
  refine
    ⟨result, finish, processed,
      overlay_isolated run guarded filed ?_ rfl (by decide)⟩
  intro entry member
  rw [List.mem_singleton.mp member]
  trivial

end Script

end Hopper
