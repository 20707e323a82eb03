import HopperSvm.Scripts

/-!
The overlay holds finitely many addresses, unknown ones with no lamports,
so its lamports have a sum.  Processing leaves the sum and simulating leaves
the overlay, and whatever a script adds or takes away is the work of its
fixtures.
-/

namespace Hopper

open HopperSvm Labelled Words

theorem Pubkey.injective_bytesAt :
    Function.Injective fun (address : Pubkey) (index : Fin 32) =>
      (address.bytes.getD index 0).toBitVec.toFin := by
  intro left right same
  rw [← Pubkey.bytes_inj]
  apply List.ext_getElem
  · rw [left.length_eq, right.length_eq]
  · intro index inLeft inRight
    have bound : index < 32 := left.length_eq ▸ inLeft
    have here := congrFun same ⟨index, bound⟩
    simp only [List.getD_eq_getElem?_getD,
      List.getElem?_eq_getElem inLeft, List.getElem?_eq_getElem inRight,
      Option.getD_some] at here
    have sameBits := BitVec.eq_of_toFin_eq here
    exact UInt8.eq_of_toBitVec_eq sameBits

instance : Finite Pubkey :=
  Finite.of_injective _ Pubkey.injective_bytesAt

noncomputable instance : Fintype Pubkey :=
  Fintype.ofFinite Pubkey

namespace AccountStore

/-- The lamports at an address. -/
def lamportsAt (store : AccountStore) (address : Pubkey) : ℕ :=
  (store.view address).lamports.toNat

/-- The lamports of the overlay. -/
noncomputable def wealth (store : AccountStore) : ℕ :=
  ∑ address, store.lamportsAt address

variable {store : AccountStore}

/-- One address changed. -/
theorem wealth_update {store' : AccountStore} {address : Pubkey}
    {lamports : ℕ}
    (changed :
      store'.lamportsAt =
        Function.update store.lamportsAt address lamports) :
    store'.wealth + store.lamportsAt address = store.wealth + lamports := by
  have member : address ∈ Finset.univ := Finset.mem_univ address
  have before :=
    Finset.sum_eq_add_sum_sdiff_singleton_of_mem member store.lamportsAt
  rw [wealth, wealth, changed, Finset.sum_update_of_mem member, before]
  omega

theorem lamportsAt_put (address : Pubkey) (account : KeyedAccount) :
    (store.put address account).lamportsAt =
      Function.update store.lamportsAt address account.lamports.toNat := by
  funext other
  rw [lamportsAt, view, get_put]
  by_cases same : address = other
  · rw [if_pos same, ← same, Function.update_self]
    rfl
  · rw [if_neg same, Function.update_of_ne (Ne.symm same)]
    rfl

theorem wealth_put (address : Pubkey) (account : KeyedAccount) :
    (store.put address account).wealth + store.lamportsAt address =
      store.wealth + account.lamports.toNat :=
  wealth_update (lamportsAt_put address account)

theorem wealth_remove (address : Pubkey) :
    (store.remove address).wealth + store.lamportsAt address =
      store.wealth := by
  have emptied :
      (store.remove address).lamportsAt =
        Function.update store.lamportsAt address 0 := by
    funext other
    rw [lamportsAt, view, get_remove]
    by_cases same : other = address
    · rw [if_pos same, same, Function.update_self]
      rfl
    · rw [if_neg same, Function.update_of_ne same]
      rfl
  exact wealth_update emptied

/-- A list with an account an address, filed over what was there. -/
theorem wealth_insertAll {accounts : List KeyedAccount}
    (distinct : (addresses accounts).Nodup) :
    (store.insertAll accounts).wealth +
        ((addresses accounts).map store.lamportsAt).sum =
      store.wealth + totalLamports accounts := by
  induction accounts generalizing store with
  | nil =>
      rfl
  | cons account rest inductionHypothesis =>
      have parts := List.nodup_cons.mp distinct
      have step :
          store.insertAll (account :: rest) =
            (store.insert account).insertAll rest :=
        rfl
      have later :
          ((store.insert account).insertAll rest).wealth +
              ((addresses rest).map
                (store.insert account).lamportsAt).sum =
            (store.insert account).wealth + totalLamports rest :=
        inductionHypothesis parts.2
      have others :
          (addresses rest).map (store.insert account).lamportsAt =
            (addresses rest).map store.lamportsAt := by
        apply List.map_congr_left
        intro address member
        have apart : address ≠ account.address :=
          fun same => parts.1 (same ▸ member)
        rw [insert, lamportsAt_put, Function.update_of_ne apart]
      have first :
          (store.insert account).wealth +
              store.lamportsAt account.address =
            store.wealth + account.lamports.toNat :=
        store.wealth_put account.address account
      have held :
          ((addresses (account :: rest)).map store.lamportsAt).sum =
            store.lamportsAt account.address +
              ((addresses rest).map store.lamportsAt).sum :=
        List.sum_cons
      have total :
          totalLamports (account :: rest) =
            account.lamports.toNat + totalLamports rest :=
        List.sum_cons
      rw [others] at later
      rw [step, held, total]
      omega

/-- The lamports of the last account at the address. -/
def lastLamports (accounts : List KeyedAccount) (address : Pubkey) : ℕ :=
  ((findAccount address accounts.reverse).map
    fun account => account.lamports.toNat).getD 0

theorem lamportsAt_insertAll (accounts : List KeyedAccount)
    (address : Pubkey) :
    (store.insertAll accounts).lamportsAt address =
      if address ∈ addresses accounts then
        lastLamports accounts address
      else
        store.lamportsAt address := by
  rw [lamportsAt, view, get_insertAll]
  by_cases listed : address ∈ addresses accounts
  · have behind : address ∈ accounts.reverse.map KeyedAccount.address := by
      rw [List.map_reverse, List.mem_reverse]
      exact listed
    obtain ⟨account, found⟩ :=
      KeyedList.exists_lookup_of_mem KeyedAccount.address behind
    have last : findAccount address accounts.reverse = some account := found
    rw [if_pos listed, lastLamports, last]
    rfl
  · have missing : findAccount address accounts.reverse = none := by
      refine (KeyedList.lookup_eq_none_iff KeyedAccount.address).mpr ?_
      rw [List.map_reverse, List.mem_reverse]
      exact listed
    rw [if_neg listed, missing]
    rfl

/-- Any list filed over what was there. -/
theorem wealth_commit (accounts : List KeyedAccount) :
    (store.insertAll accounts).wealth +
        ∑ address ∈ (addresses accounts).toFinset,
          store.lamportsAt address =
      store.wealth +
        ∑ address ∈ (addresses accounts).toFinset,
          lastLamports accounts address := by
  obtain ⟨written, listed⟩ :
      ∃ written : Finset Pubkey, (addresses accounts).toFinset = written :=
    ⟨_, rfl⟩
  have mem_iff (address : Pubkey) :
      address ∈ written ↔ address ∈ addresses accounts := by
    rw [← listed, List.mem_toFinset]
  have inside :
      ∑ address ∈ written, (store.insertAll accounts).lamportsAt address =
        ∑ address ∈ written, lastLamports accounts address :=
    Finset.sum_congr rfl fun address member => by
      rw [lamportsAt_insertAll, if_pos ((mem_iff address).mp member)]
  have outside :
      ∑ address ∈ writtenᶜ, (store.insertAll accounts).lamportsAt address =
        ∑ address ∈ writtenᶜ, store.lamportsAt address :=
    Finset.sum_congr rfl fun address member => by
      rw [Finset.mem_compl, mem_iff] at member
      rw [lamportsAt_insertAll, if_neg member]
  have before := Finset.sum_add_sum_compl written store.lamportsAt
  have after :=
    Finset.sum_add_sum_compl written (store.insertAll accounts).lamportsAt
  rw [inside, outside] at after
  rw [listed, wealth, wealth, ← before, ← after]
  omega

/-- The list read off some addresses has the lamports at them. -/
theorem totalLamports_map_view (listed : List Pubkey) :
    totalLamports (listed.map store.view) =
      (listed.map store.lamportsAt).sum := by
  rw [totalLamports, List.map_map]
  rfl

end AccountStore

/-! ## Scripts -/

namespace Script

/-- The lamports the event puts into the overlay. -/
noncomputable def Event.putIn (minimumBalance : Rent → ℕ → UInt64)
    (svm : HopperSvm) : Event → ℕ
  | .setAccount account => account.lamports.toNat
  | .restoreAccounts snapshot => snapshot.wealth
  | .airdrop address lamports =>
      min lamports.toNat (u64Max - svm.accountStore.lamportsAt address)
  | .createAccount _ space _ =>
      (minimumBalance svm.sysvars.rent space).toNat
  | .commit result =>
      ∑ address ∈ (addresses result.outcome.resultingAccounts).toFinset,
        AccountStore.lastLamports result.outcome.resultingAccounts address
  | _ => 0

/-- The lamports the event takes out of the overlay. -/
noncomputable def Event.takenOut (svm : HopperSvm) : Event → ℕ
  | .setAccount account => svm.accountStore.lamportsAt account.address
  | .removeAccount address _ => svm.accountStore.lamportsAt address
  | .clearAccounts => svm.accountStore.wealth
  | .restoreAccounts _ => svm.accountStore.wealth
  | .createAccount address _ _ => svm.accountStore.lamportsAt address
  | .commit result =>
      ∑ address ∈ (addresses result.outcome.resultingAccounts).toFinset,
        svm.accountStore.lamportsAt address
  | _ => 0

/-- No instruction that the event processes on the overlay repeats a
meta. -/
def Event.Unrepeated : Event → Prop
  | .process verb _ => ∀ ix ∈ verb.request.instructions, ix.Unrepeated
  | _ => True

variable {minimumBalance : Rent → ℕ → UInt64}
  {before after : HopperSvm} {event : Event}

/-- An account written with other data has the lamports it had. -/
theorem wealth_forced {address : Pubkey} {account replaced : KeyedAccount}
    (found : before.getAccount address = some account)
    (same : replaced.lamports = account.lamports) :
    (before.putAccount address replaced).accountStore.wealth =
      before.accountStore.wealth := by
  have found : before.accountStore.get address = some account := found
  have held :
      before.accountStore.lamportsAt address = account.lamports.toNat := by
    rw [AccountStore.lamportsAt, AccountStore.view, found]
    rfl
  have changed := before.accountStore.wealth_put address replaced
  rw [held, same] at changed
  exact Nat.add_right_cancel changed

/-- An airdrop adds what fits. -/
theorem wealth_airdrop (svm : HopperSvm) (address : Pubkey)
    (lamports : UInt64) :
    (svm.airdrop address lamports).accountStore.wealth =
      svm.accountStore.wealth +
        min lamports.toNat
          (u64Max - svm.accountStore.lamportsAt address) := by
  have fits : lamports.toNat ≤ u64Max := toNat_le_u64Max lamports
  unfold airdrop
  cases found : svm.accountStore.get address with
  | none =>
      have held : svm.accountStore.lamportsAt address = 0 := by
        rw [AccountStore.lamportsAt, AccountStore.view, found]
        rfl
      have changed :=
        svm.accountStore.wealth_put address
          { address
            lamports
            data := []
            owner := systemProgramId
            executable := false
            rentEpoch := 0 }
      dsimp only at changed
      rw [held] at changed ⊢
      rw [Nat.sub_zero, min_eq_left fits]
      exact changed
  | some existing =>
      have held :
          svm.accountStore.lamportsAt address =
            existing.lamports.toNat := by
        rw [AccountStore.lamportsAt, AccountStore.view, found]
        rfl
      have bound : existing.lamports.toNat ≤ u64Max :=
        toNat_le_u64Max existing.lamports
      have changed :=
        svm.accountStore.wealth_put address
          { existing with
            lamports := saturatingAdd existing.lamports lamports }
      dsimp only at changed
      rw [toNat_saturatingAdd, held] at changed
      rw [held]
      change (svm.accountStore.put _ _).wealth = _
      omega

/-- Processing moves lamports around and makes none. -/
theorem Verb.wealth_process {verb : Verb} {result : HopperExecutionResult}
    {list : List KeyedAccount}
    (processes : Verb.Processes before verb result after list)
    (unrepeated : ∀ ix ∈ verb.request.instructions, ix.Unrepeated) :
    after.accountStore.wealth = before.accountStore.wealth := by
  have listed := addresses_map_view processes.filed verb.listed
  have distinct := Verb.nodup_inputs processes.filed verb
  have same := processes.applies.addresses_eq.trans listed
  have total := processes.applies.total_eq distinct unrepeated
  rw [processes.left]
  change
    (if result.outcome.error = none then _ else _ : AccountStore).wealth = _
  by_cases success : result.outcome.error = none
  · have committed :
        (before.accountStore.insertAll list).wealth +
            ((addresses list).map before.accountStore.lamportsAt).sum =
          before.accountStore.wealth + totalLamports list :=
      AccountStore.wealth_insertAll (same ▸ verb.nodup_listed)
    rw [same, total, AccountStore.totalLamports_map_view] at committed
    rw [if_pos success]
    exact Nat.add_right_cancel committed
  · rw [if_neg success]

theorem Step.wealth_eq (guarded : before.Guarded)
    (filed : before.accountStore.Filed)
    (step : Step minimumBalance before event after)
    (unrepeated : event.Unrepeated) :
    after.accountStore.wealth + event.takenOut before =
      before.accountStore.wealth + event.putIn minimumBalance before := by
  cases event with
  | setAccount account =>
      subst step
      exact before.accountStore.wealth_put account.address account
  | getAccount address found =>
      rw [step.2]
      rfl
  | removeAccount address removed =>
      cases step
      exact before.accountStore.wealth_remove address
  | clearAccounts =>
      subst step
      have empty : AccountStore.empty.wealth = 0 :=
        Finset.sum_eq_zero fun _ _ => rfl
      simp only [Event.takenOut, Event.putIn, clearAccounts, empty]
      omega
  | restoreAccounts snapshot =>
      subst step
      exact Nat.add_comm _ _
  | airdrop address lamports =>
      subst step
      exact wealth_airdrop before address lamports
  | createAccount address space owner =>
      subst step
      exact before.accountStore.wealth_put address _
  | setTokenBalance address amount =>
      obtain ⟨account, found, _, rfl⟩ := forceWord_eq_some.mp step
      exact wealth_forced found rfl
  | setMintSupply address supply =>
      obtain ⟨account, found, _, rfl⟩ := forceWord_eq_some.mp step
      exact wealth_forced found rfl
  | commit result =>
      subst step
      exact AccountStore.wealth_commit result.outcome.resultingAccounts
  | process verb result =>
      obtain ⟨list, processes⟩ :=
        Verb.processes_of_process guarded filed step
      exact Verb.wealth_process processes unrepeated
  | simulate verb result =>
      rw [(simulate_svm step).1]
      rfl
  | request request accounts result =>
      rw [Verb.request_svm step]
      rfl
  | configure =>
      obtain ⟨_, _, _, _, same⟩ := step
      rw [same]
      rfl

/-- The lamports of the overlay at the end of a script, and what its
fixtures took out, are those at its start, and what they put in. -/
theorem overlay_audit {start finish : HopperSvm}
    {entries : List (Entry HopperSvm Event)}
    (run : Trace (Step minimumBalance) start entries finish)
    (guarded : start.Guarded) (filed : start.accountStore.Filed)
    (restores : ∀ entry ∈ entries, entry.event.RestoresFiled)
    (unrepeated : ∀ entry ∈ entries, entry.event.Unrepeated) :
    finish.accountStore.wealth +
        (entries.map fun entry =>
          entry.event.takenOut entry.before).sum =
      start.accountStore.wealth +
        (entries.map fun entry =>
          entry.event.putIn minimumBalance entry.before).sum := by
  induction run with
  | nil =>
      rfl
  | @cons before after final event rest first later
      inductionHypothesis =>
      have now :=
        first.wealth_eq guarded filed (unrepeated _ List.mem_cons_self)
      have filed' :=
        first.filed filed (restores _ List.mem_cons_self)
      have onwards :=
        inductionHypothesis (first.sameRules.guarded guarded) filed'
          (fun entry member =>
            restores entry (List.mem_cons_of_mem _ member))
          fun entry member =>
            unrepeated entry (List.mem_cons_of_mem _ member)
      simp only [List.map_cons, List.sum_cons]
      omega

theorem overlay_audit_transfer :
    ∃ dry result finish,
      result.outcome.error = none ∧
        finish.accountStore.wealth +
            ((transferScript dry result finish).map fun entry =>
              entry.event.takenOut entry.before).sum =
          (HopperSvm.new Creation.idleCrates).accountStore.wealth +
            ((transferScript dry result finish).map fun entry =>
              entry.event.putIn (fun _ _ => 0) entry.before).sum := by
  obtain ⟨dry, result, finish, success, run⟩ := transferScript_runs
  refine ⟨dry, result, finish, success, ?_⟩
  apply overlay_audit run (new_guarded _) AccountStore.filed_empty
    (transferScript_restoresFiled dry result finish)
  intro entry member
  rcases member with _ | ⟨_, _ | ⟨_, _ | ⟨_, _ | ⟨_, nothing⟩⟩⟩⟩
  · trivial
  · trivial
  · trivial
  · intro ix isOnly
    rw [List.mem_singleton.mp isOnly]
    unfold Instruction.Unrepeated
    decide
  · cases nothing

end Script

end Hopper
