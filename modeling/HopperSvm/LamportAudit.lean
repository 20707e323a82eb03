import HopperSvm.Session

/-!
No bundled program leaves its slots with more lamports than it got, and
strict validation lets no slots end with less.  So an accepted instruction
without repeated metas moves lamports and neither makes nor loses any, and a
transaction loses just its fee.  Over a run the lamports of the account list
and the fees taken from it add up to what it held at the start.
-/

namespace Hopper

open HopperSvm Labelled Procedure Routine Words

instance {α : Type} {condition : Prop} [Decidable condition]
    {first second : Routine α} [ReadOnly first] [ReadOnly second] :
    ReadOnly (if condition then first else second) := by
  split <;> infer_instance

namespace ConfigProgram

instance (data : List UInt8) (count index : Nat) :
    ReadOnly (requireKeys data count index) := by
  induction count generalizing index with
  | zero =>
      rw [requireKeys]
      infer_instance
  | succ count inductionHypothesis =>
      rw [requireKeys]
      dsimp only
      have next := inductionHypothesis (index + 1)
      infer_instance

instance (data : List UInt8) : KeepsBalances (invoke data) := by
  unfold invoke
  repeat refine .after fun _ => ?_
  infer_instance

end ConfigProgram

/-- No bundled program leaves its slots with more lamports. -/
theorem BundledAt.total_le {id : Pubkey} {program : BuiltinProgram}
    (bundled : BundledAt id program) {ix : Instruction} {sysvars : Sysvars}
    {budget : ComputeBudget} {logs : LogCapture} {cells : HarnessCells}
    {received : List KeyedAccount} {state : InvokeState}
    (invoked :
      BuiltinEngine.invoke program ix sysvars budget logs cells received =
        some (.ok (), state)) :
    totalLamports state.accounts ≤ totalLamports received := by
  cases bundled with
  | system crates =>
      exact (SystemProgram.invoke_settles invoked).total_le
  | computeBudget =>
      have ran := ComputeBudgetProgram.invoke_eq ix.data
        { programId := ix.programId, accountMetas := ix.accounts, sysvars }
        { accounts := received, logs, budget, cells }
      have ended := ran.symm.trans invoked
      split at ended
      · cases ended
        exact Nat.le_refl _
      · cases ended
  | alt createProgramAddress =>
      exact (AltProgram.invoke_settles invoked).total_le
  | config =>
      have yields :
          (ConfigProgram.invoke ix.data).Yields
            { programId := ix.programId, accountMetas := ix.accounts,
              sysvars }
            { accounts := received, logs, budget, cells } () state :=
        invoked
      exact (totalLamports_of_kept yields).le
  | stake minimumBalance =>
      exact (StakeProgram.invoke_settles invoked).total_le
  | vote minimumBalance =>
      exact (VoteProgram.invoke_settles invoked).total_le
  | splToken codec =>
      exact (SplToken.invoke_settles invoked).total_le
  | splToken2022 codec =>
      have delegated := Token2022.delegated_of_yields invoked
      exact (SplToken.invoke_settles delegated).total_le
  | splAta codec findProgramAddress =>
      exact (AtaProgram.invoke_settles invoked).total_le

/-- The instruction names no account twice. -/
def Instruction.Unrepeated (ix : Instruction) : Prop :=
  (ix.accounts.map AccountMeta.pubkey).Nodup

/-- The metas of the validator's first pass, when none is repeated. -/
theorem involved_of_unrepeated {metas : List AccountMeta}
    (unrepeated : (metas.map AccountMeta.pubkey).Nodup) :
    involved metas = metas :=
  KeyedList.firsts_eq_self AccountMeta.pubkey
    (fun _ _ => List.not_mem_nil) unrepeated

/-- The lamports a ledger holds at the addresses of some of its
accounts. -/
theorem sum_lamportsAt {ledger : Ledger} {slots : List KeyedAccount}
    (holds : ∀ slot ∈ slots, ledger slot.address = some slot) :
    ((addresses slots).map (lamportsAt ledger)).sum =
      totalLamports slots := by
  have each :
      (addresses slots).map (lamportsAt ledger) =
        slots.map fun slot => slot.lamports.toNat := by
    rw [addresses, List.map_map]
    refine List.map_congr_left fun slot member => ?_
    rw [Function.comp_apply, lamportsAt, holds slot member]
    rfl
  rw [each]
  rfl

/-- Merging distinct slots back changes the total by what they gained. -/
theorem totalLamports_mergeAccounts {accounts received working :
      List KeyedAccount} {ix : Instruction}
    (unrepeated : ix.Unrepeated)
    (resolved : resolveAccounts accounts ix.accounts = .ok received)
    (named : addresses working = ix.accounts.map AccountMeta.pubkey)
    (rewrites : Rewrites ix.accounts accounts
      (mergeAccounts accounts working)) :
    totalLamports (mergeAccounts accounts working) +
        totalLamports received =
      totalLamports accounts + totalLamports working := by
  have moved := rewrites.totalLamports_add
  rw [involvedSum, involvedSum, involved_of_unrepeated unrepeated,
    ← addresses_of_resolved resolved] at moved
  have before :
      ((addresses received).map (lamportsAt (ledgerOf accounts))).sum =
        totalLamports received :=
    sum_lamportsAt fun slot member =>
      findAccount_of_resolved resolved member
  have after :
      ∀ slot ∈ working,
        ledgerOf (mergeAccounts accounts working) slot.address =
          some slot := by
    intro slot member
    have distinct : ((working.reverse).map KeyedAccount.address).Nodup := by
      rw [List.map_reverse, List.nodup_reverse]
      change (addresses working).Nodup
      rwa [named]
    have found :=
      KeyedList.lookup_of_mem KeyedAccount.address distinct
        (List.mem_reverse.mpr member)
    rw [ledgerOf_mergeAccounts, writeBack]
    change (KeyedList.lookup KeyedAccount.address slot.address
      working.reverse).or _ = _
    rw [found]
    rfl
  have sameNames : addresses received = addresses working := by
    rw [named, addresses_of_resolved resolved]
  rw [before, sameNames, sum_lamportsAt after] at moved
  exact moved

/-- An accepted instruction without repeated metas moves lamports and
nothing else. -/
theorem Accepted.total_eq {registry : Registry} {ix : Instruction}
    {accounts after : List KeyedAccount}
    (accepted : Accepted registry ix accounts after)
    (distinct : (addresses accounts).Nodup)
    (unrepeated : ix.Unrepeated) :
    totalLamports after = totalLamports accounts := by
  obtain ⟨rewrites, accepts⟩ := accepted.permitted distinct
  have gained := totalLamports_of_accepts rewrites accepts
  cases accepted with
  | «by» found bundled strict succeeds =>
      have bounded := bundled.total_le succeeds.reached.invoked
      have merged :=
        totalLamports_mergeAccounts unrepeated succeeds.reached.resolved
          (succeeds.reached.addresses_slots bundled.keepsAddresses)
          rewrites
      omega

/-- Instructions that are accepted one behind the other keep the total. -/
theorem Applies.total_eq {registry : Registry} {ixs : List Instruction}
    {accounts after : List KeyedAccount}
    (applies : Applies registry ixs accounts after)
    (distinct : (addresses accounts).Nodup)
    (unrepeated : ∀ ix ∈ ixs, ix.Unrepeated) :
    totalLamports after = totalLamports accounts := by
  refine
    applies.invariant
      (fun left => totalLamports left = totalLamports accounts) distinct ?_
      rfl
  intro ix member before left distinctBefore accepted same
  rw [accepted.total_eq distinctBefore (unrepeated ix member), same]

/-- A covered fee leaves the list with as much less. -/
theorem totalLamports_debitPayer {feePayer : Pubkey} {fee : UInt64}
    {payer : KeyedAccount} {accounts : List KeyedAccount}
    (found : findAccount feePayer accounts = some payer)
    (covered : fee ≤ payer.lamports) :
    totalLamports (debitPayer feePayer fee accounts) + fee.toNat =
      totalLamports accounts := by
  induction accounts with
  | nil =>
      cases found
  | cons account rest inductionHypothesis =>
      rw [findAccount, KeyedList.lookup_cons] at found
      rw [debitPayer]
      by_cases here : account.address = feePayer
      · rw [if_pos here] at found ⊢
        cases found
        have taken := toNat_sub_of_not_lt (UInt64.not_lt.mpr covered)
        have enough := UInt64.le_iff_toNat_le.mp covered
        simp only [totalLamports, List.map_cons, List.sum_cons]
        omega
      · rw [if_neg here] at found ⊢
        have later := inductionHypothesis found
        simp only [totalLamports, List.map_cons, List.sum_cons] at later ⊢
        omega

theorem Request.Charged.total_add {request : Request} {fee : UInt64}
    {accounts charged : List KeyedAccount}
    (charges : request.Charged accounts fee charged) :
    totalLamports charged + fee.toNat = totalLamports accounts := by
  cases charges with
  | free =>
      rfl
  | fee found covered =>
      exact totalLamports_debitPayer found covered

namespace Session

namespace Event

/-- What the event takes from the list. -/
def fee : Event → ℕ
  | .process _ result => result.transactionFeePaid.toNat
  | .configure => 0

/-- No instruction of the event repeats a meta. -/
def Unrepeated : Event → Prop
  | .process request _ => ∀ ix ∈ request.instructions, ix.Unrepeated
  | .configure => True

end Event

theorem Moves.total_eq {registry : Registry} {event : Event}
    {accounts after : List KeyedAccount}
    (moves : Moves registry event accounts after)
    (distinct : (addresses accounts).Nodup)
    (unrepeated : event.Unrepeated) :
    totalLamports after + event.fee = totalLamports accounts := by
  cases moves with
  | @process request result accounts charged after charges applies =>
      have distinct' : (addresses charged).Nodup :=
        charges.addresses_eq ▸ distinct
      have kept := applies.total_eq distinct' unrepeated
      rw [kept]
      exact charges.total_add
  | configure =>
      rfl

/-- At the end of a session the list and the fees taken from it add up to
what the list held at the start. -/
theorem lamports_audit {start finish : Session}
    {entries : List (Entry Session Event)}
    (run : Trace Step start entries finish) (sound : start.Sound)
    (unrepeated : ∀ entry ∈ entries, entry.event.Unrepeated) :
    totalLamports finish.accounts +
        (entries.map fun entry => entry.event.fee).sum =
      totalLamports start.accounts := by
  induction run with
  | nil =>
      rfl
  | @cons before after final event rest first later
      inductionHypothesis =>
      obtain ⟨moves, _, sound'⟩ := first.moves sound
      have now :=
        moves.total_eq sound.distinct (unrepeated _ List.mem_cons_self)
      have onwards :=
        inductionHypothesis sound' fun entry member =>
          unrepeated entry (List.mem_cons_of_mem _ member)
      rw [List.map_cons, List.sum_cons]
      dsimp only
      omega

theorem lamports_audit_paying :
    ∃ result finish,
      Trace Step payingSession
          [⟨payingSession, .process payingRequest result, finish⟩]
          finish ∧
        result.outcome.error = none ∧
        totalLamports finish.accounts +
            (result.transactionFeePaid.toNat + 0) =
          totalLamports payingSession.accounts := by
  obtain ⟨result, finish, run, success⟩ :
      ∃ result finish,
        Trace Step payingSession
            [⟨payingSession, .process payingRequest result, finish⟩]
            finish ∧
          result.outcome.error = none :=
    ⟨_, ⟨_, _⟩, .cons ⟨rfl, rfl⟩ .nil, rfl⟩
  refine
    ⟨result, finish, run, success,
      lamports_audit run payingSession_sound ?_⟩
  intro entry member
  rw [List.mem_singleton] at member
  rw [member]
  intro ix isOnly
  rw [List.mem_singleton.mp isOnly]
  unfold Instruction.Unrepeated
  decide

end Session

end Hopper
