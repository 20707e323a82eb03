import HopperSvm.Engine

/-!
The structural rules checked after each successful instruction, in the order
the validator checks them: per meta the read-only rule, or the executable,
debit, owner and data rules; then lamport conservation, with the credit of
the accounts being created on the side of the pre-state.

`Permitted` says what the rules of one meta allow, and
`validatePostState_strict_iff` what a whole accepted pair of lists
satisfies.
-/

namespace Hopper

open Words

inductive ValidationPolicy where
  | strict
  | lax
  deriving DecidableEq

/-- `is_creation`, also called `was_empty_system_owned`. -/
def Fresh (account : KeyedAccount) : Prop :=
  account.lamports = 0 ∧ account.data = [] ∧
    account.owner = systemProgramId

instance (account : KeyedAccount) : Decidable (Fresh account) :=
  inferInstanceAs (Decidable (_ ∧ _ ∧ _))

/-- The rules for the account of one meta, first failure first. -/
def checkRules (programId : Pubkey) (accountMeta : AccountMeta)
    (p n : KeyedAccount) : Except HopperSvmError Unit :=
  let reject reason :=
    .error (.accountValidationFailed accountMeta.pubkey reason)
  if accountMeta.isWritable = false then
    if p.lamports ≠ n.lamports ∨ p.data ≠ n.data ∨ p.owner ≠ n.owner ∨
        p.executable ≠ n.executable then
      reject "read-only account modified"
    else
      .ok ()
  else if p.executable ≠ n.executable then
    reject
      s!"executable flag toggled ({p.executable} -> {n.executable})"
  else if n.lamports < p.lamports ∧ p.owner ≠ programId then
    reject
      s!"lamports debited by non-owner program (pre.owner={p.owner}, program_id={programId}, debit={p.lamports - n.lamports})"
  else if p.owner ≠ n.owner ∧
      ¬ (p.owner = programId ∨
        (Fresh p ∧ programId = systemProgramId)) then
    reject
      s!"owner reassigned by non-owner program (pre.owner={p.owner}, program_id={programId})"
  else if p.data ≠ n.data ∧ ¬ (p.owner = programId ∨ Fresh p) then
    reject
      s!"data mutated by non-owner program (pre.owner={p.owner}, program_id={programId})"
  else
    .ok ()

/-- The loop over the metas with its list of seen addresses and its two
saturating sums. -/
def checkMetas (programId : Pubkey) (pre post : List KeyedAccount) :
    List Pubkey → Nat → Nat → List AccountMeta →
      Except HopperSvmError (Nat × Nat)
  | _, sumPre, sumPost, [] => .ok (sumPre, sumPost)
  | seen, sumPre, sumPost, accountMeta :: metas =>
      if accountMeta.pubkey ∈ seen then
        checkMetas programId pre post seen sumPre sumPost metas
      else
        match findAccount accountMeta.pubkey pre,
          findAccount accountMeta.pubkey post with
        | some p, some n =>
            match checkRules programId accountMeta p n with
            | .error err => .error err
            | .ok () =>
                checkMetas programId pre post
                  (accountMeta.pubkey :: seen)
                  (saturatingAdd128 sumPre p.lamports.toNat)
                  (saturatingAdd128 sumPost n.lamports.toNat) metas
        | _, _ =>
            checkMetas programId pre post (accountMeta.pubkey :: seen)
              sumPre sumPost metas

/-- A fresh account that gained an owner or data is being created. -/
def Created (p n : KeyedAccount) : Prop :=
  Fresh p ∧ (p.owner ≠ n.owner ∨ (p.data = [] ∧ n.data ≠ []))

instance (p n : KeyedAccount) : Decidable (Created p n) :=
  inferInstanceAs (Decidable (_ ∧ (_ ∨ (_ ∧ _))))

/-- The lamports a created account is exempted with. -/
def creditOf (p n : KeyedAccount) : Nat :=
  if Created p n then n.lamports.toNat else 0

/-- The credit of all creations, over the two lists slot by slot. -/
def creationCredit (pre post : List KeyedAccount) : Nat :=
  ((pre.zip post).map fun pair => creditOf pair.1 pair.2).sum

/-- `sum_post as i128 - adjusted_pre as i128`. -/
def conservationDelta (adjustedPre sumPost : Nat) : Int :=
  Int.bmod (sumPost - adjustedPre) (2 ^ 128)

def validatePostState (programId : Pubkey) (metas : List AccountMeta)
    (pre post : List KeyedAccount) (policy : ValidationPolicy) :
    Except HopperSvmError Unit :=
  match policy with
  | .lax => .ok ()
  | .strict =>
      match checkMetas programId pre post [] 0 0 metas with
      | .error err => .error err
      | .ok (sumPre, sumPost) =>
          let credit := creationCredit pre post
          let adjustedPre := saturatingAdd128 sumPre credit
          if adjustedPre ≠ sumPost then
            .error
              (.accountValidationFailed .default
                s!"lamport conservation broken (pre={sumPre}+{credit}, post={sumPost}, delta={conservationDelta adjustedPre sumPost})")
          else
            .ok ()

structure Permitted (programId : Pubkey) (isWritable : Bool)
    (p n : KeyedAccount) : Prop where
  executable : n.executable = p.executable
  readOnly : isWritable = false →
    n.lamports = p.lamports ∧ n.data = p.data ∧ n.owner = p.owner
  debit : n.lamports < p.lamports → p.owner = programId
  reassign : n.owner ≠ p.owner →
    p.owner = programId ∨ (Fresh p ∧ programId = systemProgramId)
  write : n.data ≠ p.data → p.owner = programId ∨ Fresh p

theorem Permitted.of_unchanged {programId : Pubkey} {isWritable : Bool}
    (account : KeyedAccount) :
    Permitted programId isWritable account account :=
  { executable := rfl
    readOnly := fun _ => ⟨rfl, rfl, rfl⟩
    debit := fun below => absurd below (UInt64.lt_irrefl _)
    reassign := fun different => absurd rfl different
    write := fun different => absurd rfl different }

theorem checkRules_eq_ok {programId : Pubkey} {accountMeta : AccountMeta}
    {p n : KeyedAccount} :
    checkRules programId accountMeta p n = .ok () ↔
      Permitted programId accountMeta.isWritable p n := by
  cases writable : accountMeta.isWritable with
  | false =>
      simp only [checkRules, writable, if_true]
      constructor
      · intro accepted
        split at accepted
        · cases accepted
        · rename_i unchanged
          simp only [not_or, ne_eq, not_not] at unchanged
          rcases unchanged with ⟨lamports, data, owner, executable⟩
          exact
            { executable := executable.symm
              readOnly := fun _ => ⟨lamports.symm, data.symm, owner.symm⟩
              debit := fun below =>
                absurd (lamports ▸ below) (UInt64.lt_irrefl _)
              reassign := fun different => absurd owner.symm different
              write := fun different => absurd data.symm different }
      · intro permitted
        obtain ⟨lamports, data, owner⟩ := permitted.readOnly rfl
        rw [if_neg]
        simp [lamports, data, owner, permitted.executable]
  | true =>
      simp only [checkRules, writable, Bool.true_eq_false, if_false]
      constructor
      · intro accepted
        split at accepted
        · cases accepted
        rename_i executable
        split at accepted
        · cases accepted
        rename_i debit
        split at accepted
        · cases accepted
        rename_i reassign
        split at accepted
        · cases accepted
        rename_i write
        simp only [ne_eq, not_and, not_not] at executable debit
        simp only [ne_eq, not_and, not_not] at reassign write
        exact
          { executable := executable.symm
            readOnly := fun readOnly => nomatch readOnly
            debit := debit
            reassign := fun different => reassign (Ne.symm different)
            write := fun different => write (Ne.symm different) }
      · intro permitted
        rw [if_neg (by simp [permitted.executable]),
          if_neg (fun bad => bad.2 (permitted.debit bad.1)),
          if_neg (fun bad => bad.2 (permitted.reassign (Ne.symm bad.1))),
          if_neg (fun bad => bad.2 (permitted.write (Ne.symm bad.1)))]

/-- The metas the loop does not skip as duplicates. -/
def involved (metas : List AccountMeta) : List AccountMeta :=
  KeyedList.firsts AccountMeta.pubkey [] metas

/-- The account of a meta before and after, when it is in both lists. -/
def pairAt (pre post : List KeyedAccount) (accountMeta : AccountMeta) :
    Option (KeyedAccount × KeyedAccount) :=
  match findAccount accountMeta.pubkey pre,
    findAccount accountMeta.pubkey post with
  | some p, some n => some (p, n)
  | _, _ => none

/-- The pairs the loop adds up. -/
def involvedPairs (seen : List Pubkey) (metas : List AccountMeta)
    (pre post : List KeyedAccount) : List (KeyedAccount × KeyedAccount) :=
  (KeyedList.firsts AccountMeta.pubkey seen metas).filterMap
    (pairAt pre post)

/-- The loop accepts when every pair it reaches is permitted, and returns
the two capped sums over the pairs. -/
theorem checkMetas_eq_ok {programId : Pubkey}
    {pre post : List KeyedAccount} {metas : List AccountMeta}
    {seen : List Pubkey} {before after : Nat} {sums : Nat × Nat} :
    checkMetas programId pre post seen (min before u128Max)
        (min after u128Max) metas = .ok sums ↔
      (∀ accountMeta ∈ KeyedList.firsts AccountMeta.pubkey seen metas,
        ∀ pair, pairAt pre post accountMeta = some pair →
          Permitted programId accountMeta.isWritable pair.1 pair.2) ∧
      sums =
        (min (before + ((involvedPairs seen metas pre post).map
            fun pair => pair.1.lamports.toNat).sum) u128Max,
          min (after + ((involvedPairs seen metas pre post).map
            fun pair => pair.2.lamports.toNat).sum) u128Max) := by
  induction metas generalizing seen before after with
  | nil =>
      simp [checkMetas, involvedPairs, KeyedList.firsts, eq_comm]
  | cons accountMeta metas inductionHypothesis =>
      rw [checkMetas, involvedPairs, KeyedList.firsts]
      by_cases old : accountMeta.pubkey ∈ seen
      · rw [if_pos old, if_pos old, inductionHypothesis]
        rfl
      · rw [if_neg old, if_neg old, List.filterMap_cons,
          List.forall_mem_cons]
        cases pairFound : pairAt pre post accountMeta with
        | none =>
            unfold pairAt at pairFound
            split at pairFound
            · cases pairFound
            · rw [inductionHypothesis]
              simp [involvedPairs]
        | some pair =>
            unfold pairAt at pairFound
            split at pairFound
            · rename_i p n preFound postFound
              cases pairFound
              cases checked : checkRules programId accountMeta p n with
              | error err =>
                  have forbidden :
                      ¬ Permitted programId accountMeta.isWritable p n := by
                    rw [← checkRules_eq_ok, checked]
                    simp
                  simp [forbidden]
              | ok value =>
                  have permitted :
                      Permitted programId accountMeta.isWritable p n :=
                    checkRules_eq_ok.mp checked
                  simp only [saturatingAdd128_min, inductionHypothesis,
                    involvedPairs, List.map_cons, List.sum_cons,
                    Nat.add_assoc, Option.some.injEq, forall_eq',
                    permitted, true_and]
            · cases pairFound

/-- Under Strict a pair of lists is accepted exactly when every involved
pair is permitted and lamports, counting creations as funded from outside,
balance. -/
theorem validatePostState_strict_iff {programId : Pubkey}
    {metas : List AccountMeta} (fits : metas.length < 2 ^ 64)
    {pre post : List KeyedAccount} :
    validatePostState programId metas pre post .strict = .ok () ↔
      (∀ accountMeta ∈ involved metas,
        ∀ pair, pairAt pre post accountMeta = some pair →
          Permitted programId accountMeta.isWritable pair.1 pair.2) ∧
      ((involvedPairs [] metas pre post).map
            fun pair => pair.1.lamports.toNat).sum +
          creationCredit pre post =
        ((involvedPairs [] metas pre post).map
            fun pair => pair.2.lamports.toNat).sum := by
  have short : (involvedPairs [] metas pre post).length < 2 ^ 64 :=
    (List.length_filterMap_le _ _).trans_lt
      ((KeyedList.length_firsts_le AccountMeta.pubkey [] metas).trans_lt
        fits)
  have preFits :=
    sum_lt_u128Max (fun pair => pair.1.lamports) short
  have postFits :=
    sum_lt_u128Max (fun pair => pair.2.lamports) short
  have looped (sums : Nat × Nat) :
      checkMetas programId pre post [] (min 0 u128Max) (min 0 u128Max)
          metas = .ok sums ↔ _ :=
    checkMetas_eq_ok
  simp only [Nat.zero_min, Nat.zero_add, Nat.min_eq_left preFits.le,
    Nat.min_eq_left postFits.le] at looped
  simp only [validatePostState]
  cases ran : checkMetas programId pre post [] 0 0 metas with
  | error err =>
      rw [ran] at looped
      simp only [reduceCtorEq, false_iff] at looped ⊢
      intro accepted
      exact looped _ ⟨accepted.1, rfl⟩
  | ok sums =>
      obtain ⟨rules, rfl⟩ := (looped sums).mp ran
      have capped (left right : Nat) :
          saturatingAdd128 left right = min (left + right) u128Max := rfl
      dsimp only
      rw [ite_eq_right_iff, capped]
      simp only [reduceCtorEq, imp_false, ne_eq, not_not]
      constructor
      · intro balanced
        exact ⟨rules, by omega⟩
      · intro accepted
        have balanced := accepted.2
        omega

end Hopper
