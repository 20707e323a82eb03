import HopperSvm.Library.Bytes
import HopperSvm.Library.Rearrangement
import HopperSvm.Validation

/-!
The rules and the two sums read both lists by address, so no rearrangement
of the lists changes them: a new account that is the same in both is
permitted, and adds the same lamports to both sums.  The credit of the
accounts being created is added up slot by slot instead.  Which accounts
meet in a slot is a matter of order, and new accounts can be put so that the
credit is any amount.
-/

namespace Hopper

open KeyedList Words

/-- The address that holds a number. -/
def Pubkey.numbered (number : ℕ) : Pubkey :=
  ⟨Bytes.leBytes 32 number, Bytes.length_leBytes 32 number⟩

theorem Pubkey.numbered_injOn :
    Set.InjOn Pubkey.numbered (Set.Iio (256 ^ 32)) := by
  intro left leftFits right rightFits same
  have bytes : Bytes.leBytes 32 left = Bytes.leBytes 32 right :=
    congrArg Pubkey.bytes same
  rw [← Bytes.leNat_leBytes leftFits, bytes,
    Bytes.leNat_leBytes rightFits]

/-- An account no program has touched yet. -/
def untouchedAccount (address : Pubkey) : KeyedAccount :=
  .new address 0 systemProgramId [] false

/-- An account that counts as created where it meets a fresh one. -/
def fundedAccount (address : Pubkey) (lamports : UInt64) : KeyedAccount :=
  .new address lamports (.filled 1) [] false

/-- An account that gives no credit, whatever it meets. -/
def idleAccount (address : Pubkey) : KeyedAccount :=
  fundedAccount address 0

theorem foreign_ne_system : Pubkey.filled 1 ≠ systemProgramId := by decide

theorem creditOf_fresh_funded (address funded : Pubkey)
    (lamports : UInt64) :
    creditOf (untouchedAccount address) (fundedAccount funded lamports) =
      lamports.toNat := by
  have created :
      Created (untouchedAccount address) (fundedAccount funded lamports) :=
    ⟨⟨rfl, rfl, rfl⟩, .inl foreign_ne_system.symm⟩
  exact if_pos created

theorem creditOf_funded_left (address : Pubkey) (lamports : UInt64)
    (n : KeyedAccount) :
    creditOf (fundedAccount address lamports) n = 0 :=
  if_neg fun created => foreign_ne_system created.1.2.2

theorem creditOf_idle (p : KeyedAccount) (address : Pubkey) :
    creditOf p (idleAccount address) = 0 := by
  simp only [creditOf]
  split <;> rfl

theorem creationCredit_cons (p n : KeyedAccount)
    (pre post : List KeyedAccount) :
    creationCredit (p :: pre) (n :: post) =
      creditOf p n + creationCredit pre post := by
  rw [creationCredit, List.zip_cons_cons, List.map_cons, List.sum_cons,
    creationCredit]

theorem creationCredit_append {pre post back back' : List KeyedAccount}
    (aligned : pre.length = post.length) :
    creationCredit (pre ++ back) (post ++ back') =
      creationCredit pre post + creationCredit back back' := by
  rw [creationCredit, List.zip_append aligned, List.map_append,
    List.sum_append, creationCredit, creationCredit]

theorem creationCredit_idle (pre : List KeyedAccount)
    (addresses : List Pubkey) :
    creationCredit pre (addresses.map idleAccount) = 0 := by
  induction pre generalizing addresses with
  | nil =>
      rfl
  | cons p pre inductionHypothesis =>
      cases addresses with
      | nil =>
          rfl
      | cons address addresses =>
          rw [List.map_cons, creationCredit_cons, creditOf_idle,
            inductionHypothesis]

theorem creationCredit_idle_left (addresses : List Pubkey)
    (post : List KeyedAccount) :
    creationCredit (addresses.map idleAccount) post = 0 := by
  induction addresses generalizing post with
  | nil =>
      rfl
  | cons address addresses inductionHypothesis =>
      cases post with
      | nil =>
          rfl
      | cons n post =>
          rw [List.map_cons, creationCredit_cons, idleAccount,
            creditOf_funded_left, inductionHypothesis]

theorem addresses_idle (keys : List Pubkey) :
    addresses (keys.map idleAccount) = keys := by
  rw [addresses, List.map_map]
  exact List.map_id keys

/-- From any pair of lists some rearrangement leads to one that credits
nothing: behind the list before, and in front of the list after, stands an
idle account for each account of the list before. -/
theorem exists_rearranged_uncredited {pre post : List KeyedAccount}
    (distinct : DistinctKeys KeyedAccount.address (pre, post))
    (room : 2 * pre.length + post.length ≤ 256 ^ 32) :
    ∃ pre' post',
      Rearranged KeyedAccount.address (pre, post) (pre', post') ∧
        creationCredit pre' post' = 0 ∧
        pre'.length + post'.length = 3 * pre.length + post.length := by
  obtain ⟨keys, length, keysDistinct, new⟩ :=
    exists_unused Pubkey.numbered_injOn
      (addresses pre ++ addresses post) pre.length (by
        rw [List.length_append, addresses, addresses, List.length_map,
          List.length_map]
        omega)
  have inserted (list : List KeyedAccount)
      (listDistinct : (addresses list).Nodup)
      (listNew : ∀ address ∈ keys, address ∉ addresses list) :
      (addresses (keys.map idleAccount ++ list)).Nodup := by
    have split : addresses (keys.map idleAccount ++ list) =
        keys ++ addresses list := by
      rw [addresses, List.map_append]
      exact congrArg (· ++ addresses list) (addresses_idle keys)
    rw [split]
    exact List.nodup_append'.mpr ⟨keysDistinct, listDistinct, listNew⟩
  have front : Rearranged KeyedAccount.address (pre, post)
      (keys.map idleAccount ++ pre, keys.map idleAccount ++ post) :=
    .of_append
      (inserted pre distinct.left fun address member used =>
        new address member (List.mem_append_left _ used))
      (inserted post distinct.right fun address member used =>
        new address member (List.mem_append_right _ used))
  refine
    ⟨pre ++ keys.map idleAccount, keys.map idleAccount ++ post,
      front.tail (.permuted List.perm_append_comm (.refl _)), ?_, ?_⟩
  · have aligned : pre.length = (keys.map idleAccount).length := by
      rw [List.length_map, length]
    rw [creationCredit_append aligned, creationCredit_idle,
      creationCredit_idle_left]
  · rw [List.length_append, List.length_append, List.length_map, length]
    omega

/-- Two new accounts in one more rearrangement add any credit. -/
theorem exists_rearranged_credited {pre post : List KeyedAccount}
    (lamports : UInt64)
    (room : 2 + (pre.length + post.length) ≤ 256 ^ 32) :
    ∃ pre' post',
      Rearranged KeyedAccount.address (pre, post) (pre', post') ∧
        creationCredit pre' post' =
          lamports.toNat + creationCredit pre post ∧
        pre'.length + post'.length = 4 + (pre.length + post.length) := by
  obtain ⟨keys, length, keysDistinct, new⟩ :=
    exists_unused Pubkey.numbered_injOn
      (addresses pre ++ addresses post) 2 (by
        rw [List.length_append, addresses, addresses, List.length_map,
          List.length_map]
        omega)
  obtain ⟨fresh, funded, rfl⟩ := List.length_eq_two.mp length
  have different : fresh ≠ funded := by
    simpa using keysDistinct
  have newFresh := new fresh (by simp)
  have newFunded := new funded (by simp)
  rw [List.mem_append, not_or] at newFresh newFunded
  have fundedFirst : Rearranges KeyedAccount.address
      ([] ++ pre, [] ++ post)
      ([] ++ fundedAccount funded lamports :: pre,
        [] ++ fundedAccount funded lamports :: post) :=
    .inserted newFunded.1 newFunded.2
  have freshNext : Rearranges KeyedAccount.address
      ([] ++ fundedAccount funded lamports :: pre,
        [fundedAccount funded lamports] ++ post)
      ([] ++ untouchedAccount fresh :: fundedAccount funded lamports :: pre,
        [fundedAccount funded lamports] ++ untouchedAccount fresh :: post) :=
    .inserted
      (List.not_mem_cons_of_ne_of_not_mem different newFresh.1)
      (List.not_mem_cons_of_ne_of_not_mem different newFresh.2)
  refine
    ⟨_, _, (Relation.ReflTransGen.single fundedFirst).tail freshNext,
      ?_, ?_⟩
  · simp only [List.nil_append, List.cons_append]
    rw [creationCredit_cons, creditOf_fresh_funded, creationCredit_cons,
      creditOf_funded_left, Nat.zero_add]
  · simp only [List.nil_append, List.cons_append, List.length_cons]
    omega

/-- A run of such rearrangements credits the words together. -/
theorem exists_rearranged_sum {pre post : List KeyedAccount}
    (words : List UInt64)
    (uncredited : creationCredit pre post = 0)
    (room : 4 * words.length + (pre.length + post.length) ≤ 256 ^ 32) :
    ∃ pre' post',
      Rearranged KeyedAccount.address (pre, post) (pre', post') ∧
        creationCredit pre' post' = (words.map UInt64.toNat).sum ∧
        pre'.length + post'.length =
          4 * words.length + (pre.length + post.length) := by
  induction words with
  | nil =>
      exact ⟨pre, post, .refl, uncredited, by simp⟩
  | cons word words inductionHypothesis =>
      rw [List.length_cons] at room
      obtain ⟨pre₁, post₁, first, credit, size⟩ :=
        inductionHypothesis (by omega)
      have roomNext : 2 + (pre₁.length + post₁.length) ≤ 256 ^ 32 := by
        omega
      obtain ⟨pre₂, post₂, second, more, bigger⟩ :=
        exists_rearranged_credited word roomNext
      refine ⟨pre₂, post₂, first.trans second, ?_, ?_⟩
      · rw [more, credit, List.map_cons, List.sum_cons]
      · rw [bigger, size, List.length_cons]
        omega

/-- Every amount is a sum of words. -/
theorem exists_words_sum (total : ℕ) :
    ∃ words : List UInt64,
      (words.map UInt64.toNat).sum = total ∧
        words.length = total / u64Max + 1 := by
  have positive : 0 < u64Max := by decide
  have rest : total % u64Max < 2 ^ 64 :=
    (Nat.mod_lt total positive).trans (by decide)
  refine
    ⟨.ofNat (total % u64Max) ::
      List.replicate (total / u64Max) (.ofNat u64Max), ?_, ?_⟩
  · rw [List.map_cons, List.sum_cons, List.map_replicate,
      List.sum_replicate, UInt64.toNat_ofNat_of_lt' rest,
      UInt64.toNat_ofNat_of_lt' (by decide), smul_eq_mul, Nat.mul_comm]
    exact Nat.mod_add_div total u64Max
  · rw [List.length_cons, List.length_replicate]

/-! ## What no rearrangement changes -/

/-- Every involved pair is permitted. -/
def RulesHold (programId : Pubkey) (metas : List AccountMeta)
    (pre post : List KeyedAccount) : Prop :=
  ∀ accountMeta ∈ involved metas,
    ∀ pair, pairAt pre post accountMeta = some pair →
      Permitted programId accountMeta.isWritable pair.1 pair.2

/-- `sum_pre`. -/
def sumPre (metas : List AccountMeta) (pre post : List KeyedAccount) : ℕ :=
  ((involvedPairs [] metas pre post).map
    fun pair => pair.1.lamports.toNat).sum

/-- `sum_post`. -/
def sumPost (metas : List AccountMeta) (pre post : List KeyedAccount) :
    ℕ :=
  ((involvedPairs [] metas pre post).map
    fun pair => pair.2.lamports.toNat).sum

section Rearranged

variable {pre post pre' post' : List KeyedAccount}
  (rearranged :
    Rearranged KeyedAccount.address (pre, post) (pre', post'))
  (distinct : DistinctKeys KeyedAccount.address (pre, post))
include rearranged distinct

/-- A meta finds the pair it found, or a new account in both lists. -/
theorem pairAt_rearranged (accountMeta : AccountMeta) :
    pairAt pre' post' accountMeta = pairAt pre post accountMeta ∨
      pairAt pre post accountMeta = none ∧
        ∃ account, pairAt pre' post' accountMeta =
          some (account, account) := by
  simp only [pairAt, findAccount]
  rcases rearranged.reads KeyedAccount.address distinct
      accountMeta.pubkey with
    ⟨preRead, postRead⟩ | ⟨preNone, postNone, account, preRead, postRead⟩
  · rw [preRead, postRead]
    exact .inl rfl
  · rw [preRead, postRead, preNone, postNone]
    exact .inr ⟨rfl, account, rfl⟩

theorem rulesHold_rearranged (programId : Pubkey)
    (metas : List AccountMeta) :
    RulesHold programId metas pre' post' ↔
      RulesHold programId metas pre post := by
  apply forall₂_congr
  intro accountMeta _
  rcases pairAt_rearranged rearranged distinct accountMeta with
    same | ⟨absent, account, added⟩
  · rw [same]
  · rw [absent, added]
    constructor
    · intro _ pair found
      cases found
    · intro _ pair found
      rw [← Option.some.inj found]
      exact Permitted.of_unchanged account

/-- What the second sum has over the first stays. -/
theorem sums_rearranged (metas : List AccountMeta) :
    sumPre metas pre' post' + sumPost metas pre post =
      sumPost metas pre' post' + sumPre metas pre post := by
  simp only [sumPre, sumPost, involvedPairs]
  induction firsts AccountMeta.pubkey [] metas with
  | nil =>
      rfl
  | cons accountMeta metas inductionHypothesis =>
      rw [List.filterMap_cons, List.filterMap_cons]
      rcases pairAt_rearranged rearranged distinct accountMeta with
        same | ⟨absent, account, added⟩
      · rw [same]
        cases pairAt pre post accountMeta with
        | none =>
            exact inductionHypothesis
        | some pair =>
            simp only [List.map_cons, List.sum_cons]
            omega
      · rw [absent, added]
        simp only [List.map_cons, List.sum_cons]
        omega

/-- The verdict on rearranged lists, told by the given lists and the new
credit. -/
theorem validatePostState_rearranged (programId : Pubkey)
    {metas : List AccountMeta} (fits : metas.length < 2 ^ 64) :
    validatePostState programId metas pre' post' .strict = .ok () ↔
      RulesHold programId metas pre post ∧
        sumPre metas pre post + creationCredit pre' post' =
          sumPost metas pre post := by
  have sums := sums_rearranged rearranged distinct metas
  rw [validatePostState_strict_iff fits,
    ← rulesHold_rearranged rearranged distinct]
  apply and_congr_right
  intro _
  change
    sumPre metas pre' post' + creationCredit pre' post' =
        sumPost metas pre' post' ↔ _
  omega

end Rearranged

theorem sumPost_le {metas : List AccountMeta}
    (fits : metas.length < 2 ^ 64) (pre post : List KeyedAccount) :
    sumPost metas pre post ≤ u128Max := by
  have short : (involvedPairs [] metas pre post).length < 2 ^ 64 :=
    (List.length_filterMap_le _ _).trans_lt
      ((length_firsts_le AccountMeta.pubkey [] metas).trans_lt fits)
  exact (sum_lt_u128Max (fun pair => pair.2.lamports) short).le

/-- Some rearrangement credits any amount up to the largest sum. -/
theorem exists_rearranged_credit {pre post : List KeyedAccount}
    (preFits : pre.length < 2 ^ 64) (postFits : post.length < 2 ^ 64)
    (distinct : DistinctKeys KeyedAccount.address (pre, post))
    {credit : ℕ} (bounded : credit ≤ u128Max + 1) :
    ∃ pre' post',
      Rearranged KeyedAccount.address (pre, post) (pre', post') ∧
        creationCredit pre' post' = credit := by
  obtain ⟨words, total, length⟩ := exists_words_sum credit
  have few : words.length ≤ 2 ^ 65 := by
    rw [length]
    simp only [u128Max] at bounded
    simp only [u64Max]
    omega
  obtain ⟨pre₁, post₁, first, uncredited, size⟩ :=
    exists_rearranged_uncredited distinct (by omega)
  obtain ⟨pre₂, post₂, second, credited, _⟩ :=
    exists_rearranged_sum words uncredited (by omega)
  exact ⟨pre₂, post₂, first.trans second, credited.trans total⟩

/-- Lists that break no rule, and hold no less after than before, are
accepted in one order and refused in another one. -/
theorem exists_verdicts_differ {programId : Pubkey}
    {metas : List AccountMeta} (fits : metas.length < 2 ^ 64)
    {pre post : List KeyedAccount}
    (preFits : pre.length < 2 ^ 64) (postFits : post.length < 2 ^ 64)
    (distinct : DistinctKeys KeyedAccount.address (pre, post))
    (rules : RulesHold programId metas pre post)
    (grown : sumPre metas pre post ≤ sumPost metas pre post) :
    (∃ pre' post',
      Rearranged KeyedAccount.address (pre, post) (pre', post') ∧
        validatePostState programId metas pre' post' .strict = .ok ()) ∧
      ∃ pre' post',
        Rearranged KeyedAccount.address (pre, post) (pre', post') ∧
          validatePostState programId metas pre' post' .strict ≠
            .ok () := by
  have largest := sumPost_le fits pre post
  have gain :
      sumPost metas pre post - sumPre metas pre post ≤ u128Max + 1 := by
    omega
  have more :
      sumPost metas pre post - sumPre metas pre post + 1 ≤
        u128Max + 1 := by
    omega
  constructor
  · obtain ⟨pre', post', balancing, balanced⟩ :=
      exists_rearranged_credit preFits postFits distinct gain
    refine ⟨pre', post', balancing, ?_⟩
    rw [validatePostState_rearranged balancing distinct programId fits]
    exact ⟨rules, by omega⟩
  · obtain ⟨pre', post', exceeding, exceeded⟩ :=
      exists_rearranged_credit preFits postFits distinct more
    refine ⟨pre', post', exceeding, ?_⟩
    rw [ne_eq,
      validatePostState_rearranged exceeding distinct programId fits]
    rintro ⟨_, unbalanced⟩
    omega

/-- When the order of the lists does not matter.  One rearrangement keeps
the verdict when both orders credit the accounts being created with what the
involved accounts gained, or neither does.  All of them keep it only where
the lists are refused whatever the credit. -/
theorem validatePostState_order_iff (programId : Pubkey)
    {metas : List AccountMeta} (fits : metas.length < 2 ^ 64)
    {pre post : List KeyedAccount}
    (preFits : pre.length < 2 ^ 64) (postFits : post.length < 2 ^ 64)
    (distinct : DistinctKeys KeyedAccount.address (pre, post)) :
    (∀ pre' post',
      Rearranged KeyedAccount.address (pre, post) (pre', post') →
        ((validatePostState programId metas pre' post' .strict = .ok () ↔
            validatePostState programId metas pre post .strict =
              .ok ()) ↔
          ¬ RulesHold programId metas pre post ∨
            (sumPre metas pre post + creationCredit pre' post' =
                sumPost metas pre post ↔
              sumPre metas pre post + creationCredit pre post =
                sumPost metas pre post))) ∧
      ((∀ pre' post',
        Rearranged KeyedAccount.address (pre, post) (pre', post') →
          (validatePostState programId metas pre' post' .strict = .ok () ↔
            validatePostState programId metas pre post .strict =
              .ok ())) ↔
        ¬ RulesHold programId metas pre post ∨
          sumPost metas pre post < sumPre metas pre post) := by
  have given :
      validatePostState programId metas pre post .strict = .ok () ↔
        RulesHold programId metas pre post ∧
          sumPre metas pre post + creationCredit pre post =
            sumPost metas pre post :=
    validatePostState_rearranged .refl distinct programId fits
  constructor
  · intro pre' post' rearranged
    rw [validatePostState_rearranged rearranged distinct programId fits,
      given]
    tauto
  constructor
  · intro stable
    by_contra unbroken
    rw [not_or, not_not, not_lt] at unbroken
    obtain ⟨rules, grown⟩ := unbroken
    obtain ⟨⟨pre₁, post₁, first, accepted⟩, pre₂, post₂, second, refused⟩ :=
      exists_verdicts_differ fits preFits postFits distinct rules grown
    exact
      refused
        ((stable pre₂ post₂ second).mpr
          ((stable pre₁ post₁ first).mp accepted))
  · intro refused pre' post' rearranged
    rw [validatePostState_rearranged rearranged distinct programId fits,
      given]
    rcases refused with broken | lost
    · exact
        iff_of_false (fun accepted => broken accepted.1)
          fun accepted => broken accepted.1
    · refine iff_of_false ?_ ?_
      · rintro ⟨_, balanced⟩
        omega
      · rintro ⟨_, balanced⟩
        omega

/-- A fresh account and one that holds lamports, both left alone. -/
def restingAccounts : List KeyedAccount :=
  [untouchedAccount (.filled 2), fundedAccount (.filled 3) 5]

def restingMetas : List AccountMeta :=
  [⟨.filled 2, false, true⟩, ⟨.filled 3, false, true⟩]

theorem restingAccounts_distinct :
    DistinctKeys KeyedAccount.address (restingAccounts, restingAccounts) :=
  ⟨by decide, by decide⟩

theorem validatePostState_order_iff_resting :
    (∀ pre' post',
      Rearranged KeyedAccount.address (restingAccounts, restingAccounts)
          (pre', post') →
        ((validatePostState (.filled 9) restingMetas pre' post' .strict =
              .ok () ↔
            validatePostState (.filled 9) restingMetas restingAccounts
                restingAccounts .strict = .ok ()) ↔
          ¬ RulesHold (.filled 9) restingMetas restingAccounts
              restingAccounts ∨
            (sumPre restingMetas restingAccounts restingAccounts +
                  creationCredit pre' post' =
                sumPost restingMetas restingAccounts restingAccounts ↔
              sumPre restingMetas restingAccounts restingAccounts +
                  creationCredit restingAccounts restingAccounts =
                sumPost restingMetas restingAccounts
                  restingAccounts))) ∧
      ((∀ pre' post',
        Rearranged KeyedAccount.address (restingAccounts, restingAccounts)
            (pre', post') →
          (validatePostState (.filled 9) restingMetas pre' post' .strict =
              .ok () ↔
            validatePostState (.filled 9) restingMetas restingAccounts
                restingAccounts .strict = .ok ())) ↔
        ¬ RulesHold (.filled 9) restingMetas restingAccounts
            restingAccounts ∨
          sumPost restingMetas restingAccounts restingAccounts <
            sumPre restingMetas restingAccounts restingAccounts) :=
  validatePostState_order_iff (.filled 9) (by decide) (by decide)
    (by decide) restingAccounts_distinct

/-- Accounts that nothing happened to are refused when the list after the
instruction is reversed. -/
theorem reversed_post_refused :
    validatePostState (.filled 9) restingMetas restingAccounts
        restingAccounts .strict = .ok () ∧
      Rearranged KeyedAccount.address (restingAccounts, restingAccounts)
        (restingAccounts, restingAccounts.reverse) ∧
      validatePostState (.filled 9) restingMetas restingAccounts
          restingAccounts.reverse .strict ≠ .ok () := by
  refine ⟨rfl, .single (.permuted (.refl _) ?_), ?_⟩
  · exact (List.reverse_perm restingAccounts).symm
  · intro accepted
    cases accepted

end Hopper
