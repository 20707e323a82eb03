import HopperSvm.Validation

/-!
What an account list says about each address, and what the validator decides
in those terms.  An accepted execution rewrites only the accounts its metas
name; on such a pair of lists the creation credit, which the source computes
slot by slot over the whole lists, is a sum over the involved metas, and the
verdict only depends on the two ledgers at the metas' addresses.
-/

namespace Hopper

abbrev Ledger : Type := Pubkey → Option KeyedAccount

/-- The ledger a list stands for: the first account at each address. -/
def ledgerOf (accounts : List KeyedAccount) : Ledger :=
  fun address => findAccount address accounts

/-- The slots written over a ledger, the last slot at an address
winning. -/
def writeBack (before : Ledger) (slots : List KeyedAccount) : Ledger :=
  fun address =>
    (findAccount address slots.reverse).or (before address)

/-- The lamports at an address, none for an absent account. -/
def lamportsAt (ledger : Ledger) (address : Pubkey) : Nat :=
  ((ledger address).map fun account => account.lamports.toNat).getD 0

/-- The creation credit of one address. -/
def creditAt (before after : Ledger) (address : Pubkey) : Nat :=
  ((before address).map fun account =>
    creditOf account ((after address).getD account)).getD 0

/-- The final lamports of the accounts that were created: fresh before, and
with an owner or data gained. -/
def createdLamports (before after : List KeyedAccount) : Nat :=
  (before.map fun account =>
    creditOf account
      ((findAccount account.address after).getD account)).sum

/-- `weight` summed over the addresses of the involved metas. -/
def involvedSum (metas : List AccountMeta) (weight : Pubkey → Nat) :
    Nat :=
  (((involved metas).map AccountMeta.pubkey).map weight).sum

/-- The validator's verdict on two ledgers. -/
structure Accepts (programId : Pubkey) (metas : List AccountMeta)
    (before after : Ledger) : Prop where
  rules : ∀ accountMeta ∈ involved metas, ∀ p n,
    before accountMeta.pubkey = some p →
      after accountMeta.pubkey = some n →
        Permitted programId accountMeta.isWritable p n
  balanced :
    involvedSum metas (lamportsAt before) +
        involvedSum metas (creditAt before after) =
      involvedSum metas (lamportsAt after)

/-- `post` is `pre` with at most the accounts of the metas rewritten. -/
structure Rewrites (metas : List AccountMeta)
    (pre post : List KeyedAccount) : Prop where
  distinct : (addresses pre).Nodup
  sameAddresses : addresses post = addresses pre
  frame : ∀ address, address ∉ metas.map AccountMeta.pubkey →
    findAccount address post = findAccount address pre

theorem ledgerOf_eq_none_iff {accounts : List KeyedAccount}
    {address : Pubkey} :
    ledgerOf accounts address = none ↔ address ∉ addresses accounts :=
  KeyedList.lookup_eq_none_iff KeyedAccount.address

theorem address_of_ledgerOf {accounts : List KeyedAccount}
    {address : Pubkey} {account : KeyedAccount}
    (found : ledgerOf accounts address = some account) :
    account.address = address :=
  KeyedList.key_of_lookup KeyedAccount.address found

/-- Two lists with the same distinct addresses in the same order are equal
when their ledgers are. -/
theorem eq_of_ledgerOf_eq {left right : List KeyedAccount}
    (distinct : (addresses left).Nodup)
    (sameAddresses : addresses left = addresses right)
    (same : ledgerOf left = ledgerOf right) :
    left = right :=
  KeyedList.ext_of_keys KeyedAccount.address distinct sameAddresses
    fun wanted _ => congrFun same wanted

theorem mem_involved {metas : List AccountMeta}
    {accountMeta : AccountMeta} :
    accountMeta ∈ involved metas ↔
      metas.find? (fun other =>
        other.pubkey = accountMeta.pubkey) = some accountMeta := by
  rw [involved, KeyedList.mem_firsts]
  simp [KeyedList.lookup]

theorem mem_pubkeys_involved {metas : List AccountMeta}
    {address : Pubkey} :
    address ∈ (involved metas).map AccountMeta.pubkey ↔
      address ∈ metas.map AccountMeta.pubkey :=
  KeyedList.mem_keys_firsts AccountMeta.pubkey

theorem involvedSum_congr {metas : List AccountMeta}
    {left right : Pubkey → Nat}
    (same : ∀ address ∈ metas.map AccountMeta.pubkey,
      left address = right address) :
    involvedSum metas left = involvedSum metas right := by
  simp only [involvedSum]
  congr 1
  apply List.map_congr_left
  intro address member
  exact same address (mem_pubkeys_involved.mp member)

/-- Over a list with distinct addresses, a sum over the involved metas is
the sum over the accounts they name. -/
theorem involvedSum_eq_sum {accounts : List KeyedAccount}
    (distinct : (addresses accounts).Nodup) (metas : List AccountMeta)
    (weight : KeyedAccount → Nat) :
    involvedSum metas (fun address =>
        ((ledgerOf accounts address).map weight).getD 0) =
      ((accounts.filter fun account =>
          account.address ∈ (involved metas).map AccountMeta.pubkey).map
        weight).sum :=
  KeyedList.sum_lookups KeyedAccount.address distinct weight
    (KeyedList.nodup_keys_firsts AccountMeta.pubkey [] metas)

theorem ledgerOf_mergeAccounts (accounts slots : List KeyedAccount) :
    ledgerOf (mergeAccounts accounts slots) =
      writeBack (ledgerOf accounts) slots := by
  funext address
  exact findAccount_mergeAccounts address accounts slots

theorem writeBack_of_not_mem {slots : List KeyedAccount}
    {address : Pubkey} (absent : address ∉ addresses slots)
    (before : Ledger) :
    writeBack before slots address = before address := by
  have noSlot : findAccount address slots.reverse = none := by
    simp only [findAccount]
    rw [KeyedList.lookup_eq_none_iff, List.map_reverse, List.mem_reverse]
    exact absent
  rw [writeBack, noSlot, Option.none_or]

/-- The last slot at an address is written, so a slot whose address comes
again is not. -/
theorem writeBack_cons (before : Ledger) (slot : KeyedAccount)
    (slots : List KeyedAccount) :
    writeBack before (slot :: slots) =
      if slot.address ∈ addresses slots then
        writeBack before slots
      else
        Function.update (writeBack before slots) slot.address
          (some slot) := by
  have read (address : Pubkey) :
      writeBack before (slot :: slots) address =
        ((findAccount address slots.reverse).or
          (if slot.address = address then some slot else none)).or
            (before address) := by
    rw [writeBack, List.reverse_cons, findAccount, findAccount,
      KeyedList.lookup_append, KeyedList.lookup_cons,
      KeyedList.lookup_nil]
  funext address
  rw [read]
  by_cases same : slot.address = address
  · subst same
    rw [if_pos rfl]
    split
    · rename_i named
      have listed : slot.address ∈
          slots.reverse.map KeyedAccount.address := by
        rw [List.map_reverse, List.mem_reverse]
        exact named
      obtain ⟨last, found⟩ :=
        KeyedList.exists_lookup_of_mem KeyedAccount.address listed
      rw [writeBack, findAccount, found]
      rfl
    · rename_i notNamed
      have absent : findAccount slot.address slots.reverse = none := by
        rw [findAccount, KeyedList.lookup_eq_none_iff, List.map_reverse,
          List.mem_reverse]
        exact notNamed
      rw [absent, Function.update_self]
      rfl
  · rw [if_neg same, Option.or_none]
    split
    · rfl
    · rw [Function.update_of_ne (Ne.symm same)]
      rfl

/-- Writing clones back changes nothing. -/
theorem writeBack_clones {before : Ledger} {slots : List KeyedAccount}
    (clones : ∀ slot ∈ slots, before slot.address = some slot) :
    writeBack before slots = before := by
  induction slots with
  | nil =>
      rfl
  | cons slot slots inductionHypothesis =>
      have rest :=
        inductionHypothesis fun other member =>
          clones other (List.mem_cons_of_mem slot member)
      rw [writeBack_cons, rest]
      split
      · rfl
      · rw [← clones slot List.mem_cons_self, Function.update_eq_self]

/-! ## The verdict on a rewritten list -/

namespace Rewrites

variable {metas : List AccountMeta} {pre post : List KeyedAccount}

theorem frame_ledger (rewrites : Rewrites metas pre post)
    {address : Pubkey}
    (absent : address ∉ (involved metas).map AccountMeta.pubkey) :
    ledgerOf post address = ledgerOf pre address :=
  rewrites.frame address fun member =>
    absent (mem_pubkeys_involved.mpr member)

theorem postDistinct (rewrites : Rewrites metas pre post) :
    (addresses post).Nodup :=
  rewrites.sameAddresses ▸ rewrites.distinct

/-- An address is in both lists or in neither. -/
theorem present_iff (rewrites : Rewrites metas pre post)
    (address : Pubkey) :
    (∃ p n, ledgerOf pre address = some p ∧
        ledgerOf post address = some n) ∨
      (ledgerOf pre address = none ∧ ledgerOf post address = none) := by
  by_cases member : address ∈ addresses pre
  · obtain ⟨p, before⟩ :=
      KeyedList.exists_lookup_of_mem KeyedAccount.address member
    rw [← rewrites.sameAddresses] at member
    obtain ⟨n, after⟩ :=
      KeyedList.exists_lookup_of_mem KeyedAccount.address member
    exact Or.inl ⟨p, n, before, after⟩
  · refine Or.inr ⟨ledgerOf_eq_none_iff.mpr member, ?_⟩
    rw [← rewrites.sameAddresses] at member
    exact ledgerOf_eq_none_iff.mpr member

/-- The slot-by-slot credit is the credit read off by address. -/
theorem creationCredit_eq_createdLamports
    (rewrites : Rewrites metas pre post) :
    creationCredit pre post = createdLamports pre post := by
  let after (account : KeyedAccount) : KeyedAccount :=
    (findAccount account.address post).getD account
  have slots : pre.map after = post :=
    KeyedList.map_lookup_of_sameKeys KeyedAccount.address
      rewrites.distinct rewrites.sameAddresses
  have paired :
      (pre.map id).zip (pre.map after) =
        pre.map fun account => (id account, after account) :=
    List.zip_map'
  rw [List.map_id, slots] at paired
  rw [creationCredit, paired, List.map_map]
  rfl

/-- Only accounts the metas name are created. -/
theorem createdLamports_eq (rewrites : Rewrites metas pre post) :
    createdLamports pre post =
      involvedSum metas (creditAt (ledgerOf pre) (ledgerOf post)) := by
  let weight (account : KeyedAccount) : Nat :=
    creditOf account ((findAccount account.address post).getD account)
  have untouched :
      ((pre.filter fun account =>
          account.address ∉ (involved metas).map AccountMeta.pubkey).map
        weight).sum = 0 := by
    apply List.sum_eq_zero
    intro credit member
    rcases List.mem_map.mp member with ⟨account, inFilter, rfl⟩
    rcases List.mem_filter.mp inFilter with ⟨inPre, outside⟩
    have same : findAccount account.address post = some account := by
      have unchanged :=
        rewrites.frame_ledger (of_decide_eq_true outside)
      have found : findAccount account.address pre = some account :=
        KeyedList.lookup_of_mem KeyedAccount.address rewrites.distinct
          inPre
      exact unchanged.trans found
    have notCreated : ¬ Created account account := by
      intro created
      rcases created with ⟨_, ownerChanged | ⟨empty, grown⟩⟩
      · exact ownerChanged rfl
      · exact grown empty
    simp only [weight, same, Option.getD_some, creditOf,
      if_neg notCreated]
  have atMetas :
      involvedSum metas (creditAt (ledgerOf pre) (ledgerOf post)) =
        involvedSum metas (fun address =>
          ((ledgerOf pre address).map weight).getD 0) := by
    apply involvedSum_congr
    intro address _
    simp only [creditAt]
    cases found : ledgerOf pre address with
    | none =>
        rfl
    | some account =>
        have same := address_of_ledgerOf found
        subst same
        rfl
  have split : createdLamports pre post = _ :=
    KeyedList.sum_split KeyedAccount.address weight
      ((involved metas).map AccountMeta.pubkey) pre
  rw [split, atMetas, involvedSum_eq_sum rewrites.distinct, untouched,
    Nat.add_zero]

/-- The pairs the loop adds up, read off the ledgers. -/
private theorem sum_pairs (rewrites : Rewrites metas pre post)
    (items : List AccountMeta) :
    ((items.filterMap (pairAt pre post)).map fun pair =>
          pair.1.lamports.toNat).sum =
        ((items.map AccountMeta.pubkey).map
          (lamportsAt (ledgerOf pre))).sum ∧
      ((items.filterMap (pairAt pre post)).map fun pair =>
          pair.2.lamports.toNat).sum =
        ((items.map AccountMeta.pubkey).map
          (lamportsAt (ledgerOf post))).sum := by
  induction items with
  | nil =>
      exact ⟨rfl, rfl⟩
  | cons accountMeta items inductionHypothesis =>
      rcases inductionHypothesis with ⟨preSum, postSum⟩
      rcases rewrites.present_iff accountMeta.pubkey with
        ⟨p, n, before, after⟩ | ⟨before, after⟩
      · have paired : pairAt pre post accountMeta = some (p, n) := by
          simp only [ledgerOf] at before after
          simp only [pairAt, before, after]
        simp only [List.filterMap_cons, paired, List.map_cons,
          List.sum_cons, preSum, postSum, lamportsAt, before, after,
          Option.map_some, Option.getD_some, and_self]
      · have unpaired : pairAt pre post accountMeta = none := by
          simp only [ledgerOf] at before after
          simp only [pairAt, before]
        simp only [List.filterMap_cons, unpaired, List.map_cons,
          List.sum_cons, preSum, postSum, lamportsAt, before, after,
          Option.map_none, Option.getD_none, Nat.zero_add, and_self]

theorem validate_iff (rewrites : Rewrites metas pre post)
    (fits : metas.length < 2 ^ 64) (programId : Pubkey) :
    validatePostState programId metas pre post .strict = .ok () ↔
      Accepts programId metas (ledgerOf pre) (ledgerOf post) := by
  obtain ⟨preSum, postSum⟩ := rewrites.sum_pairs (involved metas)
  rw [validatePostState_strict_iff fits,
    rewrites.creationCredit_eq_createdLamports,
    rewrites.createdLamports_eq]
  simp only [involvedPairs]
  rw [← involved, preSum, postSum]
  constructor
  · rintro ⟨rules, balanced⟩
    refine { rules := ?_, balanced := balanced }
    intro accountMeta member p n before after
    apply rules accountMeta member (p, n)
    simp only [ledgerOf] at before after
    simp only [pairAt, before, after]
  · intro accepts
    refine ⟨?_, accepts.balanced⟩
    intro accountMeta member pair paired
    simp only [pairAt] at paired
    split at paired
    · rename_i p n before after
      cases paired
      exact accepts.rules accountMeta member p n before after
    · cases paired

/-- Lamports move only through the involved metas. -/
theorem totalLamports_add (rewrites : Rewrites metas pre post) :
    totalLamports post + involvedSum metas (lamportsAt (ledgerOf pre)) =
      totalLamports pre +
        involvedSum metas (lamportsAt (ledgerOf post)) := by
  let lamports (account : KeyedAccount) : Nat := account.lamports.toNat
  let keys := (involved metas).map AccountMeta.pubkey
  have preSplit : totalLamports pre = _ :=
    KeyedList.sum_split KeyedAccount.address lamports keys pre
  have postSplit : totalLamports post = _ :=
    KeyedList.sum_split KeyedAccount.address lamports keys post
  have outside :
      (post.filter fun account => account.address ∉ keys) =
        pre.filter fun account => account.address ∉ keys :=
    KeyedList.filter_not_mem_eq KeyedAccount.address rewrites.distinct
      rewrites.sameAddresses fun address absent =>
        rewrites.frame_ledger absent
  have preInvolved :
      involvedSum metas (lamportsAt (ledgerOf pre)) =
        ((pre.filter fun account => account.address ∈ keys).map
          lamports).sum :=
    involvedSum_eq_sum rewrites.distinct metas lamports
  have postInvolved :
      involvedSum metas (lamportsAt (ledgerOf post)) =
        ((post.filter fun account => account.address ∈ keys).map
          lamports).sum :=
    involvedSum_eq_sum rewrites.postDistinct metas lamports
  rw [preSplit, postSplit, preInvolved, postInvolved, outside]
  omega

end Rewrites

section Few

variable {programId : Pubkey} {metas : List AccountMeta}
  {before after : Ledger} {left right : AccountMeta}
  {p n p' n' : KeyedAccount}

theorem accepts_single_iff (single : involved metas = [left])
    (foundBefore : before left.pubkey = some p)
    (foundAfter : after left.pubkey = some n) :
    Accepts programId metas before after ↔
      Permitted programId left.isWritable p n ∧
        p.lamports.toNat + creditOf p n = n.lamports.toNat := by
  have balanced :
      involvedSum metas (lamportsAt before) +
            involvedSum metas (creditAt before after) =
          involvedSum metas (lamportsAt after) ↔
        p.lamports.toNat + creditOf p n = n.lamports.toNat := by
    simp only [involvedSum, single, List.map_cons, List.map_nil,
      List.sum_cons, List.sum_nil, lamportsAt, creditAt, foundBefore,
      foundAfter, Option.map_some, Option.getD_some, Nat.add_zero]
  constructor
  · intro accepts
    have listed : left ∈ involved metas := by
      rw [single]
      exact List.mem_singleton_self left
    exact
      ⟨accepts.rules left listed p n foundBefore foundAfter,
        balanced.mp accepts.balanced⟩
  · rintro ⟨permitted, sum⟩
    refine { rules := ?_, balanced := balanced.mpr sum }
    intro accountMeta member q m before_eq after_eq
    rw [single, List.mem_singleton] at member
    subst member
    rw [foundBefore, Option.some.injEq] at before_eq
    rw [foundAfter, Option.some.injEq] at after_eq
    subst before_eq after_eq
    exact permitted

theorem accepts_pair_iff (pair : involved metas = [left, right])
    (leftBefore : before left.pubkey = some p)
    (leftAfter : after left.pubkey = some n)
    (rightBefore : before right.pubkey = some p')
    (rightAfter : after right.pubkey = some n') :
    Accepts programId metas before after ↔
      Permitted programId left.isWritable p n ∧
        Permitted programId right.isWritable p' n' ∧
          p.lamports.toNat + p'.lamports.toNat +
              (creditOf p n + creditOf p' n') =
            n.lamports.toNat + n'.lamports.toNat := by
  have balanced :
      involvedSum metas (lamportsAt before) +
            involvedSum metas (creditAt before after) =
          involvedSum metas (lamportsAt after) ↔
        p.lamports.toNat + p'.lamports.toNat +
            (creditOf p n + creditOf p' n') =
          n.lamports.toNat + n'.lamports.toNat := by
    simp only [involvedSum, pair, List.map_cons, List.map_nil,
      List.sum_cons, List.sum_nil, lamportsAt, creditAt, leftBefore,
      leftAfter, rightBefore, rightAfter, Option.map_some,
      Option.getD_some, Nat.add_zero]
  constructor
  · intro accepts
    have leftListed : left ∈ involved metas := by
      rw [pair]
      exact List.mem_cons_self
    have rightListed : right ∈ involved metas := by
      rw [pair]
      exact List.mem_cons_of_mem left List.mem_cons_self
    exact
      ⟨accepts.rules left leftListed p n leftBefore leftAfter,
        accepts.rules right rightListed p' n' rightBefore rightAfter,
        balanced.mp accepts.balanced⟩
  · rintro ⟨leftPermitted, rightPermitted, sum⟩
    refine { rules := ?_, balanced := balanced.mpr sum }
    intro accountMeta member q m before_eq after_eq
    rw [pair] at member
    rcases List.mem_cons.mp member with rfl | member
    · rw [leftBefore, Option.some.injEq] at before_eq
      rw [leftAfter, Option.some.injEq] at after_eq
      subst before_eq after_eq
      exact leftPermitted
    · rw [List.mem_singleton] at member
      subst member
      rw [rightBefore, Option.some.injEq] at before_eq
      rw [rightAfter, Option.some.injEq] at after_eq
      subst before_eq after_eq
      exact rightPermitted

end Few

theorem Accepts.congr {programId : Pubkey} {metas : List AccountMeta}
    {before after before' after' : Ledger}
    (sameBefore : ∀ address ∈ metas.map AccountMeta.pubkey,
      before address = before' address)
    (sameAfter : ∀ address ∈ metas.map AccountMeta.pubkey,
      after address = after' address)
    (accepts : Accepts programId metas before after) :
    Accepts programId metas before' after' where
  rules := by
    intro accountMeta member p n foundBefore foundAfter
    have named : accountMeta.pubkey ∈ metas.map AccountMeta.pubkey :=
      mem_pubkeys_involved.mp (List.mem_map_of_mem member)
    apply accepts.rules accountMeta member p n
    · rw [sameBefore _ named, foundBefore]
    · rw [sameAfter _ named, foundAfter]
  balanced := by
    have lamportsBefore :
        involvedSum metas (lamportsAt before') =
          involvedSum metas (lamportsAt before) :=
      involvedSum_congr fun address member => by
        rw [lamportsAt, lamportsAt, sameBefore address member]
    have lamportsAfter :
        involvedSum metas (lamportsAt after') =
          involvedSum metas (lamportsAt after) :=
      involvedSum_congr fun address member => by
        rw [lamportsAt, lamportsAt, sameAfter address member]
    have credit :
        involvedSum metas (creditAt before' after') =
          involvedSum metas (creditAt before after) :=
      involvedSum_congr fun address member => by
        rw [creditAt, creditAt, sameBefore address member,
          sameAfter address member]
    rw [lamportsBefore, lamportsAfter, credit]
    exact accepts.balanced

end Hopper
