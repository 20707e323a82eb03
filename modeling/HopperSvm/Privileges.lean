import HopperSvm.CreateAccount

/-!
An address may be named by several metas with different flags.  The handlers
and the validator all look up the first one, so they see the privileges of
an address whatever the order of its metas exactly when its first meta
carries every flag that any of them carries.
-/

namespace Hopper

open Routine

variable {metas : List AccountMeta} {address : Pubkey}

/-- Some meta of the address is flagged as signer. -/
def SomeSigner (metas : List AccountMeta) (address : Pubkey) : Prop :=
  ∃ accountMeta ∈ metas,
    accountMeta.pubkey = address ∧ accountMeta.isSigner = true

/-- Some meta of the address is flagged as writable. -/
def SomeWritable (metas : List AccountMeta) (address : Pubkey) : Prop :=
  ∃ accountMeta ∈ metas,
    accountMeta.pubkey = address ∧ accountMeta.isWritable = true

/-- The validator accepts some change to the account at the address. -/
def ChangeAccepted (metas : List AccountMeta) (address : Pubkey) : Prop :=
  ∃ programId pre post p n,
    validatePostState programId metas pre post .strict = .ok () ∧
      findAccount address pre = some p ∧
      findAccount address post = some n ∧
      (n.lamports ≠ p.lamports ∨ n.data ≠ p.data ∨ n.owner ≠ p.owner ∨
        n.executable ≠ p.executable)

/-- The checks of the handlers, and for a named address the read-only rule
of the validator, take an address as signer or writable exactly when one of
its metas says so. -/
structure OrderFree (metas : List AccountMeta) (address : Pubkey) :
    Prop where
  signer : ∀ context state, context.accountMetas = metas →
    ((requireSigner address).Yields context state () state ↔
      SomeSigner metas address)
  writable : ∀ context state, context.accountMetas = metas →
    ((requireWritable address).Yields context state () state ↔
      SomeWritable metas address)
  readOnly : address ∈ metas.map AccountMeta.pubkey →
    (ChangeAccepted metas address ↔ SomeWritable metas address)

/-- The first meta of an address. -/
def firstMeta (metas : List AccountMeta) (address : Pubkey) :
    Option AccountMeta :=
  metas.find? fun accountMeta => accountMeta.pubkey = address

/-- The first meta of the address carries every flag of its metas. -/
def FirstCarries (metas : List AccountMeta) (address : Pubkey) : Prop :=
  ∀ accountMeta ∈ metas, accountMeta.pubkey = address →
    (accountMeta.isSigner = true →
      (firstMeta metas address).any AccountMeta.isSigner = true) ∧
    (accountMeta.isWritable = true →
      (firstMeta metas address).any AccountMeta.isWritable = true)

theorem exists_firstMeta
    (named : address ∈ metas.map AccountMeta.pubkey) :
    ∃ first, firstMeta metas address = some first ∧
      first ∈ involved metas ∧ first.pubkey = address := by
  cases found : firstMeta metas address with
  | none =>
      rcases List.mem_map.mp named with ⟨accountMeta, member, same⟩
      have absent := List.find?_eq_none.mp found accountMeta member
      simp [same] at absent
  | some first =>
      have same : first.pubkey = address := by
        simpa using List.find?_some found
      refine ⟨first, rfl, ?_, same⟩
      rw [mem_involved, same]
      exact found

/-- The account the change is tried on: one lamport, no data. -/
def probe (address : Pubkey) : KeyedAccount :=
  .new address 1 .default [] false

/-- The same account with a byte of data. -/
def probed (address : Pubkey) : KeyedAccount :=
  .new address 1 .default [0] false

theorem pairAt_probe {accountMeta : AccountMeta}
    {pair : KeyedAccount × KeyedAccount}
    (found : pairAt [probe address] [probed address] accountMeta =
      some pair) :
    accountMeta.pubkey = address ∧
      pair = (probe address, probed address) := by
  by_cases same : address = accountMeta.pubkey
  · subst same
    have both :
        pairAt [probe accountMeta.pubkey] [probed accountMeta.pubkey]
            accountMeta =
          some (probe accountMeta.pubkey, probed accountMeta.pubkey) := by
      simp [pairAt, findAccount, KeyedList.lookup_cons, probe, probed,
        KeyedAccount.new]
    rw [both] at found
    exact ⟨rfl, (Option.some.inj found).symm⟩
  · have neither :
        pairAt [probe address] [probed address] accountMeta = none := by
      simp [pairAt, findAccount, KeyedList.lookup_cons, probe, probed,
        KeyedAccount.new, same]
    rw [neither] at found
    cases found

/-- With a writable first meta the probe is accepted. -/
theorem probe_accepted (fits : metas.length < 2 ^ 64)
    (writable : ∀ first, firstMeta metas address = some first →
      first.isWritable = true) :
    validatePostState .default metas [probe address] [probed address]
        .strict =
      .ok () := by
  rw [validatePostState_strict_iff fits]
  constructor
  · intro accountMeta isFirst pair found
    obtain ⟨same, rfl⟩ := pairAt_probe found
    have first : firstMeta metas address = some accountMeta := by
      rw [← same]
      exact mem_involved.mp isFirst
    rw [writable accountMeta first]
    exact
      { executable := rfl
        readOnly := fun readOnly => absurd readOnly (by decide)
        debit := fun _ => rfl
        reassign := fun _ => Or.inl rfl
        write := fun _ => Or.inl rfl }
  · have noCredit :
        creationCredit [probe address] [probed address] = 0 := by
      simp [creationCredit, creditOf, Created, Fresh, probe,
        KeyedAccount.new]
    rw [noCredit, Nat.add_zero]
    congr 1
    apply List.map_congr_left
    intro pair member
    rcases List.mem_filterMap.mp member with ⟨accountMeta, _, found⟩
    obtain ⟨_, rfl⟩ := pairAt_probe found
    rfl

theorem changeAccepted_iff (fits : metas.length < 2 ^ 64)
    (named : address ∈ metas.map AccountMeta.pubkey) :
    ChangeAccepted metas address ↔
      (firstMeta metas address).any AccountMeta.isWritable = true := by
  obtain ⟨first, found, isFirst, same⟩ := exists_firstMeta named
  rw [found, Option.any_some]
  constructor
  · rintro ⟨programId, pre, post, p, n, accepted, before, after, changed⟩
    obtain ⟨permitted, _⟩ :=
      (validatePostState_strict_iff fits).mp accepted
    have pairFound : pairAt pre post first = some (p, n) := by
      rw [pairAt, same, before, after]
    have allowed := permitted first isFirst _ pairFound
    by_contra readOnly
    obtain ⟨lamports, data, owner⟩ :=
      allowed.readOnly (Bool.eq_false_iff.mpr readOnly)
    rcases changed with lamports' | data' | owner' | executable'
    · exact lamports' lamports
    · exact data' data
    · exact owner' owner
    · exact executable' allowed.executable
  · intro writable
    refine
      ⟨.default, [probe address], [probed address], probe address,
        probed address, probe_accepted fits ?_, ?_, ?_, ?_⟩
    · intro other foundOther
      cases found.symm.trans foundOther
      exact writable
    · simp [findAccount, KeyedList.lookup_cons, probe, KeyedAccount.new]
    · simp [findAccount, KeyedList.lookup_cons, probed, KeyedAccount.new]
    · exact Or.inr (Or.inl (List.cons_ne_nil _ _))

theorem requireSigner_iff_first {context : InvokeContext}
    {state : InvokeState} :
    (requireSigner address).Yields context state () state ↔
      (firstMeta context.accountMetas address).any
          AccountMeta.isSigner = true := by
  rw [requireSigner_yields, and_iff_left rfl]
  rfl

theorem requireWritable_iff_first {context : InvokeContext}
    {state : InvokeState} :
    (requireWritable address).Yields context state () state ↔
      (firstMeta context.accountMetas address).any
          AccountMeta.isWritable = true := by
  rw [requireWritable_yields, and_iff_left rfl]
  rfl

/-- A flag that the first meta carries if any meta does. -/
theorem firstMeta_any_iff {flag : AccountMeta → Bool}
    (carries : ∀ accountMeta ∈ metas, accountMeta.pubkey = address →
      flag accountMeta = true →
        (firstMeta metas address).any flag = true) :
    (firstMeta metas address).any flag = true ↔
      ∃ accountMeta ∈ metas,
        accountMeta.pubkey = address ∧ flag accountMeta = true := by
  constructor
  · exact exists_meta_of_first
  · intro flagged
    rcases flagged with ⟨accountMeta, member, same, flagged⟩
    exact carries accountMeta member same flagged

/-- An invocation on nothing but the metas. -/
def bareContext (metas : List AccountMeta) : InvokeContext :=
  { programId := .default
    accountMetas := metas
    sysvars := .default }

def bareState : InvokeState :=
  { accounts := []
    logs := .empty
    budget := .default
    cells := ⟨none, 0⟩ }

theorem OrderFree.firstCarries (free : OrderFree metas address) :
    FirstCarries metas address := by
  intro accountMeta member same
  constructor
  · intro flagged
    have passes :=
      (free.signer (bareContext metas) bareState rfl).mpr
        ⟨accountMeta, member, same, flagged⟩
    exact requireSigner_iff_first.mp passes
  · intro flagged
    have passes :=
      (free.writable (bareContext metas) bareState rfl).mpr
        ⟨accountMeta, member, same, flagged⟩
    exact requireWritable_iff_first.mp passes

/-- The privileges of an address do not depend on the order of its metas
exactly when its first meta carries all of them. -/
theorem orderFree_iff (ix : Instruction) (address : Pubkey) :
    OrderFree ix.accounts address ↔ FirstCarries ix.accounts address := by
  constructor
  · exact OrderFree.firstCarries
  · intro carries
    have signer :
        (firstMeta ix.accounts address).any AccountMeta.isSigner = true ↔
          SomeSigner ix.accounts address :=
      firstMeta_any_iff fun accountMeta member same =>
        (carries accountMeta member same).1
    have writable :
        (firstMeta ix.accounts address).any AccountMeta.isWritable =
            true ↔
          SomeWritable ix.accounts address :=
      firstMeta_any_iff fun accountMeta member same =>
        (carries accountMeta member same).2
    constructor
    · intro context state sameMetas
      rw [requireSigner_iff_first, sameMetas]
      exact signer
    · intro context state sameMetas
      rw [requireWritable_iff_first, sameMetas]
      exact writable
    · intro named
      rw [changeAccepted_iff ix.accounts_length named]
      exact writable

/-- `CloseAccount` of the account at 1, with the lamports going to the
authority at 2, which signs in the last slot. -/
def closeToAuthorityIx : Instruction :=
  { programId := splTokenId
    accounts :=
      [⟨.filled 1, false, true⟩, ⟨.filled 2, false, true⟩,
        ⟨.filled 2, true, false⟩]
    data := [9] }

/-- An empty token account of the authority at 2. -/
def closable : KeyedAccount :=
  .new (.filled 1) 5 splTokenId
    (Layout.tokenAccount.write
      { mint := .filled 3
        owner := .filled 2
        amount := 0
        delegate := none
        state := .initialized
        isNative := none
        delegatedAmount := 0
        closeAuthority := none }
      (List.replicate 165 0))
    false

/-- The authority signed, and the handler does not see it. -/
theorem closing_to_the_authority_fails :
    SomeSigner closeToAuthorityIx.accounts (.filled 2) ∧
      ¬ OrderFree closeToAuthorityIx.accounts (.filled 2) ∧
      ∃ result svm',
        ((HopperSvm.new Creation.idleCrates).withSplTokenSimulator
            splCodec).processInstruction
            closeToAuthorityIx
            [closable, .new (.filled 2) 1 systemProgramId [] false] =
          some (result, svm') ∧
        result.outcome.error = some (.accountNotSigner (.filled 2)) := by
  refine ⟨?_, ?_, _, _, rfl, rfl⟩
  · exact
      ⟨⟨.filled 2, true, false⟩, by decide, rfl, rfl⟩
  · intro free
    have passes :=
      (free.signer (bareContext closeToAuthorityIx.accounts) bareState
          rfl).mpr
        ⟨⟨.filled 2, true, false⟩, by decide, rfl, rfl⟩
    rw [requireSigner_iff_first] at passes
    exact absurd passes (by decide)

end Hopper
