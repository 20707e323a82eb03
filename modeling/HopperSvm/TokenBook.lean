import HopperSvm.Ledger
import HopperSvm.TokenEffects

/-!
The accounts of the token program, read as the book of a circulation: mints
issue, token accounts hold.  The supplies of an account list are backed when
its book is.  The slots of an instruction are written back in order, the
last one at an address winning, so of two rewritten slots the book may get
both, one or neither.
-/

namespace Hopper

open BuiltinEngine Circulation Function

variable {codec : TokenCodec}

/-- The amount of the mint's tokens in an account of the token program. -/
def amountIn (codec : TokenCodec) (mint : Pubkey)
    (account : KeyedAccount) : ℕ :=
  if account.owner = splTokenId then
    match codec.account.unpack account.data with
    | .ok token => if token.mint = mint then token.amount.toNat else 0
    | .error _ => 0
  else
    0

/-- For every mint of the token program, the amounts in its accounts add up
to its supply. -/
def SupplyBacked (codec : TokenCodec) (accounts : List KeyedAccount) :
    Prop :=
  ∀ account ∈ accounts, ∀ mint, account.owner = splTokenId →
    codec.mint.unpack account.data = .ok mint →
      (accounts.map (amountIn codec account.address)).sum =
        mint.supply.toNat

/-- The token book of a ledger. -/
def bookOf (codec : TokenCodec) (programId : Pubkey) (ledger : Ledger) :
    Book Pubkey :=
  fun address =>
    (ledger address).elim .vacant (entryOf codec programId)

section Books

variable {programId : Pubkey} {ledger : Ledger}

theorem bookOf_of_found {address : Pubkey} {account : KeyedAccount}
    (found : ledger address = some account) :
    bookOf codec programId ledger address =
      entryOf codec programId account := by
  rw [bookOf, found, Option.elim_some]

theorem bookOf_update (address : Pubkey) (account : KeyedAccount) :
    bookOf codec programId (update ledger address (some account)) =
      update (bookOf codec programId ledger) address
        (entryOf codec programId account) := by
  funext other
  exact
    apply_update
      (fun _ found => Option.elim found .vacant (entryOf codec programId))
      ledger address (some account) other

/-- A rewritten slot reaches the book unless its address comes again. -/
theorem bookOf_writeBack_cons {slot slot' : KeyedAccount}
    {entry : Entry Pubkey}
    (becomes : Becomes codec programId slot slot' entry)
    (slots : List KeyedAccount) :
    bookOf codec programId (writeBack ledger (slot' :: slots)) =
      if slot.address ∈ addresses slots then
        bookOf codec programId (writeBack ledger slots)
      else
        update (bookOf codec programId (writeBack ledger slots))
          slot.address entry := by
  rw [writeBack_cons, becomes.sameAddress]
  split
  · rfl
  · rw [bookOf_update, becomes.entry_eq]

/-- A slot rewritten to what it was leaves the book alone. -/
theorem bookOf_writeBack_same {slot slot' : KeyedAccount}
    {slots : List KeyedAccount}
    (same : Becomes codec programId slot slot'
      (entryOf codec programId slot))
    (clone : ledger slot.address = some slot)
    (rest : bookOf codec programId (writeBack ledger slots) =
      bookOf codec programId ledger) :
    bookOf codec programId (writeBack ledger (slot' :: slots)) =
      bookOf codec programId ledger := by
  rw [bookOf_writeBack_cons same, rest]
  split
  · rfl
  · rw [← bookOf_of_found clone, update_eq_self]

section Slots

variable {first first' second second' : KeyedAccount}
  {rest : List KeyedAccount} {entry entry' : Entry Pubkey}

theorem bookOf_writeBack_first
    (becomes : Becomes codec programId first first' entry)
    (clones : ∀ slot ∈ rest, ledger slot.address = some slot) :
    bookOf codec programId (writeBack ledger (first' :: rest)) =
      if first.address ∈ addresses rest then
        bookOf codec programId ledger
      else
        update (bookOf codec programId ledger) first.address entry := by
  rw [bookOf_writeBack_cons becomes, writeBack_clones clones]

/-- Two slots rewritten to what they were. -/
theorem bookOf_writeBack_unchanged
    (same : Becomes codec programId first first'
      (entryOf codec programId first))
    (same' : Becomes codec programId second second'
      (entryOf codec programId second))
    (clone : ledger first.address = some first)
    (clone' : ledger second.address = some second)
    (clones : ∀ slot ∈ rest, ledger slot.address = some slot) :
    bookOf codec programId (writeBack ledger (first' :: second' :: rest)) =
      bookOf codec programId ledger := by
  apply bookOf_writeBack_same same clone
  apply bookOf_writeBack_same same' clone'
  rw [writeBack_clones clones]

/-- Clones of one address are equal, so two entries tell addresses
apart. -/
theorem apart_of_entries (clone : ledger first.address = some first)
    (clone' : ledger second.address = some second)
    (different : entryOf codec programId first ≠
      entryOf codec programId second) :
    first.address ≠ second.address := by
  intro sameAddress
  rw [sameAddress, clone', Option.some.injEq] at clone
  rw [clone] at different
  exact different rfl

/-- Two rewritten slots whose addresses both come again. -/
theorem bookOf_writeBack_dropped
    (becomes : Becomes codec programId first first' entry)
    (becomes' : Becomes codec programId second second' entry')
    (clones : ∀ slot ∈ rest, ledger slot.address = some slot)
    (firstAgain : first.address ∈ addresses rest)
    (secondAgain : second.address ∈ addresses rest) :
    bookOf codec programId (writeBack ledger (first' :: second' :: rest)) =
      bookOf codec programId ledger := by
  have again : first.address ∈ addresses (second' :: rest) :=
    List.mem_cons_of_mem _ firstAgain
  rw [bookOf_writeBack_cons becomes, if_pos again,
    bookOf_writeBack_first becomes' clones, if_pos secondAgain]

/-- Of two rewritten slots the address of the second alone comes again. -/
theorem bookOf_writeBack_first_alone
    (becomes : Becomes codec programId first first' entry)
    (becomes' : Becomes codec programId second second' entry')
    (clones : ∀ slot ∈ rest, ledger slot.address = some slot)
    (firstLast : first.address ∉ addresses rest)
    (secondAgain : second.address ∈ addresses rest) :
    bookOf codec programId (writeBack ledger (first' :: second' :: rest)) =
      update (bookOf codec programId ledger) first.address entry := by
  have last : first.address ∉ addresses (second' :: rest) := by
    rw [addresses, List.map_cons, becomes'.sameAddress, List.mem_cons]
    intro member
    rcases member with same | again
    · rw [same] at firstLast
      exact firstLast secondAgain
    · exact firstLast again
  rw [bookOf_writeBack_cons becomes, if_neg last,
    bookOf_writeBack_first becomes' clones, if_pos secondAgain]

/-- The second of two rewritten slots is written over the first. -/
theorem bookOf_writeBack_second_alone
    (becomes : Becomes codec programId first first' entry)
    (becomes' : Becomes codec programId second second' entry')
    (clones : ∀ slot ∈ rest, ledger slot.address = some slot)
    (firstAgain :
      first.address = second.address ∨ first.address ∈ addresses rest)
    (secondLast : second.address ∉ addresses rest) :
    bookOf codec programId (writeBack ledger (first' :: second' :: rest)) =
      update (bookOf codec programId ledger) second.address entry' := by
  have again : first.address ∈ addresses (second' :: rest) := by
    rw [addresses, List.map_cons, becomes'.sameAddress, List.mem_cons]
    exact firstAgain
  rw [bookOf_writeBack_cons becomes, if_pos again,
    bookOf_writeBack_first becomes' clones, if_neg secondLast]

/-- Two rewritten slots of different addresses that do not come again. -/
theorem bookOf_writeBack_pair
    (becomes : Becomes codec programId first first' entry)
    (becomes' : Becomes codec programId second second' entry')
    (clones : ∀ slot ∈ rest, ledger slot.address = some slot)
    (apart : first.address ≠ second.address)
    (firstLast : first.address ∉ addresses rest)
    (secondLast : second.address ∉ addresses rest) :
    bookOf codec programId (writeBack ledger (first' :: second' :: rest)) =
      update (update (bookOf codec programId ledger) first.address entry)
        second.address entry' := by
  have last : first.address ∉ addresses (second' :: rest) := by
    rw [addresses, List.map_cons, becomes'.sameAddress, List.mem_cons]
    exact not_or.mpr ⟨apart, firstLast⟩
  rw [bookOf_writeBack_cons becomes, if_neg last,
    bookOf_writeBack_first becomes' clones, if_neg secondLast,
    update_comm apart]

/-- When the addresses of two rewritten slots come again both or neither,
both are in the book or neither is. -/
theorem bookOf_writeBack_together
    (becomes : Becomes codec programId first first' entry)
    (becomes' : Becomes codec programId second second' entry')
    (clones : ∀ slot ∈ rest, ledger slot.address = some slot)
    (apart : first.address ≠ second.address)
    (together :
      first.address ∈ addresses rest ↔ second.address ∈ addresses rest) :
    bookOf codec programId (writeBack ledger (first' :: second' :: rest)) =
        bookOf codec programId ledger ∨
      bookOf codec programId
          (writeBack ledger (first' :: second' :: rest)) =
        update (update (bookOf codec programId ledger) first.address entry)
          second.address entry' := by
  by_cases again : first.address ∈ addresses rest
  · left
    exact
      bookOf_writeBack_dropped becomes becomes' clones again
        (together.mp again)
  · right
    have last : second.address ∉ addresses rest :=
      fun secondAgain => again (together.mpr secondAgain)
    exact bookOf_writeBack_pair becomes becomes' clones apart again last

end Slots

theorem amountIn_eq (mint : Pubkey) (account : KeyedAccount) :
    amountIn codec mint account =
      (entryOf codec splTokenId account).amountOf mint := by
  unfold amountIn
  split
  · rename_i owned
    cases asToken : codec.account.unpack account.data with
    | ok token =>
        rw [entryOf_of_token owned asToken, Entry.amountOf_holding]
    | error err =>
        rw [entryOf, if_pos owned, asToken]
        cases codec.mint.unpack account.data with
        | ok mint =>
            rfl
        | error err =>
            rfl
  · rename_i foreign
    rw [entryOf_of_foreign foreign, Entry.amountOf_vacant]

theorem entryOf_eq_issuer {account : KeyedAccount} {supply : ℕ} :
    entryOf codec programId account = .issuer supply ↔
      account.owner = programId ∧
        ∃ mint, codec.mint.unpack account.data = .ok mint ∧
          mint.supply.toNat = supply := by
  constructor
  · intro issues
    unfold entryOf at issues
    split at issues
    · rename_i owned
      split at issues
      · rename_i mint unpacked
        exact ⟨owned, mint, unpacked, Entry.issuer.inj issues⟩
      · split at issues <;> cases issues
    · cases issues
  · rintro ⟨owned, mint, unpacked, rfl⟩
    exact entryOf_of_mint owned unpacked

/-- The book sums what the list sums. -/
theorem outstanding_bookOf {accounts : List KeyedAccount}
    (distinct : (addresses accounts).Nodup) (mint : Pubkey) :
    outstanding (addresses accounts).toFinset
        (bookOf codec splTokenId (ledgerOf accounts)) mint =
      (accounts.map (amountIn codec mint)).sum := by
  rw [outstanding, List.sum_toFinset _ distinct, addresses, List.map_map]
  congr 1
  apply List.map_congr_left
  intro account member
  have found : ledgerOf accounts account.address = some account :=
    KeyedList.lookup_of_mem KeyedAccount.address distinct member
  rw [amountIn_eq, comp_apply, bookOf_of_found found]

/-- On distinct addresses the supplies are backed when the book is. -/
theorem supplyBacked_iff {accounts : List KeyedAccount}
    (distinct : (addresses accounts).Nodup) :
    SupplyBacked codec accounts ↔
      Backed (addresses accounts).toFinset
        (bookOf codec splTokenId (ledgerOf accounts)) := by
  constructor
  · intro supplies issuer supply issues
    cases found : ledgerOf accounts issuer with
    | none =>
        rw [bookOf, found] at issues
        cases issues
    | some account =>
        rw [bookOf_of_found found] at issues
        obtain ⟨owned, mint, unpacked, rfl⟩ :=
          entryOf_eq_issuer.mp issues
        have listed : account ∈ accounts :=
          KeyedList.mem_of_lookup KeyedAccount.address found
        rw [outstanding_bookOf distinct, ← address_of_ledgerOf found]
        exact supplies account listed mint owned unpacked
  · intro backed account member mint owned unpacked
    have found : ledgerOf accounts account.address = some account :=
      KeyedList.lookup_of_mem KeyedAccount.address distinct member
    rw [← outstanding_bookOf distinct]
    apply backed
    rw [bookOf_of_found found]
    exact entryOf_of_mint owned unpacked

end Books

end Hopper
