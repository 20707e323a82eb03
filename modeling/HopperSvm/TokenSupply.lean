import HopperSvm.Dispatch
import HopperSvm.TokenBook

/-!
An instruction whose repeated metas drop one of its two writes, or whose
first account's tokens an initialisation forgets, breaks the balance between
a mint's supply and the amounts in its accounts; `Careful` excludes exactly
these.  Every other dispatch changes the token book as `Circulation.Step`
allows, so a run of careful dispatches keeps the supplies.
-/

namespace Hopper

open BuiltinEngine Circulation Function

variable {codec : TokenCodec}

section Careful

variable (codec : TokenCodec) (ledger : Ledger)

/-- The address already holds a mint, which the program will not initialise
again. -/
def HoldsMint (address : Pubkey) : Prop :=
  ∃ account mint, ledger address = some account ∧
    codec.mint.unpack account.data = .ok mint

/-- The address already holds an open token account, which the program will
not initialise again. -/
def HoldsOpenAccount (address : Pubkey) : Prop :=
  ∃ account token, ledger address = some account ∧
    codec.account.unpack account.data = .ok token ∧
      token.state = .initialized

/-- The condition on an instruction's tag, body and meta addresses. -/
def CarefulAt (programId : Pubkey) :
    ℕ → List UInt8 → List Pubkey → Prop
  -- `InitializeMint` starts at supply zero over any data but a mint's.
  | 0, _, first :: rest =>
      first ∈ rest ∨ HoldsMint codec ledger first ∨
        Dormant (bookOf codec programId ledger) first ∧
          Unheld (bookOf codec programId ledger) first
  -- `InitializeAccount` empties an account that is frozen.
  | 1, _, first :: rest =>
      first ∈ rest ∨ HoldsOpenAccount codec ledger first ∨
        Dormant (bookOf codec programId ledger) first
  -- A later clone puts the old account back over the debit or the credit;
  -- of a transfer to itself only the credit is left.  Tokens of no
  -- initialised mint are in no sum.
  | 3, body, source :: destination :: rest =>
      amountField body = 0 ∨ source ∈ rest ∧ destination ∈ rest ∨
        source ≠ destination ∧ source ∉ rest ∧ destination ∉ rest ∨
          Dormant (bookOf codec programId ledger) source
  | 7, body, mint :: destination :: rest =>
      amountField body = 0 ∨ (mint ∈ rest ↔ destination ∈ rest)
  | 8, body, source :: mint :: rest =>
      amountField body = 0 ∨ (source ∈ rest ↔ mint ∈ rest)
  | _, _, _ => True

end Careful

/-- The instruction keeps the balance on these accounts. -/
def Careful (codec : TokenCodec) (accounts : List KeyedAccount)
    (ix : Instruction) : Prop :=
  ∀ tag body, ix.data = tag :: body →
    CarefulAt codec (ledgerOf accounts) ix.programId tag.toNat body
      (ix.accounts.map AccountMeta.pubkey)

section Effects

variable {programId : Pubkey} {ledger : Ledger} {keys : Finset Pubkey}
  {body : List UInt8} {rest : List KeyedAccount}

theorem initializeMint_step {first first' : KeyedAccount}
    (uninitialized : ∀ mint, codec.mint.unpack first.data ≠ .ok mint)
    (issues : Becomes codec programId first first' (.issuer 0))
    (careful :
      CarefulAt codec ledger programId 0 body (addresses (first :: rest)))
    (clone : ledger first.address = some first)
    (clones : ∀ slot ∈ rest, ledger slot.address = some slot)
    (member : first.address ∈ keys) :
    Step keys (bookOf codec programId ledger)
      (bookOf codec programId (writeBack ledger (first' :: rest))) := by
  rw [bookOf_writeBack_first issues clones]
  split
  · exact .idle
  · rename_i notAgain
    rcases careful with again | ⟨account, mint, found, unpacked⟩ |
      ⟨dormant, unheld⟩
    · exact absurd again notAgain
    · rw [clone, Option.some.injEq] at found
      subst found
      exact absurd unpacked (uninitialized mint)
    · exact .issue member dormant unheld

theorem initializeAccount_step {first first' : KeyedAccount}
    {issuer : Pubkey}
    (uninitialized : ∀ token,
      codec.account.unpack first.data = .ok token →
        token.state ≠ .initialized)
    (holds : Becomes codec programId first first' (.holding issuer 0))
    (careful :
      CarefulAt codec ledger programId 1 body (addresses (first :: rest)))
    (clone : ledger first.address = some first)
    (clones : ∀ slot ∈ rest, ledger slot.address = some slot)
    (member : first.address ∈ keys) :
    Step keys (bookOf codec programId ledger)
      (bookOf codec programId (writeBack ledger (first' :: rest))) := by
  rw [bookOf_writeBack_first holds clones]
  split
  · exact .idle
  · rename_i notAgain
    rcases careful with again | ⟨account, token, found, unpacked, opened⟩ |
      dormant
    · exact absurd again notAgain
    · rw [clone, Option.some.injEq] at found
      subst found
      exact absurd opened (uninitialized token unpacked)
    · refine .clear member dormant ?_ ?_
      · intro other supply _
        rw [Entry.amountOf_holding, ite_self]
      · intro supply issues
        cases issues

/-- Of tokens in no supply any of the two writes may be lost. -/
theorem transfer_unissued {source source' destination destination' :
      KeyedAccount} {issuer : Pubkey} {sentFrom left held got : ℕ}
    (sends : entryOf codec programId source = .holding issuer sentFrom)
    (receives : entryOf codec programId destination =
      .holding issuer held)
    (sent : Becomes codec programId source source'
      (.holding issuer left))
    (received : Becomes codec programId destination destination'
      (.holding issuer got))
    (unissued : ∀ supply,
      bookOf codec programId ledger issuer ≠ .issuer supply)
    (clones : ∀ slot ∈ source :: destination :: rest,
      ledger slot.address = some slot)
    (present : ∀ slot ∈ source :: destination :: rest,
      slot.address ∈ keys) :
    Relation.ReflTransGen (Step keys) (bookOf codec programId ledger)
      (bookOf codec programId
        (writeBack ledger (source' :: destination' :: rest))) := by
  simp only [List.forall_mem_cons] at clones present
  rcases clones with ⟨cloneSource, cloneDestination, clones⟩
  rcases present with ⟨fromKeys, toKeys, _⟩
  rw [← bookOf_of_found cloneSource] at sends
  rw [← bookOf_of_found cloneDestination] at receives
  have credit := Step.unissued toKeys receives unissued got
  rw [bookOf_writeBack_cons sent, bookOf_writeBack_first received clones]
  split
  · split
    · exact .refl
    · exact .single credit
  · rename_i sourceLast
    split
    · exact .single (.unissued fromKeys sends unissued left)
    · have apart : source.address ≠ destination.address := by
        rw [addresses, List.map_cons, received.sameAddress] at sourceLast
        exact List.ne_of_not_mem_cons sourceLast
      rw [← update_of_ne apart (.holding issuer got)
        (bookOf codec programId ledger)] at sends
      refine .tail (.single credit) (.unissued fromKeys sends ?_ left)
      intro supply issues
      by_cases same : issuer = destination.address
      · rw [same, update_self] at issues
        cases issues
      · rw [update_of_ne same] at issues
        exact unissued supply issues

theorem transfer_steps {source source' destination destination' :
      KeyedAccount} {issuer : Pubkey} {left held : ℕ}
    (sends : entryOf codec programId source =
      .holding issuer (left + (amountField body).toNat))
    (receives : entryOf codec programId destination =
      .holding issuer held)
    (sent : Becomes codec programId source source'
      (.holding issuer left))
    (got : Becomes codec programId destination destination'
      (.holding issuer (held + (amountField body).toNat)))
    (careful :
      CarefulAt codec ledger programId 3 body
        (addresses (source :: destination :: rest)))
    (clones : ∀ slot ∈ source :: destination :: rest,
      ledger slot.address = some slot)
    (present : ∀ slot ∈ source :: destination :: rest,
      slot.address ∈ keys) :
    Relation.ReflTransGen (Step keys) (bookOf codec programId ledger)
      (bookOf codec programId
        (writeBack ledger (source' :: destination' :: rest))) := by
  have found := clones
  simp only [List.forall_mem_cons] at found
  rcases found with ⟨cloneSource, cloneDestination, others⟩
  by_cases nothing : amountField body = 0
  -- Both accounts are packed as they were.
  · have zero : (amountField body).toNat = 0 :=
      congrArg UInt64.toNat nothing
    rw [zero, Nat.add_zero] at sends got
    rw [← sends] at sent
    rw [← receives] at got
    rw [bookOf_writeBack_unchanged sent got cloneSource cloneDestination
      others]
  · rcases careful with zero | ⟨sourceAgain, destinationAgain⟩ |
      ⟨apart, sourceLast, destinationLast⟩ | dormant
    · exact absurd zero nothing
    · rw [bookOf_writeBack_dropped sent got others sourceAgain
        destinationAgain]
    · rw [bookOf_writeBack_pair sent got others apart sourceLast
        destinationLast]
      rw [← bookOf_of_found cloneSource] at sends
      rw [← bookOf_of_found cloneDestination] at receives
      simp only [List.forall_mem_cons] at present
      rcases present with ⟨fromKeys, toKeys, _⟩
      exact .single (.move fromKeys toKeys apart sends receives)
    · have positive : left + (amountField body).toNat ≠ 0 := by
        have amount : (amountField body).toNat ≠ 0 :=
          fun zero => nothing (UInt64.toNat.inj zero)
        omega
      have holds := sends
      rw [← bookOf_of_found cloneSource] at holds
      have unissued := (dormant_holding_iff holds positive).mp dormant
      exact
        transfer_unissued sends receives sent got unissued clones present

theorem mintTo_step {mint mint' destination destination' : KeyedAccount}
    {supply held : ℕ}
    (issues : entryOf codec programId mint = .issuer supply)
    (receives : entryOf codec programId destination =
      .holding mint.address held)
    (issued : Becomes codec programId mint mint'
      (.issuer (supply + (amountField body).toNat)))
    (got : Becomes codec programId destination destination'
      (.holding mint.address (held + (amountField body).toNat)))
    (careful :
      CarefulAt codec ledger programId 7 body
        (addresses (mint :: destination :: rest)))
    (clones : ∀ slot ∈ mint :: destination :: rest,
      ledger slot.address = some slot)
    (present : ∀ slot ∈ mint :: destination :: rest,
      slot.address ∈ keys) :
    Step keys (bookOf codec programId ledger)
      (bookOf codec programId
        (writeBack ledger (mint' :: destination' :: rest))) := by
  simp only [List.forall_mem_cons] at clones present
  rcases clones with ⟨cloneMint, cloneDestination, clones⟩
  rcases present with ⟨_, toKeys, _⟩
  have apart : mint.address ≠ destination.address := by
    apply apart_of_entries cloneMint cloneDestination
    rw [issues, receives]
    intro same
    cases same
  rcases careful with nothing | sameAgain
  · have zero : (amountField body).toNat = 0 :=
      congrArg UInt64.toNat nothing
    rw [zero, Nat.add_zero] at issued got
    rw [← issues] at issued
    rw [← receives] at got
    rw [bookOf_writeBack_unchanged issued got cloneMint cloneDestination
      clones]
    exact .idle
  · rcases bookOf_writeBack_together issued got clones apart sameAgain with
      dropped | kept
    · rw [dropped]
      exact .idle
    · rw [kept]
      rw [← bookOf_of_found cloneMint] at issues
      rw [← bookOf_of_found cloneDestination] at receives
      exact .mint toKeys issues receives

theorem burn_step {source source' mint mint' : KeyedAccount}
    {supply left : ℕ}
    (sends : entryOf codec programId source =
      .holding mint.address (left + (amountField body).toNat))
    (issues : entryOf codec programId mint = .issuer supply)
    (sent : Becomes codec programId source source'
      (.holding mint.address left))
    (burned : Becomes codec programId mint mint'
      (.issuer (supply - (amountField body).toNat)))
    (careful :
      CarefulAt codec ledger programId 8 body
        (addresses (source :: mint :: rest)))
    (clones : ∀ slot ∈ source :: mint :: rest,
      ledger slot.address = some slot)
    (present : ∀ slot ∈ source :: mint :: rest, slot.address ∈ keys) :
    Step keys (bookOf codec programId ledger)
      (bookOf codec programId
        (writeBack ledger (source' :: mint' :: rest))) := by
  simp only [List.forall_mem_cons] at clones present
  rcases clones with ⟨cloneSource, cloneMint, clones⟩
  rcases present with ⟨fromKeys, _, _⟩
  have apart : source.address ≠ mint.address := by
    apply apart_of_entries cloneSource cloneMint
    rw [sends, issues]
    intro same
    cases same
  rcases careful with nothing | sameAgain
  · have zero : (amountField body).toNat = 0 :=
      congrArg UInt64.toNat nothing
    rw [zero, Nat.add_zero] at sends
    rw [zero, Nat.sub_zero] at burned
    rw [← sends] at sent
    rw [← issues] at burned
    rw [bookOf_writeBack_unchanged sent burned cloneSource cloneMint
      clones]
    exact .idle
  · rcases bookOf_writeBack_together sent burned clones apart sameAgain
      with dropped | kept
    · rw [dropped]
      exact .idle
    · rw [kept]
      rw [← bookOf_of_found cloneSource] at sends
      rw [← bookOf_of_found cloneMint] at issues
      exact .burn fromKeys issues sends

theorem closeAccount_step {closed closed' destination destination' :
      KeyedAccount} {issuer : Pubkey}
    (emptied : entryOf codec programId closed = .holding issuer 0)
    (gone : Becomes codec programId closed closed' .vacant)
    (keeps : Becomes codec programId destination destination'
      (entryOf codec programId destination))
    (clones : ∀ slot ∈ closed :: destination :: rest,
      ledger slot.address = some slot)
    (member : closed.address ∈ keys) :
    Step keys (bookOf codec programId ledger)
      (bookOf codec programId
        (writeBack ledger (closed' :: destination' :: rest))) := by
  simp only [List.forall_mem_cons] at clones
  rcases clones with ⟨cloneClosed, cloneDestination, clones⟩
  have others :
      bookOf codec programId (writeBack ledger (destination' :: rest)) =
        bookOf codec programId ledger := by
    apply bookOf_writeBack_same keeps cloneDestination
    rw [writeBack_clones clones]
  rw [bookOf_writeBack_cons gone, others]
  split
  · exact .idle
  · refine .clear member ?_ ?_ ?_
    · intro other supply _
      rw [bookOf_of_found cloneClosed, emptied, Entry.amountOf_holding,
        ite_self]
    · intro other supply _
      rfl
    · intro supply issues
      cases issues

/-- An accepted, careful instruction changes the book as the abstract
program may. -/
theorem TokenEffect.steps {tag : ℕ} {received slots : List KeyedAccount}
    (effect : TokenEffect codec programId tag body received slots)
    (careful :
      CarefulAt codec ledger programId tag body (addresses received))
    (clones : ∀ slot ∈ received, ledger slot.address = some slot)
    (present : ∀ slot ∈ received, slot.address ∈ keys) :
    Relation.ReflTransGen (Step keys) (bookOf codec programId ledger)
      (bookOf codec programId (writeBack ledger slots)) := by
  cases effect with
  | initializeMint uninitialized issues =>
      rcases List.forall_mem_cons.mp clones with ⟨clone, clones⟩
      rcases List.forall_mem_cons.mp present with ⟨member, _⟩
      exact
        .single
          (initializeMint_step uninitialized issues careful clone clones
            member)
  | initializeAccount uninitialized holds =>
      rcases List.forall_mem_cons.mp clones with ⟨clone, clones⟩
      rcases List.forall_mem_cons.mp present with ⟨member, _⟩
      exact
        .single
          (initializeAccount_step uninitialized holds careful clone clones
            member)
  | delegate _ keeps =>
      rcases List.forall_mem_cons.mp clones with ⟨clone, clones⟩
      rw [bookOf_writeBack_same keeps clone
        (by rw [writeBack_clones clones])]
  | transfer sends receives sent got =>
      exact transfer_steps sends receives sent got careful clones present
  | mintTo issues receives issued got =>
      exact
        .single
          (mintTo_step issues receives issued got careful clones present)
  | burn sends issues sent burned =>
      exact
        .single (burn_step sends issues sent burned careful clones present)
  | closeAccount emptied gone keeps =>
      rcases List.forall_mem_cons.mp present with ⟨member, _⟩
      exact .single (closeAccount_step emptied gone keeps clones member)

end Effects

/-! ## Only careful effects keep the balance -/

section Exact

variable {programId : Pubkey} {ledger : Ledger} {keys : Finset Pubkey}
  {body : List UInt8} {rest : List KeyedAccount}

theorem initializeMint_careful {first first' : KeyedAccount}
    (issues : Becomes codec programId first first' (.issuer 0))
    (backed : Backed keys (bookOf codec programId ledger))
    (still :
      Backed keys
        (bookOf codec programId (writeBack ledger (first' :: rest))))
    (clones : ∀ slot ∈ rest, ledger slot.address = some slot)
    (member : first.address ∈ keys)
    (outside : ∀ address, address ∉ keys → ledger address = none) :
    CarefulAt codec ledger programId 0 body
      (addresses (first :: rest)) := by
  by_cases again : first.address ∈ addresses rest
  · exact Or.inl again
  · rw [bookOf_writeBack_first issues clones, if_neg again] at still
    refine Or.inr (Or.inr ⟨?_, ?_⟩)
    · exact backed.dormant_of_update member still fun _ => rfl
    · intro key apart
      by_cases inside : key ∈ keys
      · obtain ⟨_, ownSupply⟩ := (backed_update_iff backed member).mp still
        have unheld := outstanding_issuer_eq_zero_iff.mp (ownSupply 0 rfl)
        exact unheld key inside apart
      · rw [bookOf, outside key inside]
        rfl

theorem initializeAccount_careful {first first' : KeyedAccount}
    {issuer : Pubkey}
    (holds : Becomes codec programId first first' (.holding issuer 0))
    (backed : Backed keys (bookOf codec programId ledger))
    (still :
      Backed keys
        (bookOf codec programId (writeBack ledger (first' :: rest))))
    (clones : ∀ slot ∈ rest, ledger slot.address = some slot)
    (member : first.address ∈ keys) :
    CarefulAt codec ledger programId 1 body
      (addresses (first :: rest)) := by
  by_cases again : first.address ∈ addresses rest
  · exact Or.inl again
  · rw [bookOf_writeBack_first holds clones, if_neg again] at still
    refine Or.inr (Or.inr ?_)
    apply backed.dormant_of_update member still
    intro other
    rw [Entry.amountOf_holding, ite_self]

theorem transfer_careful {source source' destination destination' :
      KeyedAccount} {issuer : Pubkey} {left held : ℕ}
    (sends : entryOf codec programId source =
      .holding issuer (left + (amountField body).toNat))
    (receives : entryOf codec programId destination =
      .holding issuer held)
    (sent : Becomes codec programId source source'
      (.holding issuer left))
    (got : Becomes codec programId destination destination'
      (.holding issuer (held + (amountField body).toNat)))
    (backed : Backed keys (bookOf codec programId ledger))
    (still :
      Backed keys
        (bookOf codec programId
          (writeBack ledger (source' :: destination' :: rest))))
    (clones : ∀ slot ∈ source :: destination :: rest,
      ledger slot.address = some slot)
    (present : ∀ slot ∈ source :: destination :: rest,
      slot.address ∈ keys) :
    CarefulAt codec ledger programId 3 body
      (addresses (source :: destination :: rest)) := by
  simp only [List.forall_mem_cons] at clones present
  rcases clones with ⟨cloneSource, cloneDestination, clones⟩
  rcases present with ⟨fromKeys, toKeys, _⟩
  rw [← bookOf_of_found cloneSource] at sends
  rw [← bookOf_of_found cloneDestination] at receives
  by_cases nothing : amountField body = 0
  · exact Or.inl nothing
  · have positive : (amountField body).toNat ≠ 0 :=
      fun zero => nothing (UInt64.toNat.inj zero)
    have dormant
        (unissued : ∀ supply,
          bookOf codec programId ledger issuer ≠ .issuer supply) :
        Dormant (bookOf codec programId ledger) source.address :=
      (dormant_holding_iff sends (by omega)).mpr unissued
    by_cases destinationAgain : destination.address ∈ addresses rest
    · by_cases sourceAgain : source.address ∈ addresses rest
      · exact Or.inr (Or.inl ⟨sourceAgain, destinationAgain⟩)
      -- The debit lands alone.
      · rw [bookOf_writeBack_first_alone sent got clones sourceAgain
          destinationAgain] at still
        have unissued :=
          backed.unissued_of_update fromKeys sends still (by omega)
        exact Or.inr (Or.inr (Or.inr (dormant unissued)))
    · by_cases sourceAgain :
        source.address = destination.address ∨
          source.address ∈ addresses rest
      -- The credit lands alone.
      · rw [bookOf_writeBack_second_alone sent got clones sourceAgain
          destinationAgain] at still
        have unissued :=
          backed.unissued_of_update toKeys receives still (by omega)
        exact Or.inr (Or.inr (Or.inr (dormant unissued)))
      · obtain ⟨apart, sourceLast⟩ := not_or.mp sourceAgain
        exact
          Or.inr (Or.inr (Or.inl ⟨apart, sourceLast, destinationAgain⟩))

theorem mintTo_careful {mint mint' destination destination' :
      KeyedAccount} {supply held : ℕ}
    (issues : entryOf codec programId mint = .issuer supply)
    (receives : entryOf codec programId destination =
      .holding mint.address held)
    (issued : Becomes codec programId mint mint'
      (.issuer (supply + (amountField body).toNat)))
    (got : Becomes codec programId destination destination'
      (.holding mint.address (held + (amountField body).toNat)))
    (backed : Backed keys (bookOf codec programId ledger))
    (still :
      Backed keys
        (bookOf codec programId
          (writeBack ledger (mint' :: destination' :: rest))))
    (clones : ∀ slot ∈ mint :: destination :: rest,
      ledger slot.address = some slot)
    (present : ∀ slot ∈ mint :: destination :: rest,
      slot.address ∈ keys) :
    CarefulAt codec ledger programId 7 body
      (addresses (mint :: destination :: rest)) := by
  simp only [List.forall_mem_cons] at clones present
  rcases clones with ⟨cloneMint, cloneDestination, clones⟩
  rcases present with ⟨_, toKeys, _⟩
  rw [← bookOf_of_found cloneMint] at issues
  rw [← bookOf_of_found cloneDestination] at receives
  by_cases nothing : amountField body = 0
  · exact Or.inl nothing
  · have positive : (amountField body).toNat ≠ 0 :=
      fun zero => nothing (UInt64.toNat.inj zero)
    refine Or.inr ⟨?_, ?_⟩
    · intro mintAgain
      by_contra destinationLast
      rw [bookOf_writeBack_second_alone issued got clones
        (Or.inr mintAgain) destinationLast] at still
      exact
        backed.unissued_of_update toKeys receives still (by omega) supply
          issues
    · intro destinationAgain
      by_contra mintLast
      rw [bookOf_writeBack_first_alone issued got clones mintLast
        destinationAgain] at still
      have same := backed.supply_of_update issues still
      omega

theorem burn_careful {source source' mint mint' : KeyedAccount}
    {supply left : ℕ}
    (sends : entryOf codec programId source =
      .holding mint.address (left + (amountField body).toNat))
    (issues : entryOf codec programId mint = .issuer supply)
    (sent : Becomes codec programId source source'
      (.holding mint.address left))
    (burned : Becomes codec programId mint mint'
      (.issuer (supply - (amountField body).toNat)))
    (backed : Backed keys (bookOf codec programId ledger))
    (still :
      Backed keys
        (bookOf codec programId
          (writeBack ledger (source' :: mint' :: rest))))
    (clones : ∀ slot ∈ source :: mint :: rest,
      ledger slot.address = some slot)
    (present : ∀ slot ∈ source :: mint :: rest, slot.address ∈ keys) :
    CarefulAt codec ledger programId 8 body
      (addresses (source :: mint :: rest)) := by
  simp only [List.forall_mem_cons] at clones present
  rcases clones with ⟨cloneSource, cloneMint, clones⟩
  rcases present with ⟨fromKeys, _, _⟩
  rw [← bookOf_of_found cloneSource] at sends
  rw [← bookOf_of_found cloneMint] at issues
  by_cases nothing : amountField body = 0
  · exact Or.inl nothing
  · have positive : (amountField body).toNat ≠ 0 :=
      fun zero => nothing (UInt64.toNat.inj zero)
    refine Or.inr ⟨?_, ?_⟩
    · intro sourceAgain
      by_contra mintLast
      rw [bookOf_writeBack_second_alone sent burned clones
        (Or.inr sourceAgain) mintLast] at still
      have same := backed.supply_of_update issues still
      have covered := backed.held_le fromKeys issues sends
      omega
    · intro mintAgain
      by_contra sourceLast
      rw [bookOf_writeBack_first_alone sent burned clones sourceLast
        mintAgain] at still
      exact
        backed.unissued_of_update fromKeys sends still (by omega) supply
          issues

/-- An accepted instruction that leaves a backed book backed is careful. -/
theorem TokenEffect.careful {tag : ℕ} {received slots : List KeyedAccount}
    (effect : TokenEffect codec programId tag body received slots)
    (backed : Backed keys (bookOf codec programId ledger))
    (still : Backed keys (bookOf codec programId (writeBack ledger slots)))
    (clones : ∀ slot ∈ received, ledger slot.address = some slot)
    (present : ∀ slot ∈ received, slot.address ∈ keys)
    (outside : ∀ address, address ∉ keys → ledger address = none) :
    CarefulAt codec ledger programId tag body (addresses received) := by
  cases effect with
  | initializeMint _ issues =>
      rcases List.forall_mem_cons.mp clones with ⟨_, clones⟩
      rcases List.forall_mem_cons.mp present with ⟨member, _⟩
      exact
        initializeMint_careful issues backed still clones member outside
  | initializeAccount _ holds =>
      rcases List.forall_mem_cons.mp clones with ⟨_, clones⟩
      rcases List.forall_mem_cons.mp present with ⟨member, _⟩
      exact initializeAccount_careful holds backed still clones member
  | delegate delegates _ =>
      rcases delegates with rfl | rfl <;> trivial
  | transfer sends receives sent got =>
      exact
        transfer_careful sends receives sent got backed still clones
          present
  | mintTo issues receives issued got =>
      exact
        mintTo_careful issues receives issued got backed still clones
          present
  | burn sends issues sent burned =>
      exact
        burn_careful sends issues sent burned backed still clones present
  | closeAccount _ _ _ =>
      trivial

end Exact

/-! ## Runs of the harness -/

theorem HopperSvm.withSplTokenSimulator_registered {svm : HopperSvm}
    (unclaimed : svm.agaveClaims splTokenId = false) :
    (svm.withSplTokenSimulator codec).Registered splTokenId
      (splTokenSimulator codec) :=
  ⟨unclaimed, by simp [withSplTokenSimulator, withBuiltin]⟩

/-- One instruction of the token program through some harness that has its
simulator registered; the harness may differ from one to the next. -/
structure TokenDispatch (codec : TokenCodec) (ix : Instruction)
    (before after : List KeyedAccount) : Prop where
  addressed : ix.programId = splTokenId
  dispatched : ∃ svm result svm',
    svm.Registered splTokenId (splTokenSimulator codec) ∧
      HopperSvm.processInstruction svm ix before = some (result, svm') ∧
        result.outcome.resultingAccounts = after

/-- A dispatch keeps the addresses; it changes nothing, or writes back what
an accepted instruction makes of clones of the accounts. -/
theorem TokenDispatch.effect {ix : Instruction}
    {before after : List KeyedAccount}
    (distinct : (addresses before).Nodup)
    (dispatch : TokenDispatch codec ix before after) :
    addresses after = addresses before ∧
      (after = before ∨
        ∃ tag body received slots,
          ix.data = tag :: body ∧
            addresses received = ix.accounts.map AccountMeta.pubkey ∧
              TokenEffect codec splTokenId tag.toNat body received slots ∧
                (∀ slot ∈ received,
                  ledgerOf before slot.address = some slot) ∧
                  ledgerOf after = writeBack (ledgerOf before) slots) := by
  rcases dispatch with ⟨addressed, svm, result, svm', registered, ran, rfl⟩
  rw [← addressed] at registered
  by_cases success : result.outcome.error = none
  · obtain ⟨received, state, succeeds, outcome, _⟩ :=
      HopperSvm.processInstruction_succeeded registered ran success
    have reached := succeeds.reached
    have invoked := reached.invoked
    rw [splTokenSimulator, invoke_ofRoutine] at invoked
    have notSystem : ix.programId ≠ systemProgramId := by
      rw [addressed]
      decide
    obtain ⟨tag, body, data_eq, effect⟩ :=
      SplToken.invoke_effect notSystem invoked
    rw [addressed] at effect
    have merged : result.outcome.resultingAccounts =
        mergeAccounts before state.accounts := by
      rw [outcome, succeeded]
    rw [merged, ledgerOf_mergeAccounts]
    have rewrites :=
      reached.rewrites BuiltinProgram.keepsAddresses_ofRoutine distinct
    exact
      ⟨rewrites.sameAddresses,
        Or.inr
          ⟨tag, body, received, state.accounts, data_eq,
            addresses_of_resolved reached.resolved, effect,
            fun _ member => findAccount_of_resolved reached.resolved member,
            rfl⟩⟩
  · rw [HopperSvm.processInstruction_failed_accounts ran success]
    exact ⟨rfl, Or.inl rfl⟩

/-- Clones of listed accounts have listed addresses. -/
theorem address_mem_of_clones {accounts received : List KeyedAccount}
    (clones : ∀ slot ∈ received,
      ledgerOf accounts slot.address = some slot) :
    ∀ slot ∈ received, slot.address ∈ (addresses accounts).toFinset := by
  intro slot member
  rw [List.mem_toFinset]
  exact
    KeyedList.mem_keys_of_lookup KeyedAccount.address (clones slot member)

/-- The next account list of a run whose instructions keep the balance. -/
def CarefulDispatch (codec : TokenCodec)
    (before after : List KeyedAccount) : Prop :=
  ∃ ix, TokenDispatch codec ix before after ∧ Careful codec before ix

/-- A careful dispatch keeps the addresses and changes the token book as
the abstract program may. -/
theorem CarefulDispatch.steps {before after : List KeyedAccount}
    (distinct : (addresses before).Nodup)
    (dispatch : CarefulDispatch codec before after) :
    addresses after = addresses before ∧
      Relation.ReflTransGen (Step (addresses before).toFinset)
        (bookOf codec splTokenId (ledgerOf before))
        (bookOf codec splTokenId (ledgerOf after)) := by
  rcases dispatch with ⟨ix, dispatch, careful⟩
  have addressed := dispatch.addressed
  obtain ⟨sameAddresses, rfl | ⟨tag, body, received, slots, data_eq,
    named, effect, clones, written⟩⟩ := dispatch.effect distinct
  · exact ⟨rfl, .refl⟩
  · have careful := careful tag body data_eq
    rw [addressed, ← named] at careful
    rw [written]
    exact
      ⟨sameAddresses,
        effect.steps careful clones (address_mem_of_clones clones)⟩

/-- Careful runs are runs of the abstract book. -/
theorem steps_of_run {before after : List KeyedAccount}
    (distinct : (addresses before).Nodup)
    (run : Relation.ReflTransGen (CarefulDispatch codec) before after) :
    addresses after = addresses before ∧
      Relation.ReflTransGen (Step (addresses before).toFinset)
        (bookOf codec splTokenId (ledgerOf before))
        (bookOf codec splTokenId (ledgerOf after)) := by
  induction run with
  | refl =>
      exact ⟨rfl, .refl⟩
  | tail _ dispatch inductionHypothesis =>
      rcases inductionHypothesis with ⟨sameAddresses, steps⟩
      have distinct' := distinct
      rw [← sameAddresses] at distinct'
      obtain ⟨sameAddresses', further⟩ := dispatch.steps distinct'
      rw [sameAddresses] at sameAddresses' further
      exact ⟨sameAddresses', steps.trans further⟩

/-- Changes of the token book keep the supplies of the account lists
backed. -/
theorem SupplyBacked.of_steps {before after : List KeyedAccount}
    (backed : SupplyBacked codec before)
    (distinct : (addresses before).Nodup)
    (changes : addresses after = addresses before ∧
      Relation.ReflTransGen (Step (addresses before).toFinset)
        (bookOf codec splTokenId (ledgerOf before))
        (bookOf codec splTokenId (ledgerOf after))) :
    SupplyBacked codec after := by
  rcases changes with ⟨sameAddresses, steps⟩
  have distinct' := distinct
  rw [← sameAddresses] at distinct'
  rw [supplyBacked_iff distinct] at backed
  rw [supplyBacked_iff distinct', sameAddresses]
  exact backed_of_steps steps backed

/-- Supplies stay backed in every account list a careful run reaches. -/
theorem supplyBacked_of_run {before after : List KeyedAccount}
    (distinct : (addresses before).Nodup)
    (run : Relation.ReflTransGen (CarefulDispatch codec) before after)
    (backed : SupplyBacked codec before) :
    SupplyBacked codec after :=
  backed.of_steps distinct (steps_of_run distinct run)

/-- A dispatch on backed accounts leaves them backed exactly when it is
careful or changes nothing. -/
theorem TokenDispatch.backed_iff {ix : Instruction}
    {before after : List KeyedAccount}
    (distinct : (addresses before).Nodup)
    (dispatch : TokenDispatch codec ix before after)
    (backed : SupplyBacked codec before) :
    SupplyBacked codec after ↔
      after = before ∨ Careful codec before ix := by
  constructor
  · intro still
    have addressed := dispatch.addressed
    obtain ⟨sameAddresses, unchanged | ⟨tag, body, received, slots, data_eq,
      named, effect, clones, written⟩⟩ := dispatch.effect distinct
    · exact Or.inl unchanged
    · right
      intro tag' body' data_eq'
      obtain ⟨rfl, rfl⟩ := List.cons.inj (data_eq.symm.trans data_eq')
      have distinct' := distinct
      rw [← sameAddresses] at distinct'
      rw [supplyBacked_iff distinct] at backed
      rw [supplyBacked_iff distinct', sameAddresses, written]
        at still
      rw [addressed, ← named]
      apply effect.careful backed still clones
        (address_mem_of_clones clones)
      intro address absent
      rw [List.mem_toFinset] at absent
      exact (KeyedList.lookup_eq_none_iff KeyedAccount.address).mpr absent
  · rintro (rfl | careful)
    · exact backed
    · have carefully : CarefulDispatch codec before after :=
        ⟨ix, dispatch, careful⟩
      exact backed.of_steps distinct (carefully.steps distinct)

/-- A mint whose supply is ten. -/
def tenMint : Mint :=
  { mintAuthority := some (.filled 3)
    supply := 10
    decimals := 0
    isInitialized := true
    freezeAuthority := none }

/-- Tokens of that mint, owned by wallet 3. -/
def tokensOf (amount : UInt64) : TokenAccount :=
  { mint := .filled 1
    owner := .filled 3
    amount
    delegate := none
    state := .initialized
    isNative := none
    delegatedAmount := 0
    closeAuthority := none }

def tenMintAccount : KeyedAccount :=
  .new (.filled 1) 1 splTokenId
    (Layout.mint.write tenMint (List.replicate mintLen 0)) false

def holderOf (address : Pubkey) (amount : UInt64) : KeyedAccount :=
  .new address 1 splTokenId
    (Layout.tokenAccount.write (tokensOf amount)
      (List.replicate tokenAccountLen 0))
    false

def tokenWallet : KeyedAccount :=
  .new (.filled 3) 1 systemProgramId [] false

/-- The mint, two holders and their wallet. -/
def holdings (left right : UInt64) : List KeyedAccount :=
  [tenMintAccount, holderOf (.filled 2) left, holderOf (.filled 4) right,
    tokenWallet]

/-- Three tokens from the first holder. -/
def transferThree (destination : Pubkey) : Instruction :=
  { programId := splTokenId
    accounts :=
      [⟨.filled 2, false, true⟩, ⟨destination, false, true⟩,
        ⟨.filled 3, true, false⟩]
    data := 3 :: Bytes.leBytes 8 3 }

/-- A harness with nothing but the token program. -/
def tokenHarness : HopperSvm :=
  (HopperSvm.ofRegistry fun _ => none).withSplTokenSimulator splCodec

theorem unpack_tenMint :
    splCodec.mint.unpack tenMintAccount.data = .ok tenMint :=
  Pack.unpack_write rfl List.length_replicate

theorem unpack_holderOf (address : Pubkey) (amount : UInt64) :
    splCodec.account.unpack (holderOf address amount).data =
      .ok (tokensOf amount) :=
  Pack.unpack_write rfl List.length_replicate

theorem holdings_backed_iff (left right : UInt64) :
    SupplyBacked splCodec (holdings left right) ↔
      left.toNat + right.toNat = 10 := by
  have ofHolder (address : Pubkey) (amount : UInt64) :
      amountIn splCodec (.filled 1) (holderOf address amount) =
        amount.toNat := by
    rw [amountIn, unpack_holderOf]
    rfl
  have ofMint : amountIn splCodec (.filled 1) tenMintAccount = 0 := by
    have owned : tenMintAccount.owner = splTokenId := rfl
    rw [amountIn_eq, entryOf_of_mint owned unpack_tenMint]
    rfl
  have ofWallet : amountIn splCodec (.filled 1) tokenWallet = 0 :=
    if_neg (by decide)
  have sum :
      ((holdings left right).map (amountIn splCodec (.filled 1))).sum =
        left.toNat + right.toNat := by
    simp only [holdings, List.map_cons, List.map_nil, List.sum_cons,
      List.sum_nil, ofHolder, ofMint, ofWallet, Nat.zero_add,
      Nat.add_zero]
  constructor
  · intro backed
    rw [← sum]
    exact
      backed tenMintAccount List.mem_cons_self tenMint rfl unpack_tenMint
  · intro balanced account member mint owned unpacked
    simp only [holdings, List.mem_cons, List.not_mem_nil, or_false]
      at member
    rcases member with rfl | rfl | rfl | rfl
    · rw [unpack_tenMint] at unpacked
      cases unpacked
      exact sum.trans balanced
    · have notMint :=
        splCodec.unpack_mint_of_account (unpack_holderOf (.filled 2) left)
      exact absurd unpacked (notMint mint)
    · have notMint :=
        splCodec.unpack_mint_of_account (unpack_holderOf (.filled 4) right)
      exact absurd unpacked (notMint mint)
    · cases owned

set_option maxRecDepth 2000 in
theorem transferThree_dispatches :
    TokenDispatch splCodec (transferThree (.filled 4)) (holdings 10 0)
      (holdings 7 3) :=
  ⟨rfl, tokenHarness, _, _,
    HopperSvm.withSplTokenSimulator_registered rfl, rfl, rfl⟩

/-- Three tokens go from one holder to the other. -/
theorem supplyBacked_of_run_transfer :
    TokenDispatch splCodec (transferThree (.filled 4)) (holdings 10 0)
        (holdings 7 3) ∧
      SupplyBacked splCodec (holdings 7 3) := by
  have careful :
      Careful splCodec (holdings 10 0) (transferThree (.filled 4)) := by
    intro tag body data_eq
    cases data_eq
    exact Or.inr (Or.inr (Or.inl (by decide)))
  refine ⟨transferThree_dispatches, ?_⟩
  exact
    supplyBacked_of_run (by decide)
      (.single ⟨_, transferThree_dispatches, careful⟩)
      ((holdings_backed_iff 10 0).mpr rfl)

set_option maxRecDepth 2000 in
/-- Three tokens from a holder to itself leave it thirteen. -/
theorem self_transfer_unbacks_supply :
    (addresses (holdings 10 0)).Nodup ∧
      SupplyBacked splCodec (holdings 10 0) ∧
      TokenDispatch splCodec (transferThree (.filled 2)) (holdings 10 0)
        (holdings 13 0) ∧
      ¬ SupplyBacked splCodec (holdings 13 0) := by
  refine ⟨by decide, (holdings_backed_iff 10 0).mpr rfl, ?_, ?_⟩
  · exact
      ⟨rfl, tokenHarness, _, _,
        HopperSvm.withSplTokenSimulator_registered rfl, rfl, rfl⟩
  · rw [holdings_backed_iff]
    decide

end Hopper
