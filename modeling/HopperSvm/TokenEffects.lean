import HopperSvm.Library.Circulation
import HopperSvm.SplToken

namespace Hopper

open Bytes Circulation

/-- What an account is to the token program. -/
def entryOf (codec : TokenCodec) (programId : Pubkey)
    (account : KeyedAccount) : Entry Pubkey :=
  if account.owner = programId then
    match codec.mint.unpack account.data with
    | .ok mint => .issuer mint.supply.toNat
    | .error _ =>
        match codec.account.unpack account.data with
        | .ok token => .holding token.mint token.amount.toNat
        | .error _ => .vacant
  else
    .vacant

/-- The amount in front of an instruction's body. -/
def amountField (body : List UInt8) : UInt64 :=
  UInt64.ofNat (leNat (body.take 8))

/-- The account is rewritten in place, to `entry`. -/
structure Becomes (codec : TokenCodec) (programId : Pubkey)
    (account account' : KeyedAccount) (entry : Entry Pubkey) : Prop where
  sameAddress : account'.address = account.address
  entry_eq : entryOf codec programId account' = entry

/-- The slots before and after an accepted instruction, by its tag and
body. -/
inductive TokenEffect (codec : TokenCodec) (programId : Pubkey) :
    ℕ → List UInt8 → List KeyedAccount → List KeyedAccount → Prop
  | initializeMint {body : List UInt8} {first first' : KeyedAccount}
      {rest : List KeyedAccount}
      (uninitialized : ∀ mint, codec.mint.unpack first.data ≠ .ok mint)
      (issues : Becomes codec programId first first' (.issuer 0)) :
      TokenEffect codec programId 0 body (first :: rest) (first' :: rest)
  | initializeAccount {body : List UInt8} {first first' : KeyedAccount}
      {rest : List KeyedAccount} {issuer : Pubkey}
      (uninitialized : ∀ token,
        codec.account.unpack first.data = .ok token →
          token.state ≠ .initialized)
      (holds : Becomes codec programId first first' (.holding issuer 0)) :
      TokenEffect codec programId 1 body (first :: rest) (first' :: rest)
  | delegate {tag : ℕ} {body : List UInt8} {first first' : KeyedAccount}
      {rest : List KeyedAccount} (delegates : tag = 4 ∨ tag = 5)
      (keeps :
        Becomes codec programId first first'
          (entryOf codec programId first)) :
      TokenEffect codec programId tag body (first :: rest)
        (first' :: rest)
  | transfer {body : List UInt8} {source source' : KeyedAccount}
      {destination destination' : KeyedAccount}
      {rest : List KeyedAccount} {issuer : Pubkey} {left held : ℕ}
      (sends :
        entryOf codec programId source =
          .holding issuer (left + (amountField body).toNat))
      (receives : entryOf codec programId destination =
        .holding issuer held)
      (sent : Becomes codec programId source source'
        (.holding issuer left))
      (received : Becomes codec programId destination destination'
        (.holding issuer (held + (amountField body).toNat))) :
      TokenEffect codec programId 3 body (source :: destination :: rest)
        (source' :: destination' :: rest)
  | mintTo {body : List UInt8} {mint mint' : KeyedAccount}
      {destination destination' : KeyedAccount}
      {rest : List KeyedAccount} {supply held : ℕ}
      (issues : entryOf codec programId mint = .issuer supply)
      (receives : entryOf codec programId destination =
        .holding mint.address held)
      (issued : Becomes codec programId mint mint'
        (.issuer (supply + (amountField body).toNat)))
      (received : Becomes codec programId destination destination'
        (.holding mint.address (held + (amountField body).toNat))) :
      TokenEffect codec programId 7 body (mint :: destination :: rest)
        (mint' :: destination' :: rest)
  | burn {body : List UInt8} {source source' mint mint' : KeyedAccount}
      {rest : List KeyedAccount} {supply left : ℕ}
      (sends :
        entryOf codec programId source =
          .holding mint.address (left + (amountField body).toNat))
      (issues : entryOf codec programId mint = .issuer supply)
      (sent : Becomes codec programId source source'
        (.holding mint.address left))
      (burned : Becomes codec programId mint mint'
        (.issuer (supply - (amountField body).toNat))) :
      TokenEffect codec programId 8 body (source :: mint :: rest)
        (source' :: mint' :: rest)
  | closeAccount {body : List UInt8} {closed closed' : KeyedAccount}
      {destination destination' : KeyedAccount}
      {rest : List KeyedAccount} {issuer : Pubkey}
      (emptied : entryOf codec programId closed = .holding issuer 0)
      (gone : Becomes codec programId closed closed' .vacant)
      (keeps :
        Becomes codec programId destination destination'
          (entryOf codec programId destination)) :
      TokenEffect codec programId 9 body (closed :: destination :: rest)
        (closed' :: destination' :: rest)

section Entries

variable {codec : TokenCodec} {programId : Pubkey}
  {account : KeyedAccount}

/-- Mints and token accounts differ in length. -/
theorem TokenCodec.unpack_mint_of_account {bytes : List UInt8}
    {token : TokenAccount}
    (unpacked : codec.account.unpack bytes = .ok token) (mint : Mint) :
    codec.mint.unpack bytes ≠ .ok mint := by
  intro both
  have asMint := codec.mint.length_of_unpack both
  have asToken := codec.account.length_of_unpack unpacked
  rw [asToken] at asMint
  exact absurd asMint (by decide)

theorem entryOf_of_mint (owned : account.owner = programId) {mint : Mint}
    (unpacked : codec.mint.unpack account.data = .ok mint) :
    entryOf codec programId account = .issuer mint.supply.toNat := by
  rw [entryOf, if_pos owned, unpacked]

theorem entryOf_of_token (owned : account.owner = programId)
    {token : TokenAccount}
    (unpacked : codec.account.unpack account.data = .ok token) :
    entryOf codec programId account =
      .holding token.mint token.amount.toNat := by
  have notMint := codec.unpack_mint_of_account unpacked
  rw [entryOf, if_pos owned, unpacked]
  split
  · rename_i mint both
    exact absurd both (notMint mint)
  · rfl

theorem entryOf_of_foreign (foreign : account.owner ≠ programId) :
    entryOf codec programId account = .vacant :=
  if_neg foreign

/-- An entry is read off the owner and the data. -/
theorem entryOf_congr {left right : KeyedAccount}
    (sameOwner : left.owner = right.owner)
    (sameData : left.data = right.data) :
    entryOf codec programId left = entryOf codec programId right := by
  rw [entryOf, entryOf, sameOwner, sameData]

end Entries

namespace SplToken

open Routine Words

variable {codec : TokenCodec} {context : InvokeContext}
  {state final : InvokeState} {body : List UInt8}

section Records

variable {α : Type} {len : ℕ} {pack : Pack α len}

@[simp]
theorem readRecord_yields {noun name : String} {account : KeyedAccount}
    {record : α} :
    (readRecord pack noun name account).Yields context state record
        final ↔
      account.owner = context.programId ∧
        pack.unpack account.data = .ok record ∧ state = final := by
  simp [readRecord, yields_bind, and_assoc]

/-- What was written unpacks to the record. -/
theorem writeRecord_yields {index : ℕ} {record : α}
    (initialized : pack.isInitialized record = true)
    (yields :
      (writeRecord pack index record).Yields context state () final) :
    ∃ account packed, state.accounts[index]? = some account ∧
      pack.unpack packed = .ok record ∧
      final =
        { state with
          accounts :=
            state.accounts.set index { account with data := packed } } := by
  simp only [writeRecord, yields_bind, slot_yields, expect_yields,
    writeSlot_yields] at yields
  rcases yields with
    ⟨account, _, ⟨found, rfl⟩, packed, _, ⟨packs, rfl⟩, _, same, rfl⟩
  rw [found, Option.some.injEq] at same
  subst same
  have sized :
      (if account.data.length = len then account.data
        else List.replicate len 0).length = len := by
    split
    · assumption
    · exact List.length_replicate
  obtain ⟨bytes, packed_eq, unpacks⟩ :=
    pack.pack_unpack record _ initialized sized
  rw [packed_eq] at packs
  cases packs
  exact ⟨account, packed, found, unpacks, rfl⟩

/-- Writing a record and taking its account over. -/
theorem writeRecord_claimed {index : ℕ} {record : α}
    {account claimed : KeyedAccount}
    (initialized : pack.isInitialized record = true)
    (found : state.accounts[index]? = some account)
    (wrote :
      (writeRecord pack index record).Yields context state () final)
    (found' : final.accounts[index]? = some claimed) (owner : Pubkey) :
    ∃ account', account'.address = account.address ∧
      account'.owner = owner ∧ pack.unpack account'.data = .ok record ∧
      final.accounts.set index { claimed with owner } =
        state.accounts.set index account' := by
  obtain ⟨same, packed, foundSame, unpacks, rfl⟩ :=
    writeRecord_yields initialized wrote
  rw [found, Option.some.injEq] at foundSame
  subst foundSame
  obtain ⟨inRange, _⟩ := List.getElem?_eq_some_iff.mp found
  rw [List.getElem?_set_self inRange, Option.some.injEq] at found'
  subst found'
  refine
    ⟨{ account with data := packed, owner }, rfl, rfl, unpacks, ?_⟩
  exact List.set_set _
end Records

@[simp]
theorem readMint_yields {account : KeyedAccount} {mint : Mint} :
    (readMint codec account).Yields context state mint final ↔
      account.owner = context.programId ∧
        codec.mint.unpack account.data = .ok mint ∧ state = final :=
  readRecord_yields

@[simp]
theorem readTokenAccount_yields {account : KeyedAccount}
    {token : TokenAccount} :
    (readTokenAccount codec account).Yields context state token final ↔
      account.owner = context.programId ∧
        codec.account.unpack account.data = .ok token ∧ state = final :=
  readRecord_yields

theorem isInitialized_token {token : TokenAccount}
    (usable : token.state ≠ .uninitialized) :
    codec.account.isInitialized token = true := by
  rw [codec.account_isInitialized]
  exact decide_eq_true usable

theorem state_of_unpack {bytes : List UInt8} {token : TokenAccount}
    (unpacked : codec.account.unpack bytes = .ok token) :
    token.state ≠ .uninitialized := by
  have initialized := codec.account.isInitialized_of_unpack unpacked
  rw [codec.account_isInitialized] at initialized
  exact of_decide_eq_true initialized

/-- Writing a mint over an account of the program. -/
theorem writeMint_becomes {index : ℕ} {account : KeyedAccount}
    {mint : Mint} (found : state.accounts[index]? = some account)
    (owned : account.owner = context.programId)
    (yields : (writeMint codec index mint).Yields context state () final)
    (usable : mint.isInitialized = true) :
    ∃ account', final.accounts = state.accounts.set index account' ∧
      Becomes codec context.programId account account'
        (.issuer mint.supply.toNat) := by
  rw [← codec.mint_isInitialized] at usable
  obtain ⟨same, packed, found', unpacks, rfl⟩ :=
    writeRecord_yields usable yields
  rw [found, Option.some.injEq] at found'
  subst found'
  refine ⟨_, rfl, rfl, ?_⟩
  apply entryOf_of_mint
  · exact owned
  · exact unpacks

/-- Writing a token account over an account of the program. -/
theorem writeTokenAccount_becomes {index : ℕ} {account : KeyedAccount}
    {token : TokenAccount}
    (found : state.accounts[index]? = some account)
    (owned : account.owner = context.programId)
    (yields :
      (writeTokenAccount codec index token).Yields context state () final)
    (usable : token.state ≠ .uninitialized) :
    ∃ account', final.accounts = state.accounts.set index account' ∧
      Becomes codec context.programId account account'
        (.holding token.mint token.amount.toNat) := by
  obtain ⟨same, packed, found', unpacks, rfl⟩ :=
    writeRecord_yields (isInitialized_token usable) yields
  rw [found, Option.some.injEq] at found'
  subst found'
  refine ⟨_, rfl, rfl, ?_⟩
  apply entryOf_of_token
  · exact owned
  · exact unpacks

/-- The owner may move any amount, the delegate what it is allowed. -/
def MayMove (authority : Pubkey) (amount : UInt64)
    (source : TokenAccount) : Prop :=
  source.owner = authority ∨
    source.delegate = some authority ∧ amount ≤ source.delegatedAmount

/-- The account after the authority's check. -/
def drawnBy (authority : Pubkey) (amount : UInt64)
    (source : TokenAccount) : TokenAccount :=
  if source.owner = authority then
    source
  else
    source.spendAllowance amount

@[simp]
theorem authorizeTransfer_yields {authority : Pubkey}
    {amount : UInt64} {source spent : TokenAccount} :
    (authorizeTransfer authority amount source).Yields context state
        spent final ↔
      MayMove authority amount source ∧
        drawnBy authority amount source = spent ∧ state = final := by
  simp only [authorizeTransfer, MayMove, drawnBy]
  by_cases isOwner : source.owner = authority
  · simp [isOwner]
  · cases delegated : source.delegate with
    | none =>
        simp [isOwner, yields_bind]
    | some delegate =>
        simp [isOwner, yields_bind, and_assoc]

@[simp]
theorem authorizeBurn_yields {authority : Pubkey} {amount : UInt64}
    {source spent : TokenAccount} :
    (authorizeBurn authority amount source).Yields context state spent
        final ↔
      MayMove authority amount source ∧
        drawnBy authority amount source = spent ∧ state = final := by
  simp only [authorizeBurn, MayMove, drawnBy]
  by_cases isOwner : source.owner = authority
  · simp [isOwner]
  · by_cases isDelegate : source.delegate = some authority
    · simp [isOwner, isDelegate, yields_bind, and_assoc, and_left_comm]
    · simp [isOwner, isDelegate, yields_bind]

@[simp]
theorem drawnBy_mint {authority : Pubkey} {amount : UInt64}
    {source : TokenAccount} :
    (drawnBy authority amount source).mint = source.mint := by
  simp only [drawnBy]
  split <;> rfl

@[simp]
theorem drawnBy_amount {authority : Pubkey} {amount : UInt64}
    {source : TokenAccount} :
    (drawnBy authority amount source).amount = source.amount := by
  simp only [drawnBy]
  split <;> rfl

@[simp]
theorem drawnBy_state {authority : Pubkey} {amount : UInt64}
    {source : TokenAccount} :
    (drawnBy authority amount source).state = source.state := by
  simp only [drawnBy]
  split <;> rfl

/-! ## Slots -/

theorem eq_cons_of_slot {slots : List KeyedAccount} {first : KeyedAccount}
    (atFirst : slots[0]? = some first) :
    ∃ rest, slots = first :: rest := by
  cases slots with
  | nil =>
      cases atFirst
  | cons head rest =>
      cases atFirst
      exact ⟨rest, rfl⟩

theorem eq_cons_cons_of_slots {slots : List KeyedAccount}
    {first second : KeyedAccount} (atFirst : slots[0]? = some first)
    (atSecond : slots[1]? = some second) :
    ∃ rest, slots = first :: second :: rest := by
  obtain ⟨rest, rfl⟩ := eq_cons_of_slot atFirst
  obtain ⟨rest, rfl⟩ := eq_cons_of_slot atSecond
  exact ⟨rest, rfl⟩

theorem state_of_readFreezeAuthority {authority : Option Pubkey}
    (yields :
      (readFreezeAuthority body).Yields context state authority final) :
    final = state := by
  simp only [readFreezeAuthority] at yields
  split at yields
  · simp only [yields_bind, readPubkey_yields, yields_pure] at yields
    rcases yields with ⟨_, _, ⟨_, _, rfl⟩, _, rfl⟩
    rfl
  · exact (yields_pure.mp yields).2.symm

theorem initializeMint_effect
    (yields : (initializeMint codec body).Yields context state () final) :
    TokenEffect codec context.programId 0 body state.accounts
      final.accounts := by
  simp only [initializeMint, yields_bind, rejectBuiltin_yields, not_lt,
    requireSlots_yields, slot_yields, requireWritable_yields,
    expect_yields, readPubkey_yields, environment_yields, writeSlot_yields,
    log_yields, ↓existsAndEq, and_true, true_and, exists_const] at yields
  rcases yields with
    ⟨_, _, first, atFirst, _, _, _, _, _, _, _, readFreeze, _, notMint, _,
     middle, wrote, claimed, atClaimed, rfl⟩
  cases state_of_readFreezeAuthority readFreeze
  obtain ⟨rest, slots⟩ := eq_cons_of_slot atFirst
  have uninitialized : ∀ mint,
      codec.mint.unpack first.data ≠ .ok mint := by
    intro mint unpacked
    apply notMint
    rw [unpacked, Except.toOption, Option.any_some,
      ← codec.mint_isInitialized]
    exact codec.mint.isInitialized_of_unpack unpacked
  obtain ⟨first', sameAddress, owned, unpacks, written⟩ :=
    writeRecord_claimed (by rw [codec.mint_isInitialized]) atFirst wrote
      atClaimed context.programId
  have issues :
      Becomes codec context.programId first first' (.issuer 0) :=
    ⟨sameAddress, entryOf_of_mint owned unpacks⟩
  rw [written, slots]
  exact .initializeMint uninitialized issues

theorem initializeAccount_effect
    (yields : (initializeAccount codec).Yields context state () final) :
    TokenEffect codec context.programId 1 body state.accounts
      final.accounts := by
  simp only [initializeAccount, yields_bind, rejectBuiltin_yields, not_lt,
    requireSlots_yields, slot_yields, requireWritable_yields,
    readMint_yields, environment_yields, writeSlot_yields,
    log_yields, ↓existsAndEq, and_true, true_and, exists_const] at yields
  rcases yields with
    ⟨_, first, atFirst, _, _, _, _, _, _, _, _, _, notOpen, _, middle,
     wrote, claimed, atClaimed, rfl⟩
  obtain ⟨rest, slots⟩ := eq_cons_of_slot atFirst
  have uninitialized : ∀ token,
      codec.account.unpack first.data = .ok token →
        token.state ≠ .initialized := by
    intro token unpacked initialized
    apply notOpen
    rw [unpacked, Except.toOption, Option.any_some]
    exact decide_eq_true initialized
  obtain ⟨first', sameAddress, owned, unpacks, written⟩ :=
    writeRecord_claimed (isInitialized_token (by simp)) atFirst wrote
      atClaimed context.programId
  have holds := entryOf_of_token owned unpacks
  rw [written, slots]
  exact .initializeAccount uninitialized ⟨sameAddress, holds⟩

/-- Writing back an account of the same tokens. -/
theorem delegates {tag : ℕ} {account : KeyedAccount}
    {token token' : TokenAccount} (delegating : tag = 4 ∨ tag = 5)
    (found : state.accounts[0]? = some account)
    (owned : account.owner = context.programId)
    (unpacked : codec.account.unpack account.data = .ok token)
    (wrote :
      (writeTokenAccount codec 0 token').Yields context state () final)
    (sameTokens : (token'.mint, token'.amount, token'.state) =
      (token.mint, token.amount, token.state)) :
    TokenEffect codec context.programId tag body state.accounts
      final.accounts := by
  obtain ⟨sameMint, sameAmount, sameState⟩ :
      token'.mint = token.mint ∧ token'.amount = token.amount ∧
        token'.state = token.state := by
    simpa using sameTokens
  obtain ⟨rest, slots⟩ := eq_cons_of_slot found
  have usable := state_of_unpack unpacked
  rw [← sameState] at usable
  obtain ⟨account', final_eq, kept⟩ :=
    writeTokenAccount_becomes found owned wrote usable
  have before := entryOf_of_token owned unpacked
  rw [sameMint, sameAmount, ← before] at kept
  rw [final_eq, slots]
  exact .delegate delegating kept

theorem approve_effect
    (yields : (approve codec body).Yields context state () final) :
    TokenEffect codec context.programId 4 body state.accounts
      final.accounts := by
  simp only [approve, ne_eq, yields_bind, rejectBuiltin_yields, not_lt,
    readU64_yields, zero_add, List.drop_zero, requireSlots_yields,
    slot_yields, requireWritable_yields, requireSigner_yields,
    readTokenAccount_yields, Decidable.not_not, log_yields, ↓existsAndEq,
    and_true, exists_const, and_self_left] at yields
  rcases yields with
    ⟨_, _, source, atSource, _, _, _, _, _, _, src, ⟨srcOwned,
     srcUnpacked⟩, _, _, written, wrote, rfl⟩
  have effect :
      TokenEffect codec context.programId 4 body state.accounts
        written.accounts := by
    refine
      delegates (Or.inl rfl) atSource srcOwned srcUnpacked wrote ?_
    rfl
  exact effect

theorem revoke_effect
    (yields : (revoke codec).Yields context state () final) :
    TokenEffect codec context.programId 5 body state.accounts
      final.accounts := by
  simp only [revoke, ne_eq, yields_bind, rejectBuiltin_yields,
    requireSlots_yields, slot_yields, requireWritable_yields,
    requireSigner_yields, readTokenAccount_yields, Decidable.not_not,
    log_yields, ↓existsAndEq, and_true, exists_const] at yields
  rcases yields with
    ⟨_, source, atSource, _, _, _, _, src, ⟨srcOwned, srcUnpacked⟩, _, _,
     written, wrote, rfl⟩
  have effect :
      TokenEffect codec context.programId 5 body state.accounts
        written.accounts := by
    refine
      delegates (Or.inr rfl) atSource srcOwned srcUnpacked wrote ?_
    rfl
  exact effect

theorem mintTo_effect
    (yields : (mintTo codec body).Yields context state () final) :
    TokenEffect codec context.programId 7 body state.accounts
      final.accounts := by
  simp only [mintTo, ne_eq, yields_bind, rejectBuiltin_yields, not_lt,
    readU64_yields, zero_add, List.drop_zero, requireSlots_yields,
    slot_yields, requireWritable_yields, requireSigner_yields,
    readMint_yields, readTokenAccount_yields, Decidable.not_not,
    okOrBuiltin_yields, log_yields, ↓existsAndEq, and_true, true_and,
    exists_const, and_self_left] at yields
  rcases yields with
    ⟨_, _, mintAccount, atMint, destination, atDestination, _, _, _, _, _,
     mint, ⟨mintOwned, mintUnpacked⟩, dst, ⟨dstOwned, dstUnpacked⟩, ofMint,
     _, supply, fitsSupply, received, fits, _, middle, wroteMint, _,
     written, wroteDestination, rfl⟩
  obtain ⟨rest, slots⟩ := eq_cons_cons_of_slots atMint atDestination
  have minted := checkedAdd_eq_some.mp fitsSupply
  have added := checkedAdd_eq_some.mp fits
  have usable := codec.mint.isInitialized_of_unpack mintUnpacked
  rw [codec.mint_isInitialized] at usable
  obtain ⟨mint', middle_eq, issued⟩ :=
    writeMint_becomes atMint mintOwned wroteMint usable
  have atDestination' : middle.accounts[1]? = some destination := by
    rw [middle_eq, slots]
    rfl
  have dstUsable := state_of_unpack dstUnpacked
  obtain ⟨destination', written_eq, got⟩ :=
    writeTokenAccount_becomes atDestination' dstOwned wroteDestination
      dstUsable
  have issues := entryOf_of_mint mintOwned mintUnpacked
  have receives := entryOf_of_token dstOwned dstUnpacked
  rw [ofMint] at receives got
  rw [← minted] at issued
  rw [← added] at got
  rw [written_eq, middle_eq, slots]
  exact .mintTo issues receives issued got

theorem burn_effect
    (yields : (burn codec body).Yields context state () final) :
    TokenEffect codec context.programId 8 body state.accounts
      final.accounts := by
  simp only [burn, ne_eq, yields_bind, rejectBuiltin_yields, not_lt,
    readU64_yields, zero_add, List.drop_zero, requireSlots_yields,
    slot_yields, requireWritable_yields, requireSigner_yields,
    readMint_yields, readTokenAccount_yields, Decidable.not_not,
    authorizeBurn_yields, drawnBy_amount, rejectIf_yields, log_yields,
    ↓existsAndEq, and_true, exists_const, and_self_left] at yields
  rcases yields with
    ⟨_, _, source, atSource, mintAccount, atMint, _, _, _, _, _, src,
     ⟨srcOwned, srcUnpacked⟩, mint, ⟨mintOwned, mintUnpacked⟩, ofMint, _,
     enough, _, middle, wroteSource, _, written, wroteMint, rfl⟩
  obtain ⟨rest, slots⟩ := eq_cons_cons_of_slots atSource atMint
  have covered := toNat_sub_of_not_lt enough
  have spentUsable := state_of_unpack srcUnpacked
  have usable := codec.mint.isInitialized_of_unpack mintUnpacked
  rw [codec.mint_isInitialized] at usable
  obtain ⟨source', middle_eq, sent⟩ :=
    writeTokenAccount_becomes atSource srcOwned wroteSource
      (by rwa [drawnBy_state])
  have atMint' : middle.accounts[1]? = some mintAccount := by
    rw [middle_eq, slots]
    rfl
  obtain ⟨mint', written_eq, burned⟩ :=
    writeMint_becomes atMint' mintOwned wroteMint usable
  have sends := entryOf_of_token srcOwned srcUnpacked
  have issues := entryOf_of_mint mintOwned mintUnpacked
  rw [← covered, ofMint] at sends
  rw [drawnBy_mint, ofMint] at sent
  rw [toNat_saturatingSub] at burned
  rw [written_eq, middle_eq, slots]
  exact .burn sends issues sent burned

/-- A closing empties a token account without tokens in slot 0 into
slot 1. -/
theorem closeAccount_closes
    (yields : (closeAccount codec).Yields context state () final) :
    ∃ closed destination token, state.accounts[0]? = some closed ∧
      state.accounts[1]? = some destination ∧
      closed.owner = context.programId ∧
      codec.account.unpack closed.data = .ok token ∧ token.amount = 0 ∧
      final.accounts =
        (state.accounts.set 1
            { destination with
              lamports :=
                saturatingAdd destination.lamports closed.lamports }).set 0
          { closed with
            lamports := 0
            data := List.replicate tokenAccountLen 0
            owner := systemProgramId } := by
  simp only [closeAccount, ne_eq, yields_bind, rejectBuiltin_yields,
    requireSlots_yields, slot_yields, requireWritable_yields,
    requireSigner_yields, readTokenAccount_yields, Decidable.not_not,
    writeSlot_yields, log_yields, ↓existsAndEq, and_true, exists_const]
    at yields
  rcases yields with
    ⟨_, closed, atClosed, destination, atDestination, _, _, _, _, _, token,
     ⟨owned, unpacked⟩, empty, _, target, atTarget, emptied, atEmptied,
     rfl⟩
  cases atDestination.symm.trans atTarget
  rw [List.getElem?_set_ne (by decide)] at atEmptied
  cases atClosed.symm.trans atEmptied
  exact
    ⟨closed, destination, token, atClosed, atDestination, owned, unpacked,
      empty, rfl⟩

theorem closeAccount_effect
    (notSystem : context.programId ≠ systemProgramId)
    (yields : (closeAccount codec).Yields context state () final) :
    TokenEffect codec context.programId 9 body state.accounts
      final.accounts := by
  obtain
    ⟨closed, destination, token, atClosed, atDestination, owned, unpacked,
     empty, left⟩ := closeAccount_closes yields
  obtain ⟨rest, slots⟩ := eq_cons_cons_of_slots atClosed atDestination
  have holds := entryOf_of_token owned unpacked
  rw [empty] at holds
  rw [left, slots]
  -- The closed account goes to the system program, so it has no entry.
  exact
    .closeAccount holds ⟨rfl, entryOf_of_foreign notSystem.symm⟩
      ⟨rfl, entryOf_congr rfl rfl⟩

theorem transfer_effect
    (yields : (transfer codec body).Yields context state () final) :
    TokenEffect codec context.programId 3 body state.accounts
      final.accounts := by
  simp only [transfer, ne_eq, yields_bind, rejectBuiltin_yields, not_lt,
    readU64_yields, zero_add, List.drop_zero, requireSlots_yields,
    slot_yields, requireWritable_yields, requireSigner_yields,
    readTokenAccount_yields, Decidable.not_not, authorizeTransfer_yields,
    drawnBy_amount, rejectIf_yields, okOrBuiltin_yields, log_yields,
    ↓existsAndEq, and_true, exists_const, and_self_left] at yields
  rcases yields with
    ⟨_, _, source, atSource, destination, atDestination, _, _, _, _, _,
     src, ⟨srcOwned, srcUnpacked⟩, dst, ⟨dstOwned, dstUnpacked⟩, srcState,
     dstState, sameMint, _, enough, received, fits, _, middle, wroteSource,
     _, written, wroteDestination, rfl⟩
  obtain ⟨rest, slots⟩ := eq_cons_cons_of_slots atSource atDestination
  have covered := toNat_sub_of_not_lt enough
  have added := checkedAdd_eq_some.mp fits
  have dstUsable := state_of_unpack dstUnpacked
  have spentUsable := state_of_unpack srcUnpacked
  obtain ⟨source', middle_eq, sent⟩ :=
    writeTokenAccount_becomes atSource srcOwned wroteSource
      (by rwa [drawnBy_state])
  have atDestination' : middle.accounts[1]? = some destination := by
    rw [middle_eq, slots]
    rfl
  obtain ⟨destination', final_eq, got⟩ :=
    writeTokenAccount_becomes atDestination' dstOwned wroteDestination
      dstUsable
  have sends := entryOf_of_token srcOwned srcUnpacked
  have receives := entryOf_of_token dstOwned dstUnpacked
  rw [← covered] at sends
  rw [← sameMint] at receives got
  rw [drawnBy_mint] at sent
  rw [← added] at got
  rw [final_eq, middle_eq, slots]
  exact .transfer sends receives sent got

/-- What an accepted instruction does. -/
theorem invoke_effect {data : List UInt8}
    (notSystem : context.programId ≠ systemProgramId)
    (yields : (invoke codec data).Yields context state () final) :
    ∃ tag body, data = tag :: body ∧
      TokenEffect codec context.programId tag.toNat body state.accounts
        final.accounts := by
  cases data with
  | nil =>
      simp [invoke] at yields
  | cons tag body =>
      refine ⟨tag, body, rfl, ?_⟩
      unfold invoke at yields
      dsimp only at yields
      generalize tag.toNat = number at yields ⊢
      split at yields
      · exact initializeMint_effect yields
      · exact initializeAccount_effect yields
      · exact transfer_effect yields
      · exact approve_effect yields
      · exact revoke_effect yields
      · exact mintTo_effect yields
      · exact burn_effect yields
      · exact closeAccount_effect notSystem yields
      · simp at yields

end SplToken

end Hopper
