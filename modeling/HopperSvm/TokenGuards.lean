import HopperSvm.Token2022
import HopperSvm.TokenHandlers
import HopperSvm.TokenSupply

/-!
Two guards of the token program and how far they reach.  An initialiser
looks for a record of its own kind, at its exact length and, for a token
account, in one of the two usable states; Transfer asks for the state of the
accounts it moves tokens between, and the other handlers do not.
-/

namespace Hopper

namespace SplToken

open Routine

variable {codec : TokenCodec} {context : InvokeContext}
  {state : InvokeState} {body : List UInt8}

/-- The front of the account's data holds an initialised mint, or a token
account that is initialised or frozen; extensions may follow. -/
def Live (codec : TokenCodec) (programId : Pubkey)
    (account : KeyedAccount) : Prop :=
  account.owner = programId ∧
    ((∃ mint, codec.mint.unpack (account.data.take mintLen) = .ok mint) ∨
      ∃ token,
        codec.account.unpack (account.data.take tokenAccountLen) =
          .ok token)

theorem Live.mintLen_le {programId : Pubkey} {account : KeyedAccount}
    (live : Live codec programId account) :
    mintLen ≤ account.data.length := by
  rcases live with ⟨_, ⟨mint, unpacked⟩ | ⟨token, unpacked⟩⟩
  · have sized := codec.mint.length_of_unpack unpacked
    rw [List.length_take] at sized
    omega
  · have sized := codec.account.length_of_unpack unpacked
    have longer : mintLen ≤ tokenAccountLen := by decide
    rw [List.length_take] at sized
    omega

/-- The routine ends in an error and leaves the data of slot 0. -/
def RejectsKeepingData (routine : Routine Unit) (context : InvokeContext)
    (state : InvokeState) : Prop :=
  ∃ err final, routine.run context state = some (.error err, final) ∧
    final.accounts[0]?.map KeyedAccount.data =
      state.accounts[0]?.map KeyedAccount.data

theorem rejectsKeepingData_iff {routine : Routine Unit} [Atomic routine]
    (returns : routine.Returns context state) :
    RejectsKeepingData routine context state ↔
      ¬ routine.Accepts context state := by
  constructor
  · intro rejects accepts
    rcases rejects with ⟨err, final, failed, _⟩
    rcases accepts with ⟨value, final', yields⟩
    have both := failed.symm.trans yields
    cases both
  · intro notAccepted
    obtain ⟨err, final, failed, sameSlots⟩ :=
      (refuses_iff_not_accepts returns).mpr notAccepted
    exact ⟨err, final, failed, by rw [sameSlots]⟩

/-- Why InitializeMint does not go over a live account: it was sent wrongly,
or the account's data is a mint and nothing more. -/
def MintGuarded (codec : TokenCodec) (context : InvokeContext)
    (body : List UInt8) (account : KeyedAccount) : Prop :=
  body.length < initializeMintMinLen - 1 ∨
    ¬ IsWritable context account.address ∨
    ∃ mint, codec.mint.unpack account.data = .ok mint

/-- Why InitializeAccount does not go over a live account: it was sent
wrongly, or the account's data is too short for a token account, or is an
account in the state `Initialized` and nothing more. -/
def AccountGuarded (codec : TokenCodec) (context : InvokeContext)
    (slots : List KeyedAccount) (account : KeyedAccount) : Prop :=
  slots.length < 3 ∨ ¬ IsWritable context account.address ∨
    (∀ mintAccount, slots[1]? = some mintAccount →
      ∀ mint, ¬ IsMint codec context mintAccount mint) ∨
    account.data.length < tokenAccountLen ∨
    ∃ token, codec.account.unpack account.data = .ok token ∧
      token.state = .initialized

theorem not_initializeMintChecks_iff {account : KeyedAccount}
    (atFirst : state.accounts[0]? = some account)
    (sized : mintLen ≤ account.data.length) :
    ¬ InitializeMintChecks codec context body state.accounts ↔
      MintGuarded codec context body account := by
  constructor
  · intro refused
    by_contra unguarded
    simp only [MintGuarded, not_or, not_lt, not_not,
      not_exists] at unguarded
    rcases unguarded with ⟨long, writable, notMint⟩
    exact refused ⟨long, account, atFirst, writable, sized, notMint⟩
  · intro guarded checks
    rcases checks with ⟨long, account', atFirst', writable, _, notMint⟩
    cases atFirst.symm.trans atFirst'
    rcases guarded with short | readOnly | ⟨mint, unpacked⟩
    · omega
    · exact readOnly writable
    · exact notMint mint unpacked

theorem not_initializeAccountChecks_iff {account : KeyedAccount}
    (atFirst : state.accounts[0]? = some account) :
    ¬ InitializeAccountChecks codec context state.accounts ↔
      AccountGuarded codec context state.accounts account := by
  constructor
  · intro refused
    by_contra unguarded
    simp only [AccountGuarded, not_or, not_lt, not_not,
      not_exists, not_and, not_forall] at unguarded
    rcases unguarded with
      ⟨enough, writable, ⟨mintAccount, atMint, mint, isMint⟩, sized,
       notOpen⟩
    exact
      refused
        ⟨enough, account, mintAccount, mint, atFirst, atMint, writable,
          isMint, sized, notOpen⟩
  · intro guarded checks
    rcases checks with
      ⟨enough, account', mintAccount, mint, atFirst', atMint, writable,
       isMint, sized, notOpen⟩
    cases atFirst.symm.trans atFirst'
    rcases guarded with
      few | readOnly | noMint | short | ⟨token, unpacked, isOpen⟩
    · omega
    · exact readOnly writable
    · exact noMint mintAccount atMint mint isMint
    · omega
    · exact notOpen token unpacked isOpen

/-- The token-2022 program hands the initialisers to the token program. -/
theorem invoke_2022_of_initializer {tag : UInt8}
    (initializes : tag = 0 ∨ tag = 1) :
    Token2022.invoke codec (tag :: body) = invoke codec (tag :: body) := by
  have delegated : tag ∈ Token2022.delegatedTags := by
    rcases initializes with rfl | rfl <;> decide
  exact if_pos delegated

/-- When the initialisers of either token program leave a live account
alone. -/
theorem initializers_reject_live_iff (codec : TokenCodec)
    (context : InvokeContext) (state : InvokeState)
    (simulator : List UInt8 → Routine Unit)
    (isToken : simulator = invoke codec ∨
      simulator = Token2022.invoke codec)
    (body : List UInt8) (account : KeyedAccount)
    (atFirst : state.accounts[0]? = some account)
    (live : Live codec context.programId account) :
    (RejectsKeepingData (simulator (0 :: body)) context state ↔
        MintGuarded codec context body account) ∧
      (RejectsKeepingData (simulator (1 :: body)) context state ↔
        AccountGuarded codec context state.accounts account) := by
  have same (tag : UInt8) (initializes : tag = 0 ∨ tag = 1) :
      simulator (tag :: body) = invoke codec (tag :: body) := by
    rcases isToken with rfl | rfl
    · rfl
    · exact invoke_2022_of_initializer initializes
  rw [same 0 (Or.inl rfl), same 1 (Or.inr rfl)]
  constructor
  · rw [rejectsKeepingData_iff invoke_returns]
    have handler :
        (invoke codec (0 :: body)).Accepts context state ↔
          InitializeMintChecks codec context body state.accounts :=
      initializeMint_accepts
    rw [handler]
    exact not_initializeMintChecks_iff atFirst live.mintLen_le
  · rw [rejectsKeepingData_iff invoke_returns]
    have handler :
        (invoke codec (1 :: body)).Accepts context state ↔
          InitializeAccountChecks codec context state.accounts :=
      initializeAccount_accepts
    rw [handler]
    exact not_initializeAccountChecks_iff atFirst

/-- Seven frozen tokens of wallet 3. -/
def frozenHolder : KeyedAccount :=
  .new (.filled 2) 1 splTokenId
    (Layout.tokenAccount.write { tokensOf 7 with state := .frozen }
      (List.replicate tokenAccountLen 0))
    false

theorem unpack_frozenHolder :
    splCodec.account.unpack frozenHolder.data =
      .ok { tokensOf 7 with state := .frozen } :=
  Pack.unpack_write rfl List.length_replicate

/-- The token program, told that it may write accounts 1 and 2 and that
wallet 3 signs. -/
def guardContext : InvokeContext :=
  { programId := splTokenId
    accountMetas :=
      [⟨.filled 2, false, true⟩, ⟨.filled 1, false, true⟩,
        ⟨.filled 3, true, false⟩]
    sysvars := .default }

/-- The three slots an instruction on the frozen account is handed. -/
def guardState (first : KeyedAccount) : InvokeState :=
  { accounts := [first, tenMintAccount, tokenWallet]
    logs := .empty
    budget := .default
    cells := ⟨none, 0⟩ }

theorem tenMintAccount_isMint :
    IsMint splCodec guardContext tenMintAccount tenMint :=
  ⟨rfl, unpack_tenMint⟩

theorem frozenHolder_isToken :
    IsToken splCodec guardContext frozenHolder
      { tokensOf 7 with state := .frozen } :=
  ⟨rfl, unpack_frozenHolder⟩

theorem frozenHolder_live : Live splCodec splTokenId frozenHolder := by
  have sized := splCodec.account.length_of_unpack unpack_frozenHolder
  have whole :
      frozenHolder.data.take tokenAccountLen = frozenHolder.data :=
    List.take_of_length_le sized.le
  have unpacked := unpack_frozenHolder
  rw [← whole] at unpacked
  exact ⟨rfl, Or.inr ⟨_, unpacked⟩⟩

theorem tenMintAccount_live : Live splCodec splTokenId tenMintAccount := by
  have sized := splCodec.mint.length_of_unpack unpack_tenMint
  refine ⟨rfl, Or.inl ⟨tenMint, ?_⟩⟩
  rw [List.take_of_length_le sized.le]
  exact unpack_tenMint

/-- A mint is not initialised again. -/
theorem initializers_reject_live_mint :
    RejectsKeepingData
      (Token2022.invoke splCodec (0 :: List.replicate 34 7)) guardContext
      (guardState tenMintAccount) := by
  have guarded :=
    initializers_reject_live_iff splCodec guardContext
      (guardState tenMintAccount) (Token2022.invoke splCodec) (Or.inr rfl)
      (List.replicate 34 7) tenMintAccount rfl tenMintAccount_live
  exact guarded.1.mpr (Or.inr (Or.inr ⟨tenMint, unpack_tenMint⟩))

/-- InitializeAccount goes over a frozen account. -/
theorem initializeAccount_overwrites_frozen :
    Live splCodec guardContext.programId frozenHolder ∧
      (guardState frozenHolder).accounts[0]? = some frozenHolder ∧
      ¬ RejectsKeepingData (invoke splCodec [1]) guardContext
        (guardState frozenHolder) := by
  refine ⟨frozenHolder_live, rfl, ?_⟩
  intro rejected
  rw [rejectsKeepingData_iff invoke_returns] at rejected
  have sized := splCodec.account.length_of_unpack unpack_frozenHolder
  have accepted :
      (initializeAccount splCodec).Accepts guardContext
        (guardState frozenHolder) := by
    rw [initializeAccount_accepts]
    refine
      ⟨by decide, frozenHolder, tenMintAccount, tenMint, rfl, rfl,
        by decide, tenMintAccount_isMint, sized.ge, ?_⟩
    intro token unpacked
    cases unpack_frozenHolder.symm.trans unpacked
    simp
  exact rejected accepted

/-- Slot `index` of an instruction with this tag is a token account taking
part in it. -/
inductive TakesPart : ℕ → ℕ → Prop
  | transferSource : TakesPart 3 0
  | transferDestination : TakesPart 3 1
  | approveSource : TakesPart 4 0
  | revokeSource : TakesPart 5 0
  | mintToDestination : TakesPart 7 1
  | burnSource : TakesPart 8 0

def Frozen (codec : TokenCodec) (account : KeyedAccount) : Prop :=
  ∃ token, codec.account.unpack account.data = .ok token ∧
    token.state = .frozen

/-- What the handlers that do not ask for the state ask for. -/
def StatelessChecks (codec : TokenCodec) (context : InvokeContext)
    (body : List UInt8) (slots : List KeyedAccount) : ℕ → Prop
  | 4 => ApproveChecks codec context body slots
  | 5 => RevokeChecks codec context slots
  | 7 => MintToChecks codec context body slots
  | 8 => BurnChecks codec context body slots
  | _ => False

/-- A transfer of a frozen account is not accepted. -/
theorem not_transferChecks_of_frozen {index : ℕ} {account : KeyedAccount}
    (involved : index = 0 ∨ index = 1)
    (atIndex : state.accounts[index]? = some account)
    (frozen : Frozen codec account) :
    ¬ TransferChecks codec context body state.accounts := by
  intro checks
  rcases checks with
    ⟨_, _, sourceAccount, destinationAccount, _, source, destination,
     atSource, atDestination, _, _, _, _, isSource, isDestination, usable,
     usable', _⟩
  rcases frozen with ⟨token, unpacked, isFrozen⟩
  rcases involved with rfl | rfl
  · cases atSource.symm.trans atIndex
    cases isSource.2.symm.trans unpacked
    rw [usable] at isFrozen
    cases isFrozen
  · cases atDestination.symm.trans atIndex
    cases isDestination.2.symm.trans unpacked
    rw [usable'] at isFrozen
    cases isFrozen

/-- When an instruction refuses a frozen account that takes part in it. -/
theorem frozen_refused_iff (codec : TokenCodec) (context : InvokeContext)
    (state : InvokeState) (tag : UInt8) (body : List UInt8) (index : ℕ)
    (account : KeyedAccount) (takesPart : TakesPart tag.toNat index)
    (atIndex : state.accounts[index]? = some account)
    (frozen : Frozen codec account) :
    (invoke codec (tag :: body)).Refuses context state ↔
      tag.toNat = 3 ∨
        ¬ StatelessChecks codec context body state.accounts tag.toNat := by
  rw [refuses_iff_not_accepts invoke_returns]
  unfold invoke
  dsimp only
  generalize tag.toNat = number at takesPart ⊢
  cases takesPart with
  | transferSource =>
      change ¬ (transfer codec body).Accepts context state ↔ _
      rw [transfer_accepts]
      exact
        iff_of_true
          (not_transferChecks_of_frozen (Or.inl rfl) atIndex frozen)
          (Or.inl rfl)
  | transferDestination =>
      change ¬ (transfer codec body).Accepts context state ↔ _
      rw [transfer_accepts]
      exact
        iff_of_true
          (not_transferChecks_of_frozen (Or.inr rfl) atIndex frozen)
          (Or.inl rfl)
  | approveSource =>
      change ¬ (approve codec body).Accepts context state ↔ _
      rw [approve_accepts]
      exact (or_iff_right (by decide)).symm
  | revokeSource =>
      change ¬ (revoke codec).Accepts context state ↔ _
      rw [revoke_accepts]
      exact (or_iff_right (by decide)).symm
  | mintToDestination =>
      change ¬ (mintTo codec body).Accepts context state ↔ _
      rw [mintTo_accepts]
      exact (or_iff_right (by decide)).symm
  | burnSource =>
      change ¬ (burn codec body).Accepts context state ↔ _
      rw [burn_accepts]
      exact (or_iff_right (by decide)).symm

theorem frozenHolder_frozen : Frozen splCodec frozenHolder :=
  ⟨_, unpack_frozenHolder, rfl⟩

/-- A burn that asks for more than there is. -/
theorem frozen_refused_iff_short_burn :
    (invoke splCodec (8 :: Bytes.leBytes 8 9)).Refuses guardContext
      (guardState frozenHolder) := by
  refine
    (frozen_refused_iff splCodec guardContext (guardState frozenHolder) 8
      (Bytes.leBytes 8 9) 0 frozenHolder .burnSource rfl
      frozenHolder_frozen).mpr
      (Or.inr ?_)
  intro checks
  rcases checks with
    ⟨_, _, sourceAccount, _, _, source, _, atSource, _, _, _, _, _,
     isSource, _, _, _, covered⟩
  cases atSource
  cases unpack_frozenHolder.symm.trans isSource.2
  exact absurd covered (by decide)

/-- The owner burns frozen tokens. -/
theorem frozen_tokens_burn :
    TakesPart 8 0 ∧
      (guardState frozenHolder).accounts[0]? = some frozenHolder ∧
      Frozen splCodec frozenHolder ∧
      ¬ (invoke splCodec (8 :: Bytes.leBytes 8 3)).Refuses guardContext
        (guardState frozenHolder) := by
  refine ⟨.burnSource, rfl, frozenHolder_frozen, ?_⟩
  intro refused
  have accepted :
      (burn splCodec (Bytes.leBytes 8 3)).Accepts guardContext
        (guardState frozenHolder) := by
    rw [burn_accepts]
    exact
      ⟨by decide, by decide, frozenHolder, tenMintAccount, tokenWallet, _,
        tenMint, rfl, rfl, rfl, by decide, by decide, by decide,
        frozenHolder_isToken, tenMintAccount_isMint, rfl, Or.inl rfl,
        by decide⟩
  exact refused.not_accepts accepted

end SplToken

end Hopper
