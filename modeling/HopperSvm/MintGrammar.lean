import HopperSvm.TokenGuards

/-!
The body of a mint initialisation is meant to be the decimals, the mint
authority and an optional freeze authority behind a flag.  The parser
takes a flag of one with too few bytes behind it, and any flag but zero and
one, for no authority at all.
-/

namespace Hopper

namespace SplToken

open Routine

variable {body : List UInt8}

/-- The body starts with the decimals, the mint authority and the flagged
freeze authority. -/
inductive EncodesMint : List UInt8 → UInt8 → Pubkey → Option Pubkey → Prop
  | plain {decimals : UInt8} {mintAuthority : Pubkey}
      {rest : List UInt8} :
      EncodesMint (decimals :: (mintAuthority.bytes ++ 0 :: rest)) decimals
        mintAuthority none
  | freezable {decimals : UInt8} {mintAuthority freezeAuthority : Pubkey}
      {rest : List UInt8} :
      EncodesMint
        (decimals ::
          (mintAuthority.bytes ++ 1 :: (freezeAuthority.bytes ++ rest)))
        decimals mintAuthority (some freezeAuthority)

/-- The flag is zero, or it is one and an authority follows. -/
def FlagHonoured (body : List UInt8) : Prop :=
  body[33]? = some 0 ∨ body[33]? = some 1 ∧ 66 ≤ body.length

theorem getElem?_flag (decimals flag : UInt8) (mintAuthority : Pubkey)
    (rest : List UInt8) :
    (decimals :: (mintAuthority.bytes ++ flag :: rest))[33]? =
      some flag := by
  rw [List.getElem?_cons_succ,
    List.getElem?_append_right mintAuthority.length_eq.le,
    mintAuthority.length_eq]
  rfl

theorem EncodesMint.flagHonoured {decimals : UInt8}
    {mintAuthority : Pubkey} {freezeAuthority : Option Pubkey}
    (encodes : EncodesMint body decimals mintAuthority freezeAuthority) :
    FlagHonoured body := by
  cases encodes with
  | plain => exact Or.inl (getElem?_flag _ _ _ _)
  | freezable =>
      refine Or.inr ⟨getElem?_flag _ _ _ _, ?_⟩
      simp only [List.length_cons, List.length_append, Pubkey.length_eq]
      omega

/-- A body that is long enough, around its flag. -/
theorem body_eq_of_flag {decimals flag : UInt8} {mintAuthority : Pubkey}
    (first : body[0]? = some decimals)
    (authority : (body.drop 1).take 32 = mintAuthority.bytes)
    (flagged : body[33]? = some flag) :
    body = decimals :: (mintAuthority.bytes ++ flag :: body.drop 34) := by
  cases body with
  | nil => cases first
  | cons head tail =>
      cases first
      obtain ⟨inRange, atFlag⟩ := List.getElem?_eq_some_iff.mp flagged
      have behind : tail.drop 32 = flag :: tail.drop 33 := by
        rw [List.getElem_cons_succ] at atFlag
        rw [← atFlag]
        exact List.drop_eq_getElem_cons (Nat.lt_of_succ_lt_succ inRange)
      rw [← authority, List.drop_succ_cons, List.drop_zero,
        List.drop_succ_cons, ← behind, List.take_append_drop]

variable {codec : TokenCodec} {context : InvokeContext}
  {state final : InvokeState}

/-- The freeze authority that is read is the one that was sent. -/
theorem encodesMint_of_read {decimals : UInt8} {mintAuthority : Pubkey}
    {freezeAuthority : Option Pubkey} (honoured : FlagHonoured body)
    (first : body[0]? = some decimals)
    (authority : (body.drop 1).take 32 = mintAuthority.bytes)
    (read :
      (readFreezeAuthority body).Yields context state freezeAuthority
        final) :
    EncodesMint body decimals mintAuthority freezeAuthority := by
  unfold readFreezeAuthority at read
  rcases honoured with zero | ⟨one, long⟩
  · have other : ¬ (1 + 32 + 1 + 32 ≤ body.length ∧
        body[33]? = some 1) := by
      rw [zero]
      rintro ⟨_, absurdity⟩
      cases absurdity
    rw [if_neg other, yields_pure] at read
    rw [← read.1, body_eq_of_flag first authority zero]
    exact .plain
  · rw [if_pos ⟨long, one⟩, yields_bind] at read
    obtain ⟨freeze, _, freezeRead, returned⟩ := read
    obtain ⟨_, bytes, _⟩ := readPubkey_yields.mp freezeRead
    obtain ⟨rfl, _⟩ := yields_pure.mp returned
    have behind :
        body.drop 34 = freeze.bytes ++ (body.drop 34).drop 32 := by
      rw [← bytes, List.take_append_drop]
    rw [body_eq_of_flag first authority one, behind]
    exact .freezable

/-- What an accepted initialisation reads and writes. -/
theorem initializeMint_writes
    (yields : (initializeMint codec body).Yields context state () final) :
    ∃ decimals mintAuthority freezeAuthority written,
      body[0]? = some decimals ∧
      (body.drop 1).take 32 = mintAuthority.bytes ∧
      (readFreezeAuthority body).Yields context state freezeAuthority
        state ∧
      final.accounts[0]? = some written ∧
      codec.mint.unpack written.data =
        .ok
          { mintAuthority := some mintAuthority
            supply := 0
            decimals
            isInitialized := true
            freezeAuthority } := by
  simp only [initializeMint, yields_bind, rejectBuiltin_yields, not_lt,
    requireSlots_yields, slot_yields, requireWritable_yields,
    expect_yields, readPubkey_yields, environment_yields, writeSlot_yields,
    log_yields, ↓existsAndEq, and_true, true_and, exists_const] at yields
  rcases yields with
    ⟨_, _, account, atFirst, _, decimals, first, mintAuthority,
     ⟨_, authority⟩, freezeAuthority, _, readFreeze, _, _, _, middle, wrote,
     claimed, atClaimed, rfl⟩
  cases state_of_readFreezeAuthority readFreeze
  have inRange : 0 < middle.accounts.length :=
    (List.getElem?_eq_some_iff.mp atClaimed).1
  obtain ⟨account', _, _, unpacks, written⟩ :=
    writeRecord_claimed (by rw [codec.mint_isInitialized]) atFirst wrote
      atClaimed context.programId
  have atStart : 0 < state.accounts.length :=
    (List.getElem?_eq_some_iff.mp atFirst).1
  have same := congrArg (·[0]?) written
  simp only [List.getElem?_set_self inRange,
    List.getElem?_set_self atStart, Option.some.injEq] at same
  subst same
  exact
    ⟨decimals, mintAuthority, freezeAuthority, _, first, authority,
      readFreeze, List.getElem?_set_self inRange, unpacks⟩

/-- The initialisation accepts only its grammar, writes what it decodes and
refuses the rest. -/
structure FollowsGrammar (codec : TokenCodec) (context : InvokeContext)
    (state : InvokeState) (body : List UInt8) : Prop where
  exact : ∀ final,
    (invoke codec (0 :: body)).Yields context state () final →
      ∃ decimals mintAuthority freezeAuthority written,
        EncodesMint body decimals mintAuthority freezeAuthority ∧
        final.accounts[0]? = some written ∧
        codec.mint.unpack written.data =
          .ok
            { mintAuthority := some mintAuthority
              supply := 0
              decimals
              isInitialized := true
              freezeAuthority }
  refuses :
    (∀ decimals mintAuthority freezeAuthority,
        ¬ EncodesMint body decimals mintAuthority freezeAuthority) →
      (invoke codec (0 :: body)).Refuses context state

/-- When the initialisation follows its grammar. -/
theorem followsGrammar_iff (codec : TokenCodec) (context : InvokeContext)
    (state : InvokeState) (body : List UInt8) :
    FollowsGrammar codec context state body ↔
      FlagHonoured body ∨
        ¬ InitializeMintChecks codec context body state.accounts := by
  constructor
  · intro follows
    rw [or_iff_not_imp_right, not_not]
    intro checks
    obtain ⟨_, final, yields⟩ := initializeMint_accepts.mpr checks
    obtain ⟨_, _, _, _, encodes, _⟩ := follows.exact final yields
    exact encodes.flagHonoured
  · intro condition
    constructor
    · intro final yields
      have honoured : FlagHonoured body := by
        refine condition.resolve_right (not_not.mpr ?_)
        exact initializeMint_accepts.mp ⟨(), final, yields⟩
      obtain
        ⟨decimals, mintAuthority, freezeAuthority, written, first,
         authority, read, atWritten, unpacks⟩ :=
        initializeMint_writes yields
      exact
        ⟨decimals, mintAuthority, freezeAuthority, written,
          encodesMint_of_read honoured first authority read, atWritten,
          unpacks⟩
    · intro outside
      change (initializeMint codec body).Refuses context state
      rw [refuses_iff_not_accepts initializeMint_returns]
      intro accepts
      have honoured : FlagHonoured body := by
        refine condition.resolve_right (not_not.mpr ?_)
        exact initializeMint_accepts.mp accepts
      obtain ⟨_, final, yields⟩ := accepts
      obtain ⟨_, _, _, _, first, authority, read, _⟩ :=
        initializeMint_writes yields
      exact
        outside _ _ _ (encodesMint_of_read honoured first authority read)

/-- Six decimals, the authority of wallet 3, and a flag of one with nothing
behind it. -/
def truncatedBody : List UInt8 :=
  6 :: ((Pubkey.filled 3).bytes ++ [1])

/-- An account a byte too long to be a mint. -/
def roomyAccount : KeyedAccount :=
  .new (.filled 2) 1 splTokenId (List.replicate 83 0) false

theorem truncatedBody_checks :
    InitializeMintChecks splCodec guardContext truncatedBody
      (guardState roomyAccount).accounts := by
  refine
    ⟨by decide, roomyAccount, rfl, by decide +kernel, by decide +kernel, ?_⟩
  intro mint unpacked
  have sized := splCodec.mint.length_of_unpack unpacked
  exact absurd sized (by decide +kernel)

/-- The freeze authority that was asked for is dropped. -/
theorem truncated_authority_accepted :
    (∃ final,
        (invoke splCodec (0 :: truncatedBody)).Yields guardContext
          (guardState roomyAccount) () final) ∧
      ∀ decimals mintAuthority freezeAuthority,
        ¬ EncodesMint truncatedBody decimals mintAuthority
          freezeAuthority := by
  refine ⟨?_, ?_⟩
  · obtain ⟨_, accepted⟩ :=
      initializeMint_accepts.mpr truncatedBody_checks
    exact accepted
  · intro decimals mintAuthority freezeAuthority encodes
    rcases encodes.flagHonoured with zero | one
    · exact absurd zero (by decide +kernel)
    · exact absurd one.2 (by decide +kernel)

end SplToken

end Hopper
