import HopperSvm.AltEffects
import HopperSvm.Refusal

/-!
The count in front of the body is multiplied by 32 before anything bounds
it, so a count from 2^59 on panics.  Below that the length check is exact,
every slice is in range, and an accepted extension appends the blocks behind
the count as they stand.
-/

namespace Hopper

namespace AltProgram

open Bytes LookupTable Routine Words

/-- The blocks of 32 bytes behind the count, when the body holds them. -/
theorem blocks_eq_some {body : List UInt8} {count : Nat}
    (holds : 8 + count * 32 ≤ body.length) :
    ∃ newAddresses,
      ((List.range count).mapM fun index =>
          pubkeyAt body (8 + index * 32)) =
        some newAddresses ∧
      newAddresses.length = count ∧
      newAddresses.flatMap Pubkey.bytes = field body 8 (count * 32) := by
  induction count with
  | zero =>
      exact ⟨[], rfl, rfl, by simp [field]⟩
  | succ count inductionHypothesis =>
      obtain ⟨addresses, found, counted, blocks⟩ :=
        inductionHypothesis (by omega)
      obtain ⟨address, last⟩ :=
        pubkeyAt_isSome (by omega : 8 + count * 32 + 32 ≤ body.length)
      have lastBytes : field body (8 + count * 32) 32 = address.bytes :=
        Pubkey.newFromArray_eq_some.mp last
      refine ⟨addresses ++ [address], ?_, ?_, ?_⟩
      · rw [List.range_succ, List.mapM_append, found]
        simp [last]
      · simp [counted]
      · rw [List.flatMap_append, blocks, List.flatMap_singleton,
          ← lastBytes]
        simp only [field]
        rw [Nat.succ_mul, List.take_add, List.drop_drop]

instance (verb : String) (stored : Option Pubkey)
    (authAddr tableAddr : Pubkey) (frozen : String) :
    ReadOnly
      (requireStored verb stored authAddr tableAddr frozen) := by
  simp only [requireStored]
  split <;> infer_instance

@[simp]
theorem requireStored_returns {context : InvokeContext}
    {state : InvokeState} {verb : String} {stored : Option Pubkey}
    {authAddr tableAddr : Pubkey} {frozen : String} :
    (requireStored verb stored authAddr tableAddr frozen).Returns context
      state := by
  simp only [requireStored]
  split <;> exact rejectBuiltin_returns

variable {context : InvokeContext} {state final : InvokeState}
  {body : List UInt8}

/-- An extension panics exactly when the length it asks for overflows. -/
theorem extendLookupTable_returns :
    (extendLookupTable body).Returns context state ↔
      body.length < 8 ∨ (u64At body 0).toNat < 2 ^ 59 := by
  simp only [extendLookupTable, returns_check, returns_bind,
    rejectBuiltin_returns, rejectBuiltin_yields, readU64_returns,
    readU64_yields, addUsize_returns, addUsize_yields, expect_returns,
    expect_yields, requireSlots_returns, requireSlots_yields, slot_returns,
    slot_yields, requireWritable_returns, requireWritable_yields,
    requireSigner_returns, requireSigner_yields, okOrBuiltin_returns,
    okOrBuiltin_yields, requireStored_returns, requireStored_yields,
    orBuiltin_returns, environment_returns, writeSlot_returns, log_returns,
    not_lt, and_imp, true_and, and_true, forall_const, implies_true]
  constructor
  · intro returns
    rw [or_iff_not_imp_left, Nat.not_lt]
    intro long
    have fits := ((returns long).2 (u64At body 0) long rfl).1
    omega
  · intro bounded long
    refine ⟨long, ?_⟩
    rintro count _ rfl
    have small : (u64At body 0).toNat < 2 ^ 59 :=
      bounded.resolve_left (Nat.not_lt.mpr long)
    refine ⟨?_, ?_⟩
    · change 8 + (u64At body 0).toNat * 32 < 2 ^ 64
      omega
    rintro needed _ rfl holds
    obtain ⟨newAddresses, found, _⟩ := blocks_eq_some holds
    refine ⟨?_, ?_⟩
    · rw [found]
      exact Option.some_ne_none _
    intro _ _ enough
    refine ⟨by omega, ?_⟩
    intro table _
    refine ⟨by omega, ?_⟩
    intros
    omega

/-- The table behind its header grows by the first `count` blocks behind the
count, which the body holds. -/
def Extends (body : List UInt8) (before after : List KeyedAccount) :
    Prop :=
  8 + 32 * (u64At body 0).toNat ≤ body.length ∧
    ∃ table longer, before[0]? = some table ∧
      after = before.set 0 { table with data := longer } ∧
      longer.drop lookupTableMetaSize =
        table.data.drop lookupTableMetaSize ++
          field body 8 (32 * (u64At body 0).toNat)

theorem extendLookupTable_extends
    (yields : (extendLookupTable body).Yields context state () final) :
    Extends body state.accounts final.accounts := by
  simp only [extendLookupTable, yields_bind, rejectBuiltin_yields,
    readU64_yields, addUsize_yields, expect_yields, requireSlots_yields,
    slot_yields, requireWritable_yields, requireSigner_yields,
    okOrBuiltin_yields, requireStored_yields, orBuiltin_yields,
    appendAddresses_eq_ok, environment_yields, writeSlot_yields,
    log_yields, Prod.exists, not_lt, ↓existsAndEq, and_true, true_and,
    exists_const] at yields
  rcases yields with
    ⟨_, _, _, holds, newAddresses, carried, _, table, atTable, _, _, _, _,
     tableMeta, read, _, _, _, written, atWritten, rfl⟩
  cases atTable.symm.trans atWritten
  have holds' : 8 + (u64At body 0).toNat * 32 ≤ body.length := holds
  obtain ⟨addresses, found, _, blocks⟩ := blocks_eq_some holds'
  cases found.symm.trans carried
  refine ⟨by omega, table, _, atTable, rfl, ?_⟩
  rw [drop_writeMeta,
    List.drop_append_of_le_length (length_of_readMeta read), blocks,
    Nat.mul_comm 32]

/-- When an extension parses its list safely and exactly. -/
theorem extendLookupTable_safe_iff (context : InvokeContext)
    (state : InvokeState) (body : List UInt8) :
    ((extendLookupTable body).Returns context state ∧
        ∀ final,
          (extendLookupTable body).Yields context state () final →
            Extends body state.accounts final.accounts) ↔
      body.length < 8 ∨ (u64At body 0).toNat < 2 ^ 59 := by
  rw [extendLookupTable_returns]
  constructor
  · exact And.left
  · intro bounded
    exact ⟨bounded, fun _ => extendLookupTable_extends⟩

/-- A count of 2^59 addresses, and none behind it. -/
theorem huge_count_panics :
    (extendLookupTable (u64Bytes 0x0800000000000000)).run
        { programId := altProgramId
          accountMetas := []
          sysvars := .default }
        { accounts := []
          logs := .empty
          budget := .default
          cells := { pendingCuLimit := none
                     priorityFeeMicroLamportsPerCu := 0 } } =
      none := by
  by_contra returns
  have bounded := extendLookupTable_returns.mp returns
  exact absurd bounded (by decide)

end AltProgram

end Hopper
