import HopperSvm.ConfigRuns
import HopperSvm.Refusal

/-!
The instruction data is a count, as many keys with a flag byte each, and the
bytes to store.  A store is accepted for exactly the data of this format
whose flagged keys have signed and whose bytes fit, as long as the length
that the count asks for is a `usize`.
-/

namespace Hopper

namespace ConfigProgram

open Bytes Routine Words

/-- A key with its flag byte, as the key list holds it. -/
def keyBytes (entry : Pubkey × UInt8) : List UInt8 :=
  entry.1.bytes ++ [entry.2]

/-- The data is a count, the listed keys in full, and the rest. -/
def Decodes (data : List UInt8) (keys : List (Pubkey × UInt8))
    (rest : List UInt8) : Prop :=
  ∃ count : UInt64, count.toNat = keys.length ∧
    data = u64Bytes count ++ (keys.flatMap keyBytes ++ rest)

section Format

variable {data rest : List UInt8} {keys : List (Pubkey × UInt8)}

@[simp]
theorem length_keyBytes (entry : Pubkey × UInt8) :
    (keyBytes entry).length = 33 := by
  simp [keyBytes]

@[simp]
theorem length_keys (keys : List (Pubkey × UInt8)) :
    (keys.flatMap keyBytes).length = keys.length * 33 := by
  induction keys with
  | nil =>
      rfl
  | cons entry keys inductionHypothesis =>
      rw [List.flatMap_cons, List.length_append, inductionHypothesis,
        length_keyBytes, List.length_cons]
      omega

/-- The count in front. -/
theorem Decodes.count_eq (decodes : Decodes data keys rest) :
    (u64At data 0).toNat = keys.length := by
  rcases decodes with ⟨count, counted, rfl⟩
  have front : field (u64Bytes count ++ (keys.flatMap keyBytes ++ rest)) 0
      8 = u64Bytes count := by
    rw [field, List.drop_zero]
    exact List.take_left' (length_u64Bytes count)
  rw [u64At, front, ← counted]
  exact congrArg UInt64.toNat (ofNat_leNat_leBytes count)

theorem Decodes.length_eq (decodes : Decodes data keys rest) :
    data.length = 8 + keys.length * 33 + rest.length := by
  rcases decodes with ⟨count, _, rfl⟩
  simp only [List.length_append, length_u64Bytes, length_keys]
  omega

/-- What is left behind the key list. -/
theorem Decodes.rest_eq (decodes : Decodes data keys rest) :
    data.drop (8 + keys.length * 33) = rest := by
  rcases decodes with ⟨count, _, rfl⟩
  rw [← List.append_assoc]
  apply List.drop_left'
  simp

/-- Enough bytes are a list of keys in full. -/
theorem exists_keys {bytes : List UInt8} {count : Nat}
    (holds : count * 33 ≤ bytes.length) :
    ∃ keys : List (Pubkey × UInt8), keys.length = count ∧
      bytes = keys.flatMap keyBytes ++ bytes.drop (count * 33) := by
  induction count generalizing bytes with
  | zero =>
      exact ⟨[], rfl, by simp⟩
  | succ count inductionHypothesis =>
      have behind : count * 33 ≤ (bytes.drop 33).length := by
        rw [List.length_drop]
        omega
      obtain ⟨keys, counted, listed⟩ := inductionHypothesis behind
      have keyLength : (bytes.take 32).length = 32 := by
        rw [List.length_take]
        omega
      have flagged : 32 < bytes.length := by omega
      refine ⟨(⟨bytes.take 32, keyLength⟩, bytes[32]) :: keys, ?_, ?_⟩
      · rw [List.length_cons, counted]
      · have first : bytes.take 33 = bytes.take 32 ++ [bytes[32]] :=
          (List.take_append_getElem flagged).symm
        have later : (bytes.drop 33).drop (count * 33) =
            bytes.drop ((count + 1) * 33) := by
          rw [List.drop_drop, Nat.succ_mul, Nat.add_comm]
        rw [later] at listed
        rw [List.flatMap_cons, keyBytes, List.append_assoc, ← listed,
          ← first, List.take_append_drop]

/-- Data as long as its count asks for decodes. -/
theorem exists_decodes
    (holds : 8 + (u64At data 0).toNat * 33 ≤ data.length) :
    ∃ keys rest, Decodes data keys rest := by
  have long : (u64At data 0).toNat * 33 ≤ (data.drop 8).length := by
    rw [List.length_drop]
    omega
  obtain ⟨keys, counted, listed⟩ := exists_keys long
  have front : u64Bytes (u64At data 0) = data.take 8 :=
    u64Bytes_u64At (by omega : 0 + 8 ≤ data.length)
  refine ⟨keys, (data.drop 8).drop ((u64At data 0).toNat * 33),
    u64At data 0, counted.symm, ?_⟩
  rw [← listed, front, List.take_append_drop]

/-- The key list behind some of its keys. -/
def KeysFrom (data : List UInt8) (index : Nat)
    (keys : List (Pubkey × UInt8)) : Prop :=
  ∃ front rest, front.length = 8 + index * 33 ∧
    data = front ++ (keys.flatMap keyBytes ++ rest)

theorem Decodes.keysFrom (decodes : Decodes data keys rest) :
    KeysFrom data 0 keys := by
  rcases decodes with ⟨count, _, rfl⟩
  exact ⟨u64Bytes count, rest, length_u64Bytes count, rfl⟩

variable {index : Nat} {entry : Pubkey × UInt8}

theorem KeysFrom.tail (from' : KeysFrom data index (entry :: keys)) :
    KeysFrom data (index + 1) keys := by
  rcases from' with ⟨front, rest, long, rfl⟩
  refine ⟨front ++ keyBytes entry, rest, ?_, ?_⟩
  · rw [List.length_append, long, length_keyBytes]
    omega
  · simp

theorem KeysFrom.key_eq (from' : KeysFrom data index (entry :: keys)) :
    (data.drop (8 + index * 33)).take 32 = entry.1.bytes := by
  rcases from' with ⟨front, rest, long, rfl⟩
  rw [List.drop_left' long, List.flatMap_cons, keyBytes,
    List.append_assoc, List.append_assoc]
  exact List.take_left' entry.1.length_eq

theorem KeysFrom.flag_eq (from' : KeysFrom data index (entry :: keys)) :
    byteAt data (8 + index * 33 + 32) = entry.2 := by
  rcases from' with ⟨front, rest, long, rfl⟩
  have spanned : (front ++ entry.1.bytes).length =
      8 + index * 33 + 32 := by
    rw [List.length_append, long, entry.1.length_eq]
  have split : front ++ ((entry :: keys).flatMap keyBytes ++ rest) =
      (front ++ entry.1.bytes) ++
        entry.2 :: (keys.flatMap keyBytes ++ rest) := by
    simp [keyBytes]
  rw [byteAt, split, List.getD_eq_getElem?_getD, ← spanned,
    List.getElem?_append_right (Nat.le_refl _), Nat.sub_self]
  rfl

theorem KeysFrom.in_range (from' : KeysFrom data index (entry :: keys)) :
    8 + index * 33 + 32 ≤ data.length := by
  rcases from' with ⟨front, rest, long, rfl⟩
  simp only [List.length_append, length_keys, List.length_cons, long]
  omega

end Format

section Loop

variable {context : InvokeContext} {state final : InvokeState}
  {data : List UInt8} {keys : List (Pubkey × UInt8)} {index : Nat}

theorem requireKeys_returns (from' : KeysFrom data index keys) :
    (requireKeys data keys.length index).Returns context state := by
  induction keys generalizing index state with
  | nil =>
      exact returns_pure
  | cons entry keys inductionHypothesis =>
      rw [List.length_cons, requireKeys, returns_bind,
        readPubkey_returns]
      refine ⟨from'.in_range, ?_⟩
      intro key state' _
      by_cases flagged : byteAt data (8 + index * 33 + 32) ≠ 0
      · simp only [if_pos flagged, returns_bind]
        exact
          ⟨requireSigner_returns, fun _ _ _ =>
            inductionHypothesis from'.tail⟩
      · simp only [if_neg flagged]
        exact inductionHypothesis from'.tail

/-- Every flagged key of the list has signed. -/
def Signed (context : InvokeContext) (keys : List (Pubkey × UInt8)) :
    Prop :=
  ∀ entry ∈ keys, entry.2 ≠ 0 → IsSigner context entry.1

/-- The loop passes when every flagged key has signed. -/
theorem requireKeys_yields_iff (from' : KeysFrom data index keys) :
    (requireKeys data keys.length index).Yields context state () final ↔
      Signed context keys ∧ state = final := by
  induction keys generalizing index with
  | nil =>
      simp [requireKeys, Signed]
  | cons entry keys inductionHypothesis =>
      have later := inductionHypothesis from'.tail
      have marked := from'.flag_eq
      rw [List.length_cons, requireKeys, yields_bind]
      simp only [readPubkey_yields, from'.in_range, from'.key_eq,
        Pubkey.bytes_inj, true_and, Signed, List.forall_mem_cons,
        ↓existsAndEq]
      by_cases flagged : byteAt data (8 + index * 33 + 32) ≠ 0
      · simp only [if_pos flagged, yields_bind, requireSigner_yields,
          later, Signed, ↓existsAndEq, exists_const, and_assoc]
        rw [marked] at flagged
        simp only [flagged, not_false_eq_true, forall_const, ne_eq,
          true_and]
      · simp only [if_neg flagged, later, Signed]
        rw [marked] at flagged
        simp only [flagged, IsEmpty.forall_iff, true_and]

end Loop

section Store

variable {context : InvokeContext} {state final : InvokeState}
  {data rest : List UInt8} {keys : List (Pubkey × UInt8)}
  {slots : List KeyedAccount} {target : KeyedAccount}

/-- What the program stores under its format. -/
structure Storable (context : InvokeContext) (slots : List KeyedAccount)
    (data : List UInt8) (target : KeyedAccount)
    (keys : List (Pubkey × UInt8)) (rest : List UInt8) : Prop where
  atFirst : slots[0]? = some target
  writable : IsWritable context target.address
  decodes : Decodes data keys rest
  signed : Signed context keys
  fits : rest.length ≤ target.data.length

/-- The account with the bytes in front and zeros behind. -/
def storedIn (target : KeyedAccount) (rest : List UInt8) :
    KeyedAccount :=
  { target with
    data :=
      rest ++ List.replicate (target.data.length - rest.length) 0 }

theorem length_storedIn (fits : rest.length ≤ target.data.length) :
    (storedIn target rest).data.length = target.data.length := by
  simp only [storedIn, List.length_append, List.length_replicate]
  omega

/-- The state behind a store. -/
def stateAfter (state : InvokeState) (data : List UInt8)
    (target : KeyedAccount) (rest : List UInt8) : InvokeState :=
  { state with
    accounts := state.accounts.set 0 (storedIn target rest)
    logs :=
      state.logs.programLog
        s!"config::Store: {target.address} ({u64At data 0} keys, {rest.length} bytes data)" }

/-- The length that the count asks for is computed and is no `usize`. -/
def Overflows (context : InvokeContext) (slots : List KeyedAccount)
    (data : List UInt8) : Prop :=
  8 ≤ data.length ∧ 2 ^ 64 ≤ 8 + (u64At data 0).toNat * 33 ∧
    ∃ target, slots[0]? = some target ∧
      IsWritable context target.address

/-- The count, as the program reads it. -/
theorem keysLen_eq :
    UInt64.ofNat (leNat ((data.drop 0).take 8)) = u64At data 0 := rfl

theorem invoke_returns :
    (invoke data).Returns context state ↔
      ¬ Overflows context state.accounts data := by
  simp only [invoke, returns_check, rejectBuiltin_returns,
    rejectBuiltin_yields, requireSlots_returns, requireSlots_yields,
    slot_returns, slot_yields, requireWritable_returns,
    requireWritable_yields, readU64_returns, readU64_yields,
    addUsize_returns, addUsize_yields, not_lt, and_imp, true_and,
    and_true, forall_const]
  constructor
  · rintro returns ⟨long, large, target, atFirst, writable⟩
    have enough : 1 ≤ state.accounts.length :=
      (List.getElem?_eq_some_iff.mp atFirst).1
    have afterCount :=
      ((returns enough).2 target atFirst writable long).2 (u64At data 0)
        (by omega) rfl
    exact absurd afterCount.1 (Nat.not_lt.mpr large)
  · intro notLarge enough
    refine ⟨by omega, ?_⟩
    intro target atFirst writable long
    refine ⟨by omega, ?_⟩
    rintro keysLen _ rfl
    refine ⟨?_, ?_⟩
    · by_contra large
      exact
        notLarge ⟨long, Nat.not_lt.mp large, target, atFirst, writable⟩
    · rintro userStart _ rfl holds
      obtain ⟨keys, rest, decodes⟩ := exists_decodes holds
      rw [returns_bind, keysLen_eq, decodes.count_eq]
      refine ⟨requireKeys_returns decodes.keysFrom, ?_⟩
      intro _ state' looped
      obtain ⟨_, rfl⟩ :=
        (requireKeys_yields_iff decodes.keysFrom).mp looped
      simp only [returns_check, returns_bind, rejectBuiltin_returns,
        writeSlot_returns, log_returns, true_and, implies_true, and_true]
      intros
      omega

theorem invoke_yields_iff :
    (invoke data).Yields context state () final ↔
      8 + (u64At data 0).toNat * 33 < 2 ^ 64 ∧
        ∃ target keys rest,
          Storable context state.accounts data target keys rest ∧
            stateAfter state data target rest = final := by
  constructor
  · intro yields
    simp only [invoke, gt_iff_lt, not_lt, yields_bind,
      rejectBuiltin_yields, requireSlots_yields, slot_yields,
      requireWritable_yields, readU64_yields, addUsize_yields,
      writeSlot_yields, log_yields, ↓existsAndEq, and_true,
      exists_const] at yields
    simp only [keysLen_eq] at yields
    rcases yields with
      ⟨_, target, atFirst, writable, _, _, small, holds, _, middle, looped,
       fits, written, atWritten, wrote⟩
    obtain ⟨keys, rest, decodes⟩ := exists_decodes holds
    rw [decodes.count_eq] at looped fits wrote
    rw [decodes.rest_eq] at fits wrote
    obtain ⟨signed, rfl⟩ :=
      (requireKeys_yields_iff decodes.keysFrom).mp looped
    cases atFirst.symm.trans atWritten
    exact
      ⟨small, target, keys, rest,
        ⟨atFirst, writable, decodes, signed, fits⟩, wrote⟩
  · rintro ⟨small, target, keys, rest, storable, rfl⟩
    have decodes := storable.decodes
    have enough : 1 ≤ state.accounts.length :=
      (List.getElem?_eq_some_iff.mp storable.atFirst).1
    have long := decodes.length_eq
    simp only [invoke, gt_iff_lt, not_lt, yields_bind,
      rejectBuiltin_yields, requireSlots_yields, slot_yields,
      requireWritable_yields, readU64_yields, addUsize_yields,
      writeSlot_yields, log_yields, keysLen_eq, decodes.count_eq,
      decodes.rest_eq, ↓existsAndEq, and_true, exists_const]
    rw [decodes.count_eq] at small
    refine
      ⟨enough, target, storable.atFirst, storable.writable, by omega,
        by omega, small, by omega, (), state, ?_, storable.fits, target,
        storable.atFirst, rfl⟩
    exact
      (requireKeys_yields_iff decodes.keysFrom).mpr
        ⟨storable.signed, rfl⟩

/-- When a store accepts its format and nothing else, and writes what the
format says. -/
theorem invoke_format_iff (context : InvokeContext) (state : InvokeState)
    (data : List UInt8) :
    ((invoke data).Returns context state ∧
        ((invoke data).Accepts context state ↔
          ∃ target keys rest,
            Storable context state.accounts data target keys rest) ∧
        ∀ final target keys rest,
          (invoke data).Yields context state () final →
            Storable context state.accounts data target keys rest →
              final = stateAfter state data target rest ∧
                (storedIn target rest).data.length =
                  target.data.length) ↔
      ¬ Overflows context state.accounts data := by
  rw [invoke_returns]
  constructor
  · exact And.left
  · intro notLarge
    refine ⟨notLarge, ?_, ?_⟩
    · constructor
      · rintro ⟨_, final, yields⟩
        obtain ⟨_, target, keys, rest, storable, _⟩ :=
          invoke_yields_iff.mp yields
        exact ⟨target, keys, rest, storable⟩
      · rintro ⟨target, keys, rest, storable⟩
        have long := storable.decodes.length_eq
        have counted := storable.decodes.count_eq
        have small : 8 + (u64At data 0).toNat * 33 < 2 ^ 64 := by
          by_contra large
          exact
            notLarge
              ⟨by omega, Nat.not_lt.mp large, target, storable.atFirst,
                storable.writable⟩
        exact
          ⟨(), stateAfter state data target rest,
            invoke_yields_iff.mpr
              ⟨small, target, keys, rest, storable, rfl⟩⟩
    · intro final target keys rest yields storable
      obtain ⟨_, target', keys', rest', storable', rfl⟩ :=
        invoke_yields_iff.mp yields
      cases storable.atFirst.symm.trans storable'.atFirst
      have sameCount : keys.length = keys'.length :=
        storable.decodes.count_eq.symm.trans storable'.decodes.count_eq
      have sameRest : rest' = rest := by
        rw [← storable.decodes.rest_eq, ← storable'.decodes.rest_eq,
          sameCount]
      rw [sameRest]
      exact ⟨rfl, length_storedIn storable.fits⟩

/-- A count of `u64::MAX` keys, and none behind it. -/
theorem huge_keysLen_panics :
    (invoke (u64Bytes 0xFFFFFFFFFFFFFFFF)).run
        { programId := configProgramId
          accountMetas := [⟨.filled 6, false, true⟩]
          sysvars := .default }
        { accounts := [configAccount]
          logs := .empty
          budget := .default
          cells := { pendingCuLimit := none
                     priorityFeeMicroLamportsPerCu := 0 } } =
      none := by
  by_contra returns
  refine invoke_returns.mp returns ⟨by decide, by decide, ?_⟩
  exact ⟨configAccount, rfl, by decide⟩

end Store

end ConfigProgram

end Hopper
