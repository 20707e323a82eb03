import HopperSvm.SlotEffects
import HopperSvm.SolanaRuntime

namespace Hopper

namespace ConfigProgram

open Bytes Labelled Routine

/-- Number `index` in the key list of the instruction data. -/
def keyAt (data : List UInt8) (index : Nat) : Option Pubkey :=
  pubkeyAt data (8 + index * 33)

/-- The key list marks the key as a signer. -/
def Flags (data : List UInt8) (key : Pubkey) : Prop :=
  ∃ index, index < (u64At data 0).toNat ∧ keyAt data index = some key ∧
    byteAt data (8 + index * 33 + 32) ≠ 0

section Store

variable {context : InvokeContext} {state final : InvokeState}
  {data : List UInt8} {key : Pubkey}

/-- The loop passes when every marked key from `start` on has signed. -/
theorem signed_of_requireKeys {count start : Nat}
    (yields :
      (requireKeys data count start).Yields context state () final) :
    state = final ∧
      ∀ index, start ≤ index → index < start + count →
        keyAt data index = some key →
          byteAt data (8 + index * 33 + 32) ≠ 0 →
            IsSigner context key := by
  induction count generalizing start state with
  | zero =>
      rw [requireKeys, yields_pure] at yields
      refine ⟨yields.2, ?_⟩
      intro index from_start below
      omega
  | succ count inductionHypothesis =>
      rw [requireKeys, yields_bind] at yields
      rcases yields with ⟨first, middle, read, rest⟩
      rw [readPubkey_yields] at read
      rcases read with ⟨_, stored, rfl⟩
      have here : keyAt data start = some first :=
        Pubkey.newFromArray_eq_some.mpr stored
      -- the key at `start`, and the ones behind it
      have split : (byteAt data (8 + start * 33 + 32) ≠ 0 →
            IsSigner context first) ∧
          (requireKeys data count (start + 1)).Yields context state ()
            final := by
        by_cases marked : byteAt data (8 + start * 33 + 32) ≠ 0
        · simp only [if_pos marked, yields_bind, requireSigner_yields,
            ↓existsAndEq, and_true, exists_const] at rest
          exact ⟨fun _ => rest.1, rest.2⟩
        · simp only [if_neg marked] at rest
          exact ⟨fun unmarked => absurd unmarked marked, rest⟩
      obtain ⟨same, later⟩ := inductionHypothesis split.2
      refine ⟨same, ?_⟩
      intro index above below stored marked
      rcases Nat.eq_or_lt_of_le above with rfl | behind
      · cases here.symm.trans stored
        exact split.1 marked
      · exact later index behind (by omega) stored marked

/-- What an accepted store has checked. -/
theorem signed_of_invoke
    (yields : (invoke data).Yields context state () final)
    (flags : Flags data key) : IsSigner context key := by
  simp only [invoke, gt_iff_lt, not_lt, yields_bind, rejectBuiltin_yields,
    requireSlots_yields, slot_yields, requireWritable_yields,
    readU64_yields, addUsize_yields, writeSlot_yields, log_yields,
    ↓existsAndEq, and_true, exists_const] at yields
  rcases yields with
    ⟨_, target, _, _, _, _, _, _, _, checked, looped, _⟩
  rcases flags with ⟨index, inList, stored, marked⟩
  exact
    (signed_of_requireKeys looped).2 index (Nat.zero_le _)
      (by rw [Nat.zero_add]; exact inList) stored marked

end Store

section Runs

/-- A call of the program. -/
abbrev ConfigCall : Type := Call configProgramId configProgramSimulator

variable {address : Pubkey} {entries : List (Entry KeyedAccount ConfigCall)}

/-- A successful store on the account at the address. -/
def StoresTo (address : Pubkey) (call : ConfigCall) : Prop :=
  call.Succeeded ∧
    (call.ix.accounts.map AccountMeta.pubkey)[0]? = some address

instance (address : Pubkey) (call : ConfigCall) :
    Decidable (StoresTo address call) :=
  inferInstanceAs (Decidable (_ ∧ _))

/-- The successful stores of a run on the account at the address. -/
def stores (address : Pubkey)
    (entries : List (Entry KeyedAccount ConfigCall)) : List ConfigCall :=
  (entries.map Entry.event).filter fun call => StoresTo address call

/-- The later store carries every key that the earlier one marked. -/
def Carries (store later : ConfigCall) : Prop :=
  ∀ key, Flags store.ix.data key → later.SignedBy key

/-- Every key that the earlier store marked is marked again by the later
one, or signs it of its own accord. -/
def Renews (store later : ConfigCall) : Prop :=
  ∀ key, Flags store.ix.data key → ¬ Flags later.ix.data key →
    later.SignedBy key

/-- A successful store carries the keys that it marks itself. -/
theorem signedBy_of_flags {call : ConfigCall} {key : Pubkey}
    (success : call.Succeeded) (flags : Flags call.ix.data key) :
    call.SignedBy key := by
  obtain ⟨received, state, completed⟩ := success.exists_completed
  obtain ⟨started, _, ran⟩ := completed.invoked
  have yields :
      (invoke call.ix.data).Yields call.context started () state := ran
  exact Call.signedBy_of_isSigner (signed_of_invoke yields flags)

theorem carries_iff_renews {store later : ConfigCall}
    (success : later.Succeeded) :
    Carries store later ↔ Renews store later := by
  constructor
  · intro carries key flags _
    exact carries key flags
  · intro renews key flags
    by_cases again : Flags later.ix.data key
    · exact signedBy_of_flags success again
    · exact renews key flags again

theorem succeeded_of_mem_stores {call : ConfigCall}
    (member : call ∈ stores address entries) : call.Succeeded := by
  have kept := List.of_mem_filter member
  exact (of_decide_eq_true kept).1

/-- A config account stays under its marked keys in just the runs whose
callers renew them: from each store to the next, and from each store to
every later one. -/
theorem run_carries_iff (address : Pubkey)
    (entries : List (Entry KeyedAccount ConfigCall)) :
    ((stores address entries).IsChain Carries ↔
        (stores address entries).IsChain Renews) ∧
      ((stores address entries).Pairwise Carries ↔
        (stores address entries).Pairwise Renews) := by
  constructor
  · apply List.IsChain.iff_of_mem_imp
    intro store later _ member
    exact carries_iff_renews (succeeded_of_mem_stores member)
  · apply List.Pairwise.iff_of_mem
    intro store later _ member
    exact carries_iff_renews (succeeded_of_mem_stores member)

def configAccount : KeyedAccount :=
  { address := .filled 6
    lamports := 1000
    data := [0, 0, 0, 0]
    owner := configProgramId
    executable := false
    rentEpoch := 0 }

def registrar : KeyedAccount :=
  { address := .filled 7
    lamports := 1000
    data := []
    owner := systemProgramId
    executable := false
    rentEpoch := 0 }

/-- Stores the byte 42 under the key `7..7`, which signs. -/
def storeIx : Instruction :=
  { programId := configProgramId
    accounts := [⟨.filled 6, false, true⟩, ⟨.filled 7, true, false⟩]
    data := u64Bytes 1 ++ List.replicate 32 7 ++ [1] ++ [42] }

/-- Stores the byte 43 under no key at all. -/
def takeoverIx : Instruction :=
  { programId := configProgramId
    accounts := [⟨.filled 6, false, true⟩]
    data := u64Bytes 0 ++ [43] }

def configSvm : HopperSvm :=
  (HopperSvm.ofRegistry fun _ => none).withConfigProgram

def storedAccount : KeyedAccount :=
  { configAccount with data := [42, 0, 0, 0] }

def takenAccount : KeyedAccount :=
  { configAccount with data := [43, 0, 0, 0] }

theorem storeIx_returns :
    (configSvm.processInstruction storeIx
      [configAccount, registrar]).isSome := by
  decide +kernel

theorem takeoverIx_returns :
    (configSvm.processInstruction takeoverIx [storedAccount]).isSome := by
  decide +kernel

def storeCall : ConfigCall :=
  .ofReturns configSvm storeIx [configAccount, registrar] ⟨rfl, rfl⟩ rfl
    storeIx_returns

def takeoverCall : ConfigCall :=
  .ofReturns configSvm takeoverIx [storedAccount] ⟨rfl, rfl⟩ rfl
    takeoverIx_returns

theorem storeCall_moves :
    storeCall.Moves configAccount.address configAccount storedAccount := by
  unfold Call.Moves
  decide +kernel

theorem takeoverCall_moves :
    takeoverCall.Moves configAccount.address storedAccount
      takenAccount := by
  unfold Call.Moves
  decide +kernel

def takeoverEntries : List (Entry KeyedAccount ConfigCall) :=
  [⟨configAccount, storeCall, storedAccount⟩,
    ⟨storedAccount, takeoverCall, takenAccount⟩]

/-- The second store goes through without the key that the first one put the
account under. -/
theorem takeover_without_key :
    Call.Run configProgramId configProgramSimulator configAccount.address
        configAccount takeoverEntries takenAccount ∧
      ¬ (stores configAccount.address takeoverEntries).IsChain Carries := by
  refine ⟨.cons storeCall_moves (.cons takeoverCall_moves .nil), ?_⟩
  have both : stores configAccount.address takeoverEntries =
      [storeCall, takeoverCall] := by
    apply List.filter_eq_self.mpr
    intro call member
    simp only [takeoverEntries, List.map_cons, List.map_nil,
      List.mem_cons, List.not_mem_nil, or_false] at member
    rcases member with rfl | rfl
    · decide +kernel
    · decide +kernel
  rw [both]
  intro chain
  have carries := (List.isChain_cons_cons.mp chain).1
  have flags : Flags storeIx.data (.filled 7) :=
    ⟨0, by decide +kernel⟩
  obtain ⟨accountMeta, member, same, _⟩ := carries _ flags
  revert same
  revert accountMeta
  decide +kernel

end Runs

end ConfigProgram

end Hopper
