import HopperSvm.Bundled

/-!
A routine that checks before it writes hands an error back with the state it
was given.  Reading steps and steps that cannot fail are recognised by
instance search, so for a handler it is enough to unfold it and to pass its
checks one by one until only the writes are left.  Together with a proof
that the handler does not panic this leaves two endings, and the handler
refuses whatever it does not accept.
-/

namespace Hopper

namespace Routine

open Procedure

variable {α β : Type}

/-- The routine leaves the state as it was, however it ends. -/
class ReadOnly (routine : Routine α) : Prop where
  unchanged : Keeps Eq routine.run

/-- The routine never ends in an error. -/
class Infallible (routine : Routine α) : Prop where
  succeeds : Procedure.Infallible routine.run

/-- The routine leaves the state as it was when it ends in an error. -/
class Atomic (routine : Routine α) : Prop where
  rolledBack : Procedure.Atomic routine.run

section Sequences

variable {first : Routine α} {next : α → Routine β}

instance [ReadOnly first] [∀ value, ReadOnly (next value)] :
    ReadOnly (first >>= next) where
  unchanged :=
    Keeps.bind ReadOnly.unchanged fun value =>
      @ReadOnly.unchanged _ (next value) _

instance [Infallible first] [∀ value, Infallible (next value)] :
    Infallible (first >>= next) where
  succeeds :=
    Procedure.Infallible.bind Infallible.succeeds fun value =>
      @Infallible.succeeds _ (next value) _

instance (priority := low) {routine : Routine α} [Infallible routine] :
    Atomic routine where
  rolledBack := .of_infallible Infallible.succeeds

instance (priority := low) {routine : Routine α} [ReadOnly routine] :
    Atomic routine where
  rolledBack := .of_keeps ReadOnly.unchanged

/-- A check in front. -/
theorem Atomic.after_check [ReadOnly first]
    (rest : ∀ value, Atomic (next value)) : Atomic (first >>= next) where
  rolledBack :=
    .bind_of_keeps ReadOnly.unchanged fun value =>
      (rest value).rolledBack

end Sequences

theorem ReadOnly.of_stateless {handler : Handler α}
    (stateless : Stateless handler) :
    ReadOnly (ofStateless handler stateless) where
  unchanged := stateless.keeps

instance (value : α) : ReadOnly (pure value) :=
  .of_stateless (Stateless.pure value)

instance : ReadOnly environment :=
  .of_stateless Stateless.environment

instance (condition : Prop) [Decidable condition]
    (err : HopperSvmError) : ReadOnly (rejectIf condition err) :=
  .of_stateless (Stateless.rejectIf condition err)

instance (value : Except HopperSvmError α) :
    ReadOnly (ofExcept value) :=
  .of_stateless (Stateless.ofExcept value)

instance (value : Option α) : ReadOnly (expect value) :=
  .of_stateless (Stateless.expect value)

instance : ReadOnly accountCount where
  unchanged := Keeps.gets _

instance (index : Nat) : ReadOnly (slot index) where
  unchanged := Handler.slot_keeps index

instance (address : Pubkey) : ReadOnly (requireSigner address) := by
  simp only [requireSigner]
  infer_instance

instance (address : Pubkey) : ReadOnly (requireWritable address) := by
  simp only [requireWritable]
  infer_instance

instance (condition : Prop) [Decidable condition] (message : String) :
    ReadOnly (rejectBuiltin condition message) := by
  simp only [rejectBuiltin]
  infer_instance

instance {ε : Type} (value : Except ε α) (message : ε → String) :
    ReadOnly (orBuiltin value message) := by
  simp only [orBuiltin]
  infer_instance

instance (value : Option α) (message : String) :
    ReadOnly (okOrBuiltin value message) := by
  simp only [okOrBuiltin]
  infer_instance

instance (count : Nat) : ReadOnly (requireSlots count) := by
  simp only [requireSlots]
  infer_instance

instance (bytes : List UInt8) (start stop : Nat) :
    ReadOnly (slice bytes start stop) := by
  simp only [slice]
  infer_instance

instance (bytes : List UInt8) (start : Nat) :
    ReadOnly (readU32 bytes start) := by
  simp only [readU32]
  infer_instance

instance (bytes : List UInt8) (start : Nat) :
    ReadOnly (readU64 bytes start) := by
  simp only [readU64]
  infer_instance

instance (bytes : List UInt8) (start : Nat) :
    ReadOnly (readPubkey bytes start) := by
  simp only [readPubkey]
  infer_instance

instance (left right : Nat) : ReadOnly (addUsize left right) := by
  simp only [addUsize]
  infer_instance

instance (account : KeyedAccount) (lamports : UInt64) :
    ReadOnly (requireFunds account lamports) := by
  simp only [requireFunds]
  infer_instance

instance (space : UInt64) : ReadOnly (zeroed space) := by
  simp only [zeroed]
  infer_instance

instance : Infallible environment where
  succeeds := by
    intro context state err final ran
    cases ran

instance (value : Option α) : Infallible (expect value) where
  succeeds := .expect value

instance (index : Nat) : Infallible (slot index) where
  succeeds := .bind (.gets _) fun found => .expect found

instance (message : String) : Infallible (log message) where
  succeeds := .modify _

instance (index : Nat) (update : KeyedAccount → KeyedAccount)
    (sameAddress : ∀ account,
      (update account).address = account.address) :
    Infallible (writeSlot index update sameAddress) where
  succeeds :=
    .bind (.bind (.gets _) fun found => .expect found) fun _ => .modify _

section Checks

variable {first : Routine α} {next : α → Routine β}
  {context : InvokeContext} {state final : InvokeState}

theorem ReadOnly.eq_of_yields [reads : ReadOnly first] {value : α}
    (yields : first.Yields context state value final) : final = state :=
  (reads.unchanged context state (.ok value) final yields).symm

/-- What follows a check starts where the check did. -/
theorem returns_check [ReadOnly first] :
    (first >>= next).Returns context state ↔
      first.Returns context state ∧
        ∀ value, first.Yields context state value state →
          (next value).Returns context state := by
  rw [returns_bind]
  constructor
  · intro returns
    exact ⟨returns.1, fun value => returns.2 value state⟩
  · intro returns
    refine ⟨returns.1, ?_⟩
    intro value state' yields
    cases ReadOnly.eq_of_yields yields
    exact returns.2 value yields

end Checks

/-- The routine ends in an error and leaves the slots as they were. -/
def Refuses (routine : Routine α) (context : InvokeContext)
    (state : InvokeState) : Prop :=
  ∃ err final, routine.run context state = some (.error err, final) ∧
    final.accounts = state.accounts

/-- The routine ends with a value. -/
def Accepts (routine : Routine α) (context : InvokeContext)
    (state : InvokeState) : Prop :=
  ∃ value final, routine.Yields context state value final

variable {routine : Routine α} {context : InvokeContext}
  {state : InvokeState}

theorem Refuses.not_accepts (refuses : routine.Refuses context state) :
    ¬ routine.Accepts context state := by
  rcases refuses with ⟨err, final, failed, _⟩
  intro accepts
  rcases accepts with ⟨value, final', yields⟩
  have both := failed.symm.trans yields
  cases both

/-- What follows a check decides in the state the check ran in. -/
theorem accepts_check {β : Type} {next : α → Routine β}
    [ReadOnly routine] :
    (routine >>= next).Accepts context state ↔
      ∃ value, routine.Yields context state value state ∧
        (next value).Accepts context state := by
  constructor
  · intro accepts
    rcases accepts with ⟨result, final, yields⟩
    obtain ⟨value, state', passed, rest⟩ := yields_bind.mp yields
    cases ReadOnly.eq_of_yields passed
    exact ⟨value, passed, result, final, rest⟩
  · intro passed
    rcases passed with ⟨value, passed, result, final, rest⟩
    exact ⟨result, final, yields_bind.mpr ⟨value, state, passed, rest⟩⟩

theorem Accepts.of_returns [Infallible routine]
    (returns : routine.Returns context state) :
    routine.Accepts context state := by
  cases ended : routine.run context state with
  | none =>
      exact absurd ended returns
  | some outcome =>
      rcases outcome with ⟨verdict, final⟩
      cases verdict with
      | error err =>
          exact
            absurd ended (Infallible.succeeds context state err final)
      | ok value =>
          exact ⟨value, final, ended⟩

/-- What an atomic routine does not accept, it refuses. -/
theorem refuses_iff_not_accepts [Atomic routine]
    (returns : routine.Returns context state) :
    routine.Refuses context state ↔ ¬ routine.Accepts context state := by
  constructor
  · exact Refuses.not_accepts
  · intro notAccepted
    cases ended : routine.run context state with
    | none =>
        exact absurd ended returns
    | some outcome =>
        rcases outcome with ⟨verdict, final⟩
        cases verdict with
        | error err =>
            have same :=
              @Atomic.rolledBack _ routine _ context state err final ended
            exact ⟨err, final, ended, by rw [same]⟩
        | ok value =>
            exact absurd ⟨value, final, ended⟩ notAccepted

end Routine

end Hopper
