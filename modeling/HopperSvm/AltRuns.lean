import HopperSvm.AltEffects

namespace Hopper

namespace AltProgram

open Bytes Labelled LookupTable Routine StrictCall Words

section Change

variable {context : InvokeContext} {data : List UInt8} {index : Nat}
  {p n : KeyedAccount} {tableMeta : LookupTableMeta}

/-- A blank account has no header. -/
theorem not_blank_of_read (read : readMeta p.data = some tableMeta) :
    p.data ≠ [] := by
  intro blank
  have long := length_of_readMeta read
  rw [blank] at long
  cases long

/-- Without an authority nothing of the table changes. -/
theorem Change.frozen (changed : Change context data index p n)
    (read : readMeta p.data = some tableMeta)
    (frozen : tableMeta.authority = none) :
    n.data = p.data ∧ n.owner = p.owner := by
  have unsigned : ¬ AuthoritySigned context tableMeta := by
    intro signed
    rcases signed with ⟨authority, stored, _⟩
    rw [frozen] at stored
    cases stored
  cases changed with
  | bystander behind =>
      exact ⟨rfl, rfl⟩
  | pay =>
      exact ⟨rfl, rfl⟩
  | credit =>
      exact ⟨rfl, rfl⟩
  | create tag blank =>
      exact absurd blank (not_blank_of_read read)
  | rewrite found signed step =>
      cases read.symm.trans found
      exact absurd signed unsigned
  | close tag found signed closeable =>
      cases read.symm.trans found
      exact absurd signed unsigned

/-- What changes the data is signed by the stored authority. -/
theorem Change.signed (changed : Change context data index p n)
    (read : readMeta p.data = some tableMeta)
    (different : n.data ≠ p.data) : AuthoritySigned context tableMeta := by
  cases changed with
  | bystander behind =>
      exact absurd rfl different
  | pay =>
      exact absurd rfl different
  | credit =>
      exact absurd rfl different
  | create tag blank =>
      exact absurd blank (not_blank_of_read read)
  | rewrite found signed step =>
      cases read.symm.trans found
      exact signed
  | close tag found signed closeable =>
      cases read.symm.trans found
      exact signed

/-- The header says deactivated at this slot, in front of these address
bytes. -/
def DeactivatedAt (slot : UInt64) (addressBytes : List UInt8)
    (account : KeyedAccount) : Prop :=
  ∃ tableMeta, readMeta account.data = some tableMeta ∧
    tableMeta.deactivationSlot = slot ∧
    account.data.drop lookupTableMetaSize = addressBytes

/-- A closed table: no lamports, no data, owned by the system program. -/
structure Emptied (account : KeyedAccount) : Prop where
  lamports : account.lamports = 0
  data : account.data = []
  owner : account.owner = systemProgramId

/-- A deactivated table is only frozen, or closed by `Close`. -/
theorem Change.deactivatedAt {slot : UInt64} {addressBytes : List UInt8}
    (changed : Change context data index p n)
    (deactivated : slot ≠ activeDeactivationSlot)
    (holds : DeactivatedAt slot addressBytes p) :
    DeactivatedAt slot addressBytes n ∨
      (index = 0 ∧ tagOf data = 4 ∧ Emptied n) := by
  rcases holds with ⟨tableMeta, read, rfl, rfl⟩
  have fits := length_of_readMeta read
  cases changed with
  | bystander behind =>
      exact Or.inl ⟨tableMeta, read, rfl, rfl⟩
  | pay =>
      exact Or.inl ⟨tableMeta, read, rfl, rfl⟩
  | credit =>
      exact Or.inl ⟨tableMeta, read, rfl, rfl⟩
  | create tag blank =>
      exact absurd blank (not_blank_of_read read)
  | rewrite found signed step =>
      cases read.symm.trans found
      cases step with
      | freeze tag =>
          left
          rw [appendedBy_of_tag tag (by decide), List.flatMap_nil,
            List.append_nil]
          exact ⟨_, readMeta_writeMeta fits, rfl, drop_writeMeta⟩
      | extend tag active fits =>
          exact absurd deactivated active
      | deactivate tag active =>
          exact absurd deactivated active
  | close tag found signed closeable =>
      exact Or.inr ⟨rfl, tag, rfl, rfl, rfl⟩

/-- A header becomes deactivated by `Deactivate` alone. -/
theorem Change.deactivates {slot : UInt64}
    (changed : Change context data index p n)
    (deactivated : slot ≠ activeDeactivationSlot)
    (before : ∀ tableMeta, readMeta p.data = some tableMeta →
      tableMeta.deactivationSlot ≠ slot)
    (after : ∃ tableMeta, readMeta n.data = some tableMeta ∧
      tableMeta.deactivationSlot = slot) :
    index = 0 ∧ tagOf data = 3 ∧ context.sysvars.clock.slot = slot := by
  rcases after with ⟨newMeta, read', rfl⟩
  cases changed with
  | bystander behind =>
      exact absurd rfl (before newMeta read')
  | pay =>
      exact absurd rfl (before newMeta read')
  | credit =>
      exact absurd rfl (before newMeta read')
  | create tag blank =>
      have fits : lookupTableMetaSize ≤
          (List.replicate lookupTableMetaSize (0 : UInt8)).length :=
        List.length_replicate.ge
      simp only [readMeta_writeMeta fits, Option.some.injEq] at read'
      rw [← read'] at deactivated
      exact absurd rfl deactivated
  | rewrite found signed step =>
      have fits := length_of_readMeta found
      have longer : lookupTableMetaSize ≤
          (p.data ++ (appendedBy data).flatMap Pubkey.bytes).length := by
        rw [List.length_append]
        omega
      have unlike := before _ found
      simp only [readMeta_writeMeta longer, Option.some.injEq] at read'
      rw [← read'] at unlike ⊢
      cases step with
      | freeze tag =>
          exact absurd rfl unlike
      | extend tag active fits =>
          exact absurd rfl unlike
      | deactivate tag active =>
          exact ⟨rfl, tag, rfl⟩
  | close tag found signed closeable =>
      cases read'

end Change

/-! ## Runs -/

section Runs

variable {createProgramAddress : CreateProgramAddress}
  {address : Pubkey} {start finish p n : KeyedAccount}
  {call : StrictCall altProgramId
    (altProgramSimulator createProgramAddress)}
  {entries : List (Entry KeyedAccount
    (StrictCall altProgramId (altProgramSimulator createProgramAddress)))}

/-- An instruction with this tag succeeded on the table. -/
def Applies (address : Pubkey) (tag : Nat)
    (call : StrictCall altProgramId
      (altProgramSimulator createProgramAddress)) : Prop :=
  call.Succeeded ∧ tagOf call.ix.data = tag ∧
    (call.ix.accounts.map AccountMeta.pubkey)[0]? = some address

theorem effect_of_moves (moves : call.Moves address p n) :
    n = p ∨ ∃ index, Writes Change address call index p n :=
  moves.effect BuiltinProgram.keepsAddresses_ofRoutine
    (altProgramSimulator_effects createProgramAddress)

/-- The account has the data and owner of another. -/
def KeepsRecord (start account : KeyedAccount) : Prop :=
  account.data = start.data ∧ account.owner = start.owner

/-- A table without an authority keeps its data and owner. -/
theorem run_frozen
    (run : Run altProgramId (altProgramSimulator createProgramAddress)
      address start entries finish)
    {tableMeta : LookupTableMeta}
    (read : readMeta start.data = some tableMeta)
    (frozen : tableMeta.authority = none) :
    KeepsRecord start finish := by
  apply run.invariant _ ⟨rfl, rfl⟩
  intro before call after kept moves
  rcases kept with ⟨sameData, sameOwner⟩
  rcases effect_of_moves moves with rfl | ⟨index, writes⟩
  · exact ⟨sameData, sameOwner⟩
  · rw [← sameData] at read
    obtain ⟨keptData, keptOwner⟩ := writes.changed.frozen read frozen
    exact ⟨keptData.trans sameData, keptOwner.trans sameOwner⟩

theorem deactivatedAt_of_moves {slot : UInt64}
    {addressBytes : List UInt8} (moves : call.Moves address p n)
    (deactivated : slot ≠ activeDeactivationSlot)
    (holds : DeactivatedAt slot addressBytes p) :
    DeactivatedAt slot addressBytes n ∨
      (Applies address 4 call ∧ Emptied n) := by
  rcases effect_of_moves moves with rfl | ⟨index, writes⟩
  · exact Or.inl holds
  · rcases writes.changed.deactivatedAt deactivated holds with
      kept | ⟨rfl, tag, emptied⟩
    · exact Or.inl kept
    · exact Or.inr ⟨⟨writes.succeeded, tag, writes.last.1⟩, emptied⟩

/-- A deactivated table keeps its slot and addresses until a `Close` empties
it. -/
theorem run_deactivated
    (run : Run altProgramId (altProgramSimulator createProgramAddress)
      address start entries finish)
    {slot : UInt64} {addressBytes : List UInt8}
    (deactivated : slot ≠ activeDeactivationSlot)
    (holds : DeactivatedAt slot addressBytes start) :
    DeactivatedAt slot addressBytes finish ∨
      ∃ entry ∈ entries,
        Applies address 4 entry.event ∧ Emptied entry.after :=
  run.invariant_or
    (fun _ _ _ holds moves =>
      deactivatedAt_of_moves moves deactivated holds)
    holds

/-- The header says deactivated at this slot. -/
def HasSlot (slot : UInt64) (account : KeyedAccount) : Prop :=
  ∃ tableMeta, readMeta account.data = some tableMeta ∧
    tableMeta.deactivationSlot = slot

/-- A deactivation slot that was not there at the start was the clock's in
some `Deactivate`. -/
theorem run_deactivates
    (run : Run altProgramId (altProgramSimulator createProgramAddress)
      address start entries finish)
    {slot : UInt64} (deactivated : slot ≠ activeDeactivationSlot)
    (final : HasSlot slot finish) :
    HasSlot slot start ∨
      ∃ entry ∈ entries, Applies address 3 entry.event ∧
        entry.event.svm.sysvars.clock.slot = slot := by
  by_cases initial : HasSlot slot start
  · exact Or.inl initial
  · right
    obtain ⟨entry, member, before, after⟩ :=
      run.exists_switch initial final
    rcases effect_of_moves (run.steps entry member) with
      kept | ⟨index, writes⟩
    · rw [kept] at after
      exact absurd after before
    · have unlike : ∀ tableMeta,
          readMeta entry.before.data = some tableMeta →
            tableMeta.deactivationSlot ≠ slot :=
        fun tableMeta read same => before ⟨tableMeta, read, same⟩
      obtain ⟨rfl, tag, atSlot⟩ :=
        writes.changed.deactivates deactivated unlike after
      exact
        ⟨entry, member, ⟨writes.succeeded, tag, writes.last.1⟩, atSlot⟩

theorem closeable_of_moves (moves : call.Moves address p n)
    (closes : Applies address 4 call) :
    ∃ tableMeta, readMeta p.data = some tableMeta ∧
      tableMeta.IsCloseable call.svm.sysvars.clock.slot := by
  rcases closes with ⟨success, tag, named⟩
  obtain ⟨left, changed⟩ :=
    moves.changed_slot
      (altProgramSimulator_effects createProgramAddress) success named
  exact changed.closeable tag

theorem signed_of_moves (moves : call.Moves address p n)
    {tableMeta : LookupTableMeta}
    (read : readMeta p.data = some tableMeta)
    (different : n.data ≠ p.data) :
    ∃ authority, tableMeta.authority = some authority ∧
      call.SignedBy authority := by
  rcases effect_of_moves moves with kept | ⟨index, writes⟩
  · exact absurd (congrArg KeyedAccount.data kept) different
  · obtain ⟨authority, stored, signed⟩ :=
      writes.changed.signed read different
    exact ⟨authority, stored, Call.signedBy_of_isSigner signed⟩

/-- What holds of every run on a table. -/
structure Lifecycle (address : Pubkey) (start : KeyedAccount)
    (entries : List (Entry KeyedAccount
      (StrictCall altProgramId
        (altProgramSimulator createProgramAddress))))
    (finish : KeyedAccount) : Prop where
  frozen : ∀ tableMeta, readMeta start.data = some tableMeta →
    tableMeta.authority = none → KeepsRecord start finish
  deactivated : ∀ slot addressBytes, slot ≠ activeDeactivationSlot →
    DeactivatedAt slot addressBytes start →
      DeactivatedAt slot addressBytes finish ∨
        ∃ entry ∈ entries,
          Applies address 4 entry.event ∧ Emptied entry.after
  closed : ∀ front entry back, entries = front ++ entry :: back →
    Applies address 4 entry.event →
      ∃ slot, HasSlot slot entry.before ∧
        slot ≠ activeDeactivationSlot ∧
        slot.toNat + 513 < entry.event.svm.sysvars.clock.slot.toNat ∧
        (HasSlot slot start ∨
          ∃ earlier ∈ front, Applies address 3 earlier.event ∧
            earlier.event.svm.sysvars.clock.slot = slot)
  signed : ∀ entry ∈ entries, ∀ tableMeta,
    readMeta entry.before.data = some tableMeta →
      entry.after.data ≠ entry.before.data →
        ∃ authority, tableMeta.authority = some authority ∧
          entry.event.SignedBy authority

theorem run_lifecycle
    (run : Run altProgramId (altProgramSimulator createProgramAddress)
      address start entries finish) :
    Lifecycle address start entries finish where
  frozen := fun _ read frozen => run_frozen run read frozen
  deactivated := fun _ _ deactivated holds =>
    run_deactivated run deactivated holds
  closed := by
    intro front entry back split closes
    subst split
    obtain ⟨upTo, moves, _⟩ := run.of_append
    obtain ⟨tableMeta, read, closeable⟩ := closeable_of_moves moves closes
    rcases LookupTableMeta.isCloseable_iff.mp closeable with
      ⟨deactivated, cooled⟩
    have atSlot : HasSlot tableMeta.deactivationSlot entry.before :=
      ⟨tableMeta, read, rfl⟩
    exact
      ⟨_, atSlot, deactivated, cooled,
        run_deactivates upTo deactivated atSlot⟩
  signed := fun entry member _ read different =>
    signed_of_moves (run.steps entry member) read different

/-- An empty table whose authority is `7..7`. -/
def emptyTable : KeyedAccount :=
  { address := .filled 1
    lamports := initialLamports
    data :=
      writeMeta (List.replicate lookupTableMetaSize 0) (.new (.filled 7))
    owner := altProgramId
    executable := false
    rentEpoch := 0 }

def tableAuthority : KeyedAccount :=
  { address := .filled 7
    lamports := 1000
    data := []
    owner := systemProgramId
    executable := false
    rentEpoch := 0 }

def deactivateIx : Instruction :=
  { programId := altProgramId
    accounts := [⟨.filled 1, false, true⟩, ⟨.filled 7, true, false⟩]
    data := [3, 0, 0, 0] }

/-- A derivation that no instruction on an existing table calls. -/
def idleDerivation : CreateProgramAddress :=
  fun _ _ => .error "InvalidSeeds"

def tableSvm : HopperSvm :=
  (HopperSvm.ofRegistry fun _ => none).withBuiltin altProgramId
    (altProgramSimulator idleDerivation)

theorem deactivateIx_returns :
    (tableSvm.processInstruction deactivateIx
      [emptyTable, tableAuthority]).isSome := by
  decide +kernel

def deactivateCall :
    StrictCall altProgramId (altProgramSimulator idleDerivation) :=
  ofReturns tableSvm deactivateIx [emptyTable, tableAuthority] ⟨rfl, rfl⟩
    rfl rfl deactivateIx_returns

def deactivatedTable : KeyedAccount :=
  { emptyTable with
    data :=
      writeMeta emptyTable.data
        { LookupTableMeta.new (.filled 7) with deactivationSlot := 0 } }

theorem deactivateCall_moves :
    deactivateCall.Moves emptyTable.address emptyTable
      deactivatedTable := by
  unfold Call.Moves
  decide +kernel

def closeIx : Instruction :=
  { programId := altProgramId
    accounts :=
      [⟨.filled 1, false, true⟩, ⟨.filled 7, true, false⟩,
        ⟨.filled 8, false, true⟩]
    data := [4, 0, 0, 0] }

def closingRecipient : KeyedAccount :=
  { tableAuthority with address := .filled 8 }

/-- The first slot that a table deactivated in slot 0 closes in. -/
def cooledSvm : HopperSvm :=
  { tableSvm with
    sysvars :=
      { tableSvm.sysvars with
        clock := { tableSvm.sysvars.clock with slot := 514 } } }

theorem closeIx_returns :
    (cooledSvm.processInstruction closeIx
      [deactivatedTable, tableAuthority, closingRecipient]).isSome := by
  decide +kernel

def closeCall :
    StrictCall altProgramId (altProgramSimulator idleDerivation) :=
  ofReturns cooledSvm closeIx
    [deactivatedTable, tableAuthority, closingRecipient] ⟨rfl, rfl⟩ rfl
    rfl closeIx_returns

def closedTable : KeyedAccount :=
  { deactivatedTable with
    lamports := 0, data := [], owner := systemProgramId }

theorem closeCall_moves :
    closeCall.Moves emptyTable.address deactivatedTable closedTable := by
  unfold Call.Moves
  decide +kernel

theorem run_lifecycle_close :
    Lifecycle emptyTable.address emptyTable
      [⟨emptyTable, deactivateCall, deactivatedTable⟩,
        ⟨deactivatedTable, closeCall, closedTable⟩]
      closedTable :=
  run_lifecycle (.cons deactivateCall_moves (.cons closeCall_moves .nil))

end Runs

end AltProgram

end Hopper
