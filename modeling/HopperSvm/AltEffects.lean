import HopperSvm.AltProgram
import HopperSvm.SlotEffects

namespace Hopper

namespace AltProgram

open Bytes LookupTable Routine Words

/-- The addresses an `Extend` carries. -/
def carriedAddresses (body : List UInt8) : Option (List Pubkey) :=
  (List.range (u64At body 0).toNat).mapM fun index =>
    pubkeyAt body (8 + index * 32)

/-- The addresses an instruction appends. -/
def appendedBy (data : List UInt8) : List Pubkey :=
  if tagOf data = 2 then
    (carriedAddresses (data.drop 4)).getD []
  else
    []

/-- The steps on the header of a table with `count` addresses. -/
inductive HeaderStep (context : InvokeContext) (data : List UInt8)
    (count : Nat) : LookupTableMeta → LookupTableMeta → Prop
  | freeze {tableMeta : LookupTableMeta} (tag : tagOf data = 1) :
      HeaderStep context data count tableMeta
        { tableMeta with authority := none }
  | extend {tableMeta : LookupTableMeta} (tag : tagOf data = 2)
      (active : ¬ tableMeta.IsDeactivated)
      (fits : count + (appendedBy data).length ≤
        lookupTableMaxAddresses) :
      HeaderStep context data count tableMeta
        { tableMeta with
          lastExtendedSlot := context.sysvars.clock.slot
          lastExtendedSlotStartIndex := UInt8.ofNat (min count 255) }
  | deactivate {tableMeta : LookupTableMeta} (tag : tagOf data = 3)
      (active : ¬ tableMeta.IsDeactivated) :
      HeaderStep context data count tableMeta
        { tableMeta with deactivationSlot := context.sysvars.clock.slot }

/-- The stored authority signed. -/
def AuthoritySigned (context : InvokeContext)
    (tableMeta : LookupTableMeta) : Prop :=
  ∃ authority, tableMeta.authority = some authority ∧
    IsSigner context authority

/-- What becomes of the account in a slot. -/
inductive Change (context : InvokeContext) (data : List UInt8) :
    SlotRelation
  | bystander {index : Nat} {p : KeyedAccount} (behind : 0 < index) :
      Change context data index p p
  | pay {p : KeyedAccount} :
      Change context data 2 p
        { p with lamports := p.lamports - initialLamports }
  | credit {p : KeyedAccount} {amount : UInt64} :
      Change context data 2 p
        { p with lamports := saturatingAdd p.lamports amount }
  | create {p : KeyedAccount} {authority : Pubkey}
      (tag : tagOf data = 0) (blank : p.data = []) :
      Change context data 0 p
        { p with
          lamports := initialLamports
          data :=
            writeMeta (List.replicate lookupTableMetaSize 0)
              (.new authority)
          owner := context.programId
          executable := false }
  | rewrite {p : KeyedAccount} {tableMeta newMeta : LookupTableMeta}
      (read : readMeta p.data = some tableMeta)
      (signed : AuthoritySigned context tableMeta)
      (step :
        HeaderStep context data (addressCount p.data) tableMeta newMeta) :
      Change context data 0 p
        { p with
          data :=
            writeMeta
              (p.data ++ (appendedBy data).flatMap Pubkey.bytes)
              newMeta }
  | close {p : KeyedAccount} {tableMeta : LookupTableMeta}
      (tag : tagOf data = 4)
      (read : readMeta p.data = some tableMeta)
      (signed : AuthoritySigned context tableMeta)
      (closeable :
        tableMeta.IsCloseable context.sysvars.clock.slot) :
      Change context data 0 p
        { p with lamports := 0, data := [], owner := systemProgramId }

section Tags

variable {context : InvokeContext} {data : List UInt8}
  {p n : KeyedAccount}

theorem HeaderStep.tag_mem {count : Nat}
    {tableMeta newMeta : LookupTableMeta}
    (step : HeaderStep context data count tableMeta newMeta) :
    tagOf data ∈ [1, 2, 3] := by
  cases step with
  | freeze tag =>
      simp [tag]
  | extend tag active fits =>
      simp [tag]
  | deactivate tag active =>
      simp [tag]

/-- What `Create` leaves of the table. -/
theorem Change.data_of_create (changed : Change context data 0 p n)
    (creates : tagOf data = 0) :
    ∃ authority, n.data =
      writeMeta (List.replicate lookupTableMetaSize 0)
        (.new authority) := by
  cases changed with
  | bystander behind =>
      exact absurd behind (Nat.lt_irrefl 0)
  | create tag blank =>
      exact ⟨_, rfl⟩
  | rewrite read signed step =>
      have other := step.tag_mem
      rw [creates] at other
      exact absurd other (by decide)
  | close tag read signed closeable =>
      exact absurd (tag.symm.trans creates) (by decide)

/-- What the instructions on an open table leave of it. -/
theorem Change.data_of_rewrite (changed : Change context data 0 p n)
    (rewrites : tagOf data ∈ [1, 2, 3]) :
    ∃ tableMeta newMeta, readMeta p.data = some tableMeta ∧
      HeaderStep context data (addressCount p.data) tableMeta newMeta ∧
      n.data =
        writeMeta (p.data ++ (appendedBy data).flatMap Pubkey.bytes)
          newMeta := by
  cases changed with
  | bystander behind =>
      exact absurd behind (Nat.lt_irrefl 0)
  | create tag blank =>
      rw [tag] at rewrites
      exact absurd rewrites (by decide)
  | rewrite read signed step =>
      exact ⟨_, _, read, step, rfl⟩
  | close tag read signed closeable =>
      rw [tag] at rewrites
      exact absurd rewrites (by decide)

/-- `Close` wants a table deactivated long enough ago. -/
theorem Change.closeable (changed : Change context data 0 p n)
    (closes : tagOf data = 4) :
    ∃ tableMeta, readMeta p.data = some tableMeta ∧
      tableMeta.IsCloseable context.sysvars.clock.slot := by
  cases changed with
  | bystander behind =>
      exact absurd behind (Nat.lt_irrefl 0)
  | create tag blank =>
      exact absurd (tag.symm.trans closes) (by decide)
  | rewrite read signed step =>
      have other := step.tag_mem
      rw [closes] at other
      exact absurd other (by decide)
  | close tag read signed closeable =>
      exact ⟨_, read, closeable⟩

end Tags

section Handlers

variable {createProgramAddress : CreateProgramAddress}
  {context : InvokeContext} {state final : InvokeState}
  {data : List UInt8}

@[simp]
theorem requireStored_yields {verb frozen : String}
    {stored : Option Pubkey} {authAddr tableAddr : Pubkey}
    {result : Unit} :
    (requireStored verb stored authAddr tableAddr frozen).Yields context
        state result final ↔
      stored = some authAddr ∧ state = final := by
  cases stored with
  | none =>
      simp [requireStored]
  | some stored =>
      simp [requireStored]

/-- Only `Extend` appends. -/
theorem appendedBy_of_tag {tag : Nat} (same : tagOf data = tag)
    (other : tag ≠ 2) : appendedBy data = [] := by
  rw [appendedBy, same, if_neg other]

/-- The slots behind the table may stay as they are. -/
theorem Change.same_behind (slot : Nat) (p : KeyedAccount)
    (behind : slot ≠ 0) : Change context data slot p p :=
  .bystander (Nat.pos_of_ne_zero behind)

/-- An instruction that assigns to the table alone. -/
theorem slotWise_set_table {received : List KeyedAccount}
    {table written : KeyedAccount} (atTable : received[0]? = some table)
    (own : Change context data 0 table written) :
    SlotWise (Change context data) received (received.set 0 written) :=
  SlotWise.set_one Change.same_behind atTable own

/-- An instruction that assigns to slot 2 and then to the table. -/
theorem slotWise_set_pair {received : List KeyedAccount}
    {table other written written' : KeyedAccount}
    (atTable : received[0]? = some table)
    (atOther : received[2]? = some other)
    (own : Change context data 0 table written)
    (paid : Change context data 2 other written') :
    SlotWise (Change context data) received
      ((received.set 2 written').set 0 written) := by
  rw [List.set_comm _ _ (by decide)]
  exact SlotWise.set_two Change.same_behind atTable atOther own paid

theorem createLookupTable_effect (tag : tagOf data = 0)
    (yields :
      (createLookupTable createProgramAddress (data.drop 4)).Yields context
        state () final) :
    SlotWise (Change context data) state.accounts final.accounts := by
  simp only [createLookupTable, ne_eq, yields_bind, rejectBuiltin_yields,
    readU64_yields, slice_yields, requireSlots_yields, slot_yields,
    requireWritable_yields, requireSigner_yields, environment_yields,
    orBuiltin_yields, requireFunds_yields, writeSlot_yields, log_yields,
    not_or, Decidable.not_not, ↓existsAndEq, and_true, true_and,
    exists_const] at yields
  rcases yields with
    ⟨_, _, _, _, table, atTable, authority, _, payer, atPayer, _, _, _, _,
     _, ⟨blank, _⟩, _, paid, atPaid, created, atCreated, rfl⟩
  cases atPayer.symm.trans atPaid
  rw [List.getElem?_set_ne (by decide)] at atCreated
  cases atTable.symm.trans atCreated
  exact slotWise_set_pair atTable atPayer (.create tag blank) .pay

theorem freezeLookupTable_effect (tag : tagOf data = 1)
    (yields : freezeLookupTable.Yields context state () final) :
    SlotWise (Change context data) state.accounts final.accounts := by
  simp only [freezeLookupTable, yields_bind, requireSlots_yields,
    slot_yields, requireWritable_yields, requireSigner_yields,
    okOrBuiltin_yields, requireStored_yields, writeSlot_yields, log_yields,
    ↓existsAndEq, and_true, exists_const] at yields
  rcases yields with
    ⟨_, table, atTable, auth, _, _, signed, tableMeta, read, stored,
     written, atWritten, rfl⟩
  cases atTable.symm.trans atWritten
  have step :
      HeaderStep context data (addressCount table.data) tableMeta
        { tableMeta with authority := none } := .freeze tag
  have own := Change.rewrite read ⟨_, stored, signed⟩ step
  rw [appendedBy_of_tag tag (by decide), List.flatMap_nil,
    List.append_nil] at own
  exact slotWise_set_table atTable own

theorem deactivateLookupTable_effect (tag : tagOf data = 3)
    (yields : deactivateLookupTable.Yields context state () final) :
    SlotWise (Change context data) state.accounts final.accounts := by
  simp only [deactivateLookupTable, yields_bind, requireSlots_yields,
    slot_yields, requireWritable_yields, requireSigner_yields,
    okOrBuiltin_yields, requireStored_yields, rejectBuiltin_yields,
    environment_yields, writeSlot_yields, log_yields, ↓existsAndEq,
    and_true, true_and, exists_const] at yields
  rcases yields with
    ⟨_, table, atTable, auth, _, _, signed, tableMeta, read, stored,
     active, written, atWritten, rfl⟩
  cases atTable.symm.trans atWritten
  have step :
      HeaderStep context data (addressCount table.data) tableMeta
        { tableMeta with
          deactivationSlot := context.sysvars.clock.slot } :=
    .deactivate tag active
  have own := Change.rewrite read ⟨_, stored, signed⟩ step
  rw [appendedBy_of_tag tag (by decide), List.flatMap_nil,
    List.append_nil] at own
  exact slotWise_set_table atTable own

theorem appendAddresses_eq_ok {bytes longer : List UInt8}
    {newAddresses : List Pubkey} {total : Nat} :
    appendAddresses bytes newAddresses = .ok (total, longer) ↔
      addressCount bytes + newAddresses.length ≤ lookupTableMaxAddresses ∧
        addressCount bytes + newAddresses.length = total ∧
        bytes ++ newAddresses.flatMap Pubkey.bytes = longer := by
  rw [appendAddresses]
  split
  · rename_i tooMany
    simp only [reduceCtorEq, false_iff, not_and]
    omega
  · rename_i fits
    rw [Except.ok.injEq, Prod.mk.injEq]
    exact ⟨fun same => ⟨by omega, same⟩, fun same => same.2⟩

theorem extendLookupTable_effect (tag : tagOf data = 2)
    (yields :
      (extendLookupTable (data.drop 4)).Yields context state () final) :
    SlotWise (Change context data) state.accounts final.accounts := by
  simp only [extendLookupTable, yields_bind, rejectBuiltin_yields,
    readU64_yields, addUsize_yields, expect_yields, requireSlots_yields,
    slot_yields, requireWritable_yields, requireSigner_yields,
    okOrBuiltin_yields, requireStored_yields, orBuiltin_yields,
    appendAddresses_eq_ok, environment_yields, writeSlot_yields,
    log_yields, Prod.exists, ↓existsAndEq, and_true, true_and,
    exists_const] at yields
  rcases yields with
    ⟨_, _, _, _, newAddresses, carried, _, table, atTable, auth, _, _,
     signed, tableMeta, read, stored, active, fits, written, atWritten,
     rfl⟩
  cases atTable.symm.trans atWritten
  have carries : carriedAddresses (data.drop 4) = some newAddresses :=
    carried
  have appended : appendedBy data = newAddresses := by
    rw [appendedBy, if_pos tag, carries, Option.getD_some]
  rw [← appended] at fits
  have own :=
    Change.rewrite read ⟨_, stored, signed⟩ (.extend tag active fits)
  rw [appended] at own
  exact slotWise_set_table atTable own

theorem closeLookupTable_effect (tag : tagOf data = 4)
    (yields : closeLookupTable.Yields context state () final) :
    SlotWise (Change context data) state.accounts final.accounts := by
  simp only [closeLookupTable, yields_bind, requireSlots_yields,
    slot_yields, requireWritable_yields, requireSigner_yields,
    okOrBuiltin_yields, requireStored_yields, environment_yields,
    rejectBuiltin_yields, writeSlot_yields, log_yields,
    Decidable.not_not, ↓existsAndEq, and_true, true_and, exists_const]
    at yields
  rcases yields with
    ⟨_, table, atTable, auth, _, recipient, atRecipient, _, signed, _,
     tableMeta, read, stored, closeable, credited, atCredited, closed,
     atClosed, rfl⟩
  cases atRecipient.symm.trans atCredited
  rw [List.getElem?_set_ne (by decide)] at atClosed
  cases atTable.symm.trans atClosed
  exact
    slotWise_set_pair atTable atRecipient
      (.close tag read ⟨_, stored, signed⟩ closeable) .credit

/-- What an accepted instruction does to its slots. -/
theorem invoke_effect
    (yields :
      (invoke createProgramAddress data).Yields context state () final) :
    SlotWise (Change context data) state.accounts final.accounts := by
  simp only [invoke, yields_bind, rejectBuiltin_yields, readU32_yields,
    ↓existsAndEq, and_true, exists_const] at yields
  rcases yields with ⟨_, _, ran⟩
  split at ran
  · exact createLookupTable_effect ‹_› ran
  · exact freezeLookupTable_effect ‹_› ran
  · exact extendLookupTable_effect ‹_› ran
  · exact deactivateLookupTable_effect ‹_› ran
  · exact closeLookupTable_effect ‹_› ran
  · simp at ran

end Handlers

end AltProgram

theorem altProgramSimulator_effects
    (createProgramAddress : CreateProgramAddress) :
    (altProgramSimulator createProgramAddress).Effects
      AltProgram.Change :=
  BuiltinProgram.effects_ofRoutine fun _ _ _ _ yields =>
    AltProgram.invoke_effect yields

end Hopper
