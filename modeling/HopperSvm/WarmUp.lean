import HopperSvm.SolanaRuntime
import HopperSvm.TableHistory

namespace Hopper

namespace AltProgram

open Bytes Labelled LookupTable Routine

variable {createProgramAddress : CreateProgramAddress}

/-- The addresses appended in a run, with the slot each was appended at. -/
def stampedIn
    (entries : List (Entry KeyedAccount
      (Invocation createProgramAddress))) : List (Pubkey × UInt64) :=
  entries.flatMap fun entry =>
    (appendedBy entry.event.data).map fun address =>
      (address, entry.event.context.sysvars.clock.slot)

theorem appendedIn_eq_stampedIn
    (entries : List (Entry KeyedAccount
      (Invocation createProgramAddress))) :
    appendedIn entries = (stampedIn entries).map Prod.fst := by
  simp [appendedIn, stampedIn, List.map_flatMap, Function.comp_def]

/-- The table was not deactivated. -/
def Active (table : KeyedAccount) : Prop :=
  ∃ tableMeta, readMeta table.data = some tableMeta ∧
    ¬ tableMeta.IsDeactivated

theorem active_of_create {invocation : Invocation createProgramAddress}
    {p n : KeyedAccount} (rewrites : Rewrites p invocation n)
    (creates : tagOf invocation.data = 0) : Active n := by
  obtain ⟨authority, created⟩ :=
    (change_of_rewrites rewrites).data_of_create creates
  refine ⟨.new authority, ?_, fun deactivated => deactivated rfl⟩
  rw [created]
  exact readMeta_writeMeta List.length_replicate.ge

/-- `Extend` keeps the deactivation slot. -/
theorem active_of_extend {invocation : Invocation createProgramAddress}
    {p n : KeyedAccount} (rewrites : Rewrites p invocation n)
    (extending : tagOf invocation.data = 2) : Active n := by
  have grows : tagOf invocation.data ∈ [1, 2, 3] := by
    simp [extending]
  obtain ⟨tableMeta, newMeta, read, step, written⟩ :=
    (change_of_rewrites rewrites).data_of_rewrite grows
  have header := length_of_readMeta read
  have fits : lookupTableMetaSize ≤
      (p.data ++
        (appendedBy invocation.data).flatMap Pubkey.bytes).length := by
    rw [List.length_append]
    omega
  refine ⟨newMeta, ?_, ?_⟩
  · rw [written]
    exact readMeta_writeMeta fits
  · cases step with
    | freeze tag =>
        exact absurd (tag.symm.trans extending) (by decide)
    | extend tag active fits =>
        exact active
    | deactivate tag active =>
        exact absurd (tag.symm.trans extending) (by decide)

theorem active_of_run {entries : List (Entry KeyedAccount
      (Invocation createProgramAddress))}
    {start finish : KeyedAccount}
    (run : Trace Rewrites start entries finish)
    (extending : ∀ entry ∈ entries, tagOf entry.event.data = 2)
    (active : Active start) : Active finish := by
  induction run with
  | nil =>
      exact active
  | cons first later inductionHypothesis =>
      apply inductionHypothesis
      · intro entry member
        exact extending entry (List.mem_cons_of_mem _ member)
      · exact active_of_extend first (extending _ List.mem_cons_self)

/-- What stands in front of the two loops of a lookup. -/
theorem resolveAddressTableLookup_iff {svm : HopperSvm}
    {accounts : List KeyedAccount} {address : Pubkey}
    {writableIndexes readonlyIndexes : List UInt8}
    {resolved : List Pubkey × List Pubkey} :
    svm.resolveAddressTableLookup accounts address writableIndexes
          readonlyIndexes = .ok resolved ↔
      ∃ table tableMeta, findAccount address accounts = some table ∧
        readMeta table.data = some tableMeta ∧
        ¬ tableMeta.IsCloseable svm.sysvars.clock.slot ∧
        resolveLookup table.data writableIndexes readonlyIndexes =
          .ok resolved := by
  rw [HopperSvm.resolveAddressTableLookup]
  cases found : findAccount address accounts with
  | none =>
      simp [bind, Except.bind]
  | some table =>
      cases read : readMeta table.data with
      | none =>
          simp [bind, Except.bind, read]
      | some tableMeta =>
          by_cases closeable :
              tableMeta.IsCloseable svm.sysvars.clock.slot
          · simp [bind, Except.bind, read, closeable]
          · cases lookup :
                resolveLookup table.data writableIndexes
                  readonlyIndexes <;>
              simp [bind, Except.bind, Except.mapError, read, closeable,
                lookup]

/-- An open table resolves what it stores, whatever the slot. -/
theorem resolveAddressTableLookup_eq_ok {svm : HopperSvm}
    {accounts : List KeyedAccount} {address : Pubkey}
    {table : KeyedAccount} {stored : List Pubkey}
    (found : findAccount address accounts = some table)
    (active : Active table) (holds : Holds table stored)
    {writableIndexes readonlyIndexes : List UInt8}
    {writable readonly : List Pubkey} :
    svm.resolveAddressTableLookup accounts address writableIndexes
          readonlyIndexes = .ok (writable, readonly) ↔
      Selects stored writableIndexes writable ∧
        Selects stored readonlyIndexes readonly := by
  rcases active with ⟨tableMeta, read, open_⟩
  have notCloseable :
      ¬ tableMeta.IsCloseable svm.sysvars.clock.slot :=
    fun closeable => open_ closeable.1
  rw [resolveAddressTableLookup_iff, ← resolveLookup_selects holds.stores]
  simp only [found, read, notCloseable, Option.some.injEq,
    existsAndEq, not_false_eq_true, true_and]

/-- Every requested entry was appended below the slot. -/
def WarmedUp (stamped : List (Pubkey × UInt64)) (now : UInt64)
    (indexes : List UInt8) : Prop :=
  ∀ index ∈ indexes, ∃ address slot,
    stamped[index.toNat]? = some (address, slot) ∧ slot < now

/-- Every address was appended below the slot. -/
def AppendedBefore (stamped : List (Pubkey × UInt64)) (now : UInt64)
    (resolved : List Pubkey) : Prop :=
  ∀ address ∈ resolved, ∃ slot, (address, slot) ∈ stamped ∧ slot < now

/-- A request that resolves resolves to entries that were appended below the
slot. -/
def ResolvesOnlyWarm (svm : HopperSvm) (accounts : List KeyedAccount)
    (tableAddress : Pubkey) (stamped : List (Pubkey × UInt64))
    (writableIndexes readonlyIndexes : List UInt8) : Prop :=
  ∀ writable readonly,
    svm.resolveAddressTableLookup accounts tableAddress writableIndexes
        readonlyIndexes = .ok (writable, readonly) →
      AppendedBefore stamped svm.sysvars.clock.slot
          (writable ++ readonly) ∧
        WarmedUp stamped svm.sysvars.clock.slot
          (writableIndexes ++ readonlyIndexes)

theorem WarmedUp.appendedBefore {stamped : List (Pubkey × UInt64)}
    {now : UInt64} {indexes : List UInt8} {resolved : List Pubkey}
    (warm : WarmedUp stamped now indexes)
    (selects : Selects (stamped.map Prod.fst) indexes resolved) :
    AppendedBefore stamped now resolved := by
  intro address member
  have listed : some address ∈ resolved.map some :=
    List.mem_map_of_mem member
  rw [selects] at listed
  rcases List.mem_map.mp listed with ⟨index, requested, atIndex⟩
  obtain ⟨stored, slot, stampedAt, below⟩ := warm index requested
  rw [List.getElem?_map, stampedAt] at atIndex
  cases atIndex
  exact ⟨slot, List.mem_of_getElem? stampedAt, below⟩

theorem Selects.append {stored : List Pubkey} {left right : List UInt8}
    {first second : List Pubkey} (selects : Selects stored left first)
    (selects' : Selects stored right second) :
    Selects stored (left ++ right) (first ++ second) := by
  rw [Selects, List.map_append, List.map_append, selects, selects']

/-- The slot at which an entry was appended is not looked at: a request
resolves too early just when all its entries are there and one is not yet
warm. -/
theorem resolvesOnlyWarm_iff {creation : Invocation createProgramAddress}
    {entries : List (Entry KeyedAccount
      (Invocation createProgramAddress))}
    {blank start table : KeyedAccount}
    (created : Rewrites blank creation start)
    (creates : tagOf creation.data = 0)
    (run : Trace Rewrites start entries table)
    (extending : ∀ entry ∈ entries, tagOf entry.event.data = 2)
    {svm : HopperSvm} {accounts : List KeyedAccount}
    {tableAddress : Pubkey}
    (found : findAccount tableAddress accounts = some table)
    {writableIndexes readonlyIndexes : List UInt8} :
    ResolvesOnlyWarm svm accounts tableAddress (stampedIn entries)
        writableIndexes readonlyIndexes ↔
      (∃ index ∈ writableIndexes ++ readonlyIndexes,
          (stampedIn entries).length ≤ index.toNat) ∨
        WarmedUp (stampedIn entries) svm.sysvars.clock.slot
          (writableIndexes ++ readonlyIndexes) := by
  have grows : ∀ entry ∈ entries, tagOf entry.event.data ∈ [1, 2, 3] := by
    intro entry member
    simp [extending entry member]
  have holds := holds_of_run run grows (holds_of_create created creates)
  rw [List.nil_append, appendedIn_eq_stampedIn] at holds
  have active :=
    active_of_run run extending (active_of_create created creates)
  have resolves_iff (writable readonly : List Pubkey) :
      svm.resolveAddressTableLookup accounts tableAddress writableIndexes
            readonlyIndexes = .ok (writable, readonly) ↔
        Selects ((stampedIn entries).map Prod.fst) writableIndexes
            writable ∧
          Selects ((stampedIn entries).map Prod.fst) readonlyIndexes
            readonly :=
    resolveAddressTableLookup_eq_ok found active holds
  constructor
  · intro onlyWarm
    by_cases beyond : ∃ index ∈ writableIndexes ++ readonlyIndexes,
        (stampedIn entries).length ≤ index.toNat
    · exact Or.inl beyond
    · right
      have inside : ∀ index ∈ writableIndexes ++ readonlyIndexes,
          index.toNat < ((stampedIn entries).map Prod.fst).length := by
        intro index member
        by_contra outside
        rw [List.length_map, Nat.not_lt] at outside
        exact beyond ⟨index, member, outside⟩
      obtain ⟨writable, readonly, selects⟩ :=
        exists_selects_pair_iff.mpr inside
      exact (onlyWarm _ _ ((resolves_iff _ _).mpr selects)).2
  · rintro (⟨index, member, beyond⟩ | warm) writable readonly resolved
    · have selects := (resolves_iff _ _).mp resolved
      have inside :=
        exists_selects_pair_iff.mp ⟨_, _, selects⟩ index member
      rw [List.length_map] at inside
      omega
    · obtain ⟨first, second⟩ := (resolves_iff _ _).mp resolved
      exact ⟨warm.appendedBefore (first.append second), warm⟩

/-- A default harness at slot 5. -/
def resolvingSvm : HopperSvm :=
  { HopperSvm.ofRegistry fun _ => none with
    sysvars := tableContext.sysvars }

theorem resolvesOnlyWarm_iff_extended :
    ResolvesOnlyWarm resolvingSvm [extendedTable] derivedTable
        (stampedIn [⟨createdTable, extension, extendedTable⟩]) [0] [] ↔
      (∃ index ∈ ([0] ++ [] : List UInt8),
          (stampedIn [⟨createdTable, extension, extendedTable⟩]).length ≤
            index.toNat) ∨
        WarmedUp (stampedIn [⟨createdTable, extension, extendedTable⟩])
          resolvingSvm.sysvars.clock.slot ([0] ++ []) :=
  resolvesOnlyWarm_iff creation_rewrites (by decide +kernel)
    (.cons extension_rewrites .nil) (by decide +kernel) rfl

/-- An address appended at slot 5 resolves at slot 5. -/
theorem resolved_in_its_own_slot :
    Rewrites blankTable creation createdTable ∧
      tagOf creation.data = 0 ∧
      Rewrites createdTable extension extendedTable ∧
      tagOf extension.data = 2 ∧
      extension.context.sysvars.clock.slot = 5 ∧
      resolvingSvm.sysvars.clock.slot = 5 ∧
      ¬ ResolvesOnlyWarm resolvingSvm [extendedTable] derivedTable
        (stampedIn [⟨createdTable, extension, extendedTable⟩])
        [0] [] := by
  refine
    ⟨creation_rewrites, by decide +kernel, extension_rewrites,
      by decide +kernel, rfl, rfl, ?_⟩
  intro onlyWarm
  have resolved :
      resolvingSvm.resolveAddressTableLookup [extendedTable] derivedTable
          [0] [] = .ok ([.filled 9], []) := by
    decide +kernel
  have stamped :
      stampedIn [⟨createdTable, extension, extendedTable⟩] =
        [(.filled 9, 5)] := by
    decide +kernel
  obtain ⟨_, warm⟩ := onlyWarm _ _ resolved
  obtain ⟨address, slot, atIndex, below⟩ := warm 0 List.mem_cons_self
  rw [stamped] at atIndex
  cases atIndex
  exact absurd below (by decide)

end AltProgram

end Hopper
