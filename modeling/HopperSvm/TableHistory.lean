import HopperSvm.AltEffects

namespace Hopper

namespace AltProgram

open Bytes Labelled LookupTable Routine

/-- The data is a header with these addresses behind it. -/
structure Stores (data : List UInt8) (stored : List Pubkey) : Prop where
  header : lookupTableMetaSize ≤ data.length
  behind : data.drop lookupTableMetaSize = stored.flatMap Pubkey.bytes

namespace Stores

variable {data : List UInt8} {stored : List Pubkey}

theorem length_eq (stores : Stores data stored) :
    data.length = lookupTableMetaSize + 32 * stored.length := by
  have behind := congrArg List.length stores.behind
  have header := stores.header
  rw [List.length_drop, length_flatMap_entries Pubkey.length_eq] at behind
  omega

theorem addressCount_eq (stores : Stores data stored) :
    addressCount data = stored.length := by
  have long := stores.header
  have sized := stores.length_eq
  rw [addressCount, if_neg (by omega)]
  omega

/-- The reader finds the address at each index, and nothing beyond. -/
theorem readAddress_eq (stores : Stores data stored) (index : Nat) :
    readAddress data index = stored[index]? := by
  have sized := stores.length_eq
  unfold readAddress
  dsimp only
  cases atIndex : stored[index]? with
  | none =>
      have beyond := List.getElem?_eq_none_iff.mp atIndex
      rw [if_pos (by omega)]
  | some address =>
      have inside := (List.getElem?_eq_some_iff.mp atIndex).1
      rw [if_neg (by omega), pubkeyAt, ← field_drop, stores.behind,
        field_flatMap_entries Pubkey.length_eq atIndex,
        Pubkey.newFromArray_eq_some]

theorem append (stores : Stores data stored) (more : List Pubkey) :
    Stores (data ++ more.flatMap Pubkey.bytes) (stored ++ more) where
  header := by
    have header := stores.header
    rw [List.length_append]
    omega
  behind := by
    rw [List.drop_append_of_le_length stores.header, stores.behind,
      List.flatMap_append]

theorem writeMeta (stores : Stores data stored)
    (tableMeta : LookupTableMeta) :
    Stores (LookupTable.writeMeta data tableMeta) stored where
  header := by
    rw [length_writeMeta]
    exact stores.header
  behind := by
    rw [drop_writeMeta]
    exact stores.behind

end Stores

section Resolve

variable {data : List UInt8} {kind : String} {stored : List Pubkey}

/-- The indexes are all in the list, and these are their entries. -/
def Selects (stored : List Pubkey) (indexes : List UInt8)
    (resolved : List Pubkey) : Prop :=
  resolved.map some = indexes.map fun index => stored[index.toNat]?

/-- One of the two loops gets through when every index is read. -/
theorem resolveIndexes_eq_ok {indexes : List UInt8}
    {resolved : List Pubkey} :
    resolveIndexes kind data indexes = .ok resolved ↔
      resolved.map some =
        indexes.map fun index => readAddress data index.toNat := by
  induction indexes generalizing resolved with
  | nil =>
      cases resolved with
      | nil =>
          simp [resolveIndexes]
      | cons head tail =>
          simp [resolveIndexes]
  | cons index rest inductionHypothesis =>
      rw [resolveIndexes, List.map_cons]
      cases readAddress data index.toNat with
      | none =>
          cases resolved <;> simp
      | some address =>
          cases resolved with
          | nil =>
              cases rested : resolveIndexes kind data rest <;>
                simp [Except.map]
          | cons head tail =>
              have later := @inductionHypothesis tail
              simp only [List.map_cons, List.cons.injEq,
                Option.some.injEq, ← later]
              cases rested : resolveIndexes kind data rest with
              | error err =>
                  simp [Except.map]
              | ok found =>
                  simp [Except.map, eq_comm]

theorem resolveLookup_eq_ok {writableIndexes readonlyIndexes : List UInt8}
    {writable readonly : List Pubkey} :
    resolveLookup data writableIndexes readonlyIndexes =
        .ok (writable, readonly) ↔
      writable.map some =
          writableIndexes.map (fun index =>
            readAddress data index.toNat) ∧
        readonly.map some =
          readonlyIndexes.map fun index =>
            readAddress data index.toNat := by
  rw [← @resolveIndexes_eq_ok data "writable",
    ← @resolveIndexes_eq_ok data "readonly", resolveLookup]
  cases resolveIndexes "writable" data writableIndexes with
  | error err =>
      simp [bind, Except.bind]
  | ok first =>
      cases resolveIndexes "readonly" data readonlyIndexes with
      | error err =>
          simp [bind, Except.bind]
      | ok second =>
          simp [bind, Except.bind, pure, Except.pure]

theorem resolveLookup_selects (stores : Stores data stored)
    {writableIndexes readonlyIndexes : List UInt8}
    {writable readonly : List Pubkey} :
    resolveLookup data writableIndexes readonlyIndexes =
        .ok (writable, readonly) ↔
      Selects stored writableIndexes writable ∧
        Selects stored readonlyIndexes readonly := by
  rw [resolveLookup_eq_ok]
  simp only [stores.readAddress_eq, Selects]

/-- Two lists of entries are found as a whole when each entry is found. -/
theorem exists_found_iff {α β : Type} {find : α → Option β}
    {left right : List α} :
    (∃ first second : List β,
        first.map some = left.map find ∧
          second.map some = right.map find) ↔
      ∀ entry ∈ left ++ right, ∃ value, find entry = some value := by
  have found (entries : List α) :
      (∃ values : List β, values.map some = entries.map find) ↔
        ∀ entry ∈ entries, ∃ value, find entry = some value := by
    have reached : (∃ values : List β, values.map some = entries.map find) ↔
        entries.map find ∈ Set.range (List.map (some : β → Option β)) :=
      Iff.rfl
    rw [reached, Set.range_list_map, Set.mem_ofPred_eq, List.forall_mem_map]
    simp only [Set.mem_range, eq_comm]
  rw [List.forall_mem_append, ← found, ← found]
  constructor
  · rintro ⟨first, second, inFirst, inSecond⟩
    exact ⟨⟨first, inFirst⟩, ⟨second, inSecond⟩⟩
  · rintro ⟨⟨first, inFirst⟩, ⟨second, inSecond⟩⟩
    exact ⟨first, second, inFirst, inSecond⟩

/-- Indexes select entries when they are all in the list. -/
theorem exists_selects_pair_iff {left right : List UInt8} :
    (∃ first second,
        Selects stored left first ∧ Selects stored right second) ↔
      ∀ index ∈ left ++ right, index.toNat < stored.length := by
  simp only [Selects, exists_found_iff, ← Option.isSome_iff_exists,
    isSome_getElem?]

end Resolve

/-! ## Histories -/

/-- One successful invocation of the program. -/
structure Invocation (createProgramAddress : CreateProgramAddress) where
  context : InvokeContext
  data : List UInt8
  state : InvokeState
  final : InvokeState
  invoked :
    (invoke createProgramAddress data).Yields context state () final

variable {createProgramAddress : CreateProgramAddress}

/-- The invocation found the first account in slot 0 and left the second
there. -/
def Rewrites (p : KeyedAccount)
    (invocation : Invocation createProgramAddress) (n : KeyedAccount) :
    Prop :=
  invocation.state.accounts[0]? = some p ∧
    invocation.final.accounts[0]? = some n

theorem change_of_rewrites {invocation : Invocation createProgramAddress}
    {p n : KeyedAccount} (rewrites : Rewrites p invocation n) :
    Change invocation.context invocation.data 0 p n :=
  invoke_effect invocation.invoked 0 p n rewrites.1 rewrites.2

/-- The addresses appended in a run, in order. -/
def appendedIn
    (entries : List (Entry KeyedAccount
      (Invocation createProgramAddress))) : List Pubkey :=
  entries.flatMap fun entry => appendedBy entry.event.data

/-- A table with these addresses, within the cap. -/
structure Holds (table : KeyedAccount) (stored : List Pubkey) : Prop where
  stores : Stores table.data stored
  bounded : stored.length ≤ lookupTableMaxAddresses

/-- A new table is empty. -/
theorem holds_of_create {invocation : Invocation createProgramAddress}
    {p n : KeyedAccount} (rewrites : Rewrites p invocation n)
    (creates : tagOf invocation.data = 0) : Holds n [] := by
  obtain ⟨authority, created⟩ :=
    (change_of_rewrites rewrites).data_of_create creates
  have empty : Stores (List.replicate lookupTableMetaSize 0) [] := by
    constructor
    · exact List.length_replicate.ge
    · rw [List.drop_replicate, Nat.sub_self]
      rfl
  refine ⟨?_, Nat.zero_le _⟩
  rw [created]
  exact empty.writeMeta _

/-- An instruction on an existing table appends to it. -/
theorem holds_of_rewrites {invocation : Invocation createProgramAddress}
    {p n : KeyedAccount} {stored : List Pubkey}
    (rewrites : Rewrites p invocation n)
    (grows : tagOf invocation.data ∈ [1, 2, 3]) (holds : Holds p stored) :
    Holds n (stored ++ appendedBy invocation.data) := by
  obtain ⟨tableMeta, newMeta, _, step, written⟩ :=
    (change_of_rewrites rewrites).data_of_rewrite grows
  have sized := holds.stores.addressCount_eq
  have bounded := holds.bounded
  constructor
  · rw [written]
    exact (holds.stores.append _).writeMeta _
  · rw [List.length_append]
    cases step with
    | freeze tag =>
        rw [appendedBy_of_tag tag (by decide)]
        exact bounded
    | extend tag active fits =>
        rw [← sized]
        exact fits
    | deactivate tag active =>
        rw [appendedBy_of_tag tag (by decide)]
        exact bounded

/-- A run on an existing table appends what its instructions carry. -/
theorem holds_of_run {entries : List (Entry KeyedAccount
      (Invocation createProgramAddress))}
    {start finish : KeyedAccount} {stored : List Pubkey}
    (run : Trace Rewrites start entries finish)
    (grows : ∀ entry ∈ entries, tagOf entry.event.data ∈ [1, 2, 3])
    (holds : Holds start stored) :
    Holds finish (stored ++ appendedIn entries) := by
  induction run generalizing stored with
  | nil =>
      rw [appendedIn, List.flatMap_nil, List.append_nil]
      exact holds
  | @cons before after final event rest first later
      inductionHypothesis =>
      have step :=
        holds_of_rewrites first (grows _ List.mem_cons_self) holds
      have onwards :=
        inductionHypothesis
          (fun entry member => grows entry (List.mem_cons_of_mem _ member))
          step
      rw [appendedIn, List.flatMap_cons, ← List.append_assoc]
      exact onwards

/-- What a table with these addresses answers. -/
structure Faithful (data : List UInt8) (stored : List Pubkey) : Prop where
  length : data.length = lookupTableMetaSize + 32 * stored.length
  bounded : stored.length ≤ lookupTableMaxAddresses
  read : ∀ index, readAddress data index = stored[index]?
  resolved : ∀ writableIndexes readonlyIndexes : List UInt8,
    (∀ index ∈ writableIndexes ++ readonlyIndexes,
        index.toNat < stored.length) →
      ∃ writable readonly,
        resolveLookup data writableIndexes readonlyIndexes =
            .ok (writable, readonly) ∧
          Selects stored writableIndexes writable ∧
          Selects stored readonlyIndexes readonly
  rejected : ∀ writableIndexes readonlyIndexes : List UInt8,
    (∃ index ∈ writableIndexes ++ readonlyIndexes,
        stored.length ≤ index.toNat) →
      ∃ err,
        resolveLookup data writableIndexes readonlyIndexes = .error err

theorem faithful_of_holds {table : KeyedAccount} {stored : List Pubkey}
    (holds : Holds table stored) : Faithful table.data stored where
  length := holds.stores.length_eq
  bounded := holds.bounded
  read := holds.stores.readAddress_eq
  resolved := by
    intro writableIndexes readonlyIndexes inside
    obtain ⟨writable, readonly, selects⟩ :=
      exists_selects_pair_iff.mpr inside
    exact
      ⟨writable, readonly,
        (resolveLookup_selects holds.stores).mpr selects, selects⟩
  rejected := by
    intro writableIndexes readonlyIndexes outside
    rcases outside with ⟨index, member, beyond⟩
    cases answer :
        resolveLookup table.data writableIndexes readonlyIndexes with
    | error err =>
        exact ⟨err, rfl⟩
    | ok resolved =>
        have selects := (resolveLookup_selects holds.stores).mp answer
        have inside :=
          exists_selects_pair_iff.mp ⟨_, _, selects⟩ index member
        omega

/-- A table that was created, then extended, frozen and deactivated, holds
and resolves just what it was extended with. -/
theorem faithful_of_history {creation : Invocation createProgramAddress}
    {entries : List (Entry KeyedAccount
      (Invocation createProgramAddress))}
    {blank start table : KeyedAccount}
    (created : Rewrites blank creation start)
    (creates : tagOf creation.data = 0)
    (run : Trace Rewrites start entries table)
    (grows : ∀ entry ∈ entries, tagOf entry.event.data ∈ [1, 2, 3]) :
    Faithful table.data (appendedIn entries) :=
  faithful_of_holds
    (holds_of_run run grows (holds_of_create created creates))

theorem yields_of_isOk {routine : Routine Unit} {context : InvokeContext}
    {state : InvokeState}
    (returns : (routine.run context state).isSome)
    (succeeds : ((routine.run context state).get returns).1.isOk) :
    routine.Yields context state ()
      ((routine.run context state).get returns).2 := by
  rcases Option.isSome_iff_exists.mp returns with ⟨result, same⟩
  rcases result with ⟨outcome, final⟩
  simp only [same, Option.get_some] at succeeds ⊢
  cases outcome with
  | error err =>
      cases succeeds
  | ok value =>
      exact same

/-- An invocation that returns `Ok`. -/
def Invocation.ofReturns (context : InvokeContext) (data : List UInt8)
    (state : InvokeState)
    (returns :
      ((invoke createProgramAddress data).run context state).isSome)
    (succeeds :
      (((invoke createProgramAddress data).run context state).get
        returns).1.isOk) :
    Invocation createProgramAddress :=
  { context
    data
    state
    final :=
      (((invoke createProgramAddress data).run context state).get
        returns).2
    invoked := yields_of_isOk returns succeeds }

/-- The address that `7..7` derives at slot 0 with bump 249. -/
def derivedTable : Pubkey :=
  ⟨[66, 108, 5, 254, 48, 130, 227, 14, 73, 170, 63, 24, 133, 235, 215, 96,
      191, 70, 135, 145, 35, 86, 157, 99, 80, 106, 135, 0, 182, 213, 145,
      246], rfl⟩

/-- The derivation on the seeds of that address. -/
def tableDerivation : CreateProgramAddress :=
  fun seeds programId =>
    if seeds = [List.replicate 32 7, List.replicate 8 0, [249]] ∧
        programId = altProgramId then
      .ok derivedTable
    else
      .error "InvalidSeeds"

def blankTable : KeyedAccount :=
  { address := derivedTable
    lamports := 0
    data := []
    owner := systemProgramId
    executable := false
    rentEpoch := 0 }

def fundedAccount (address : Pubkey) : KeyedAccount :=
  { address
    lamports := 2000000
    data := []
    owner := systemProgramId
    executable := false
    rentEpoch := 0 }

/-- The authority is `7..7`, the payer `8..8`, and the clock is at slot
5. -/
def tableContext : InvokeContext :=
  { programId := altProgramId
    accountMetas :=
      [⟨derivedTable, false, true⟩, ⟨.filled 7, true, false⟩,
        ⟨.filled 8, true, true⟩, ⟨systemProgramId, false, false⟩]
    sysvars :=
      { Sysvars.default with
        clock := { Clock.default with slot := 5 } } }

def tableState (table : KeyedAccount) : InvokeState :=
  { accounts :=
      [table, fundedAccount (.filled 7), fundedAccount (.filled 8),
        fundedAccount systemProgramId]
    logs := .empty
    budget := .default
    cells := ⟨none, 0⟩ }

/-- At slot 0 with bump 249. -/
def createData : List UInt8 :=
  [0, 0, 0, 0] ++ List.replicate 8 0 ++ [249]

/-- With the one address `9..9`. -/
def extendData : List UInt8 :=
  [2, 0, 0, 0] ++ [1, 0, 0, 0, 0, 0, 0, 0] ++ List.replicate 32 9

theorem createData_returns :
    ((invoke tableDerivation createData).run tableContext
      (tableState blankTable)).isSome := by
  decide +kernel

theorem createData_succeeds :
    (((invoke tableDerivation createData).run tableContext
      (tableState blankTable)).get createData_returns).1.isOk := by
  decide +kernel

def creation : Invocation tableDerivation :=
  .ofReturns tableContext createData (tableState blankTable)
    createData_returns createData_succeeds

def createdTable : KeyedAccount :=
  { blankTable with
    lamports := initialLamports
    data :=
      writeMeta (List.replicate lookupTableMetaSize 0) (.new (.filled 7))
    owner := altProgramId }

theorem creation_rewrites :
    Rewrites blankTable creation createdTable := by
  simp only [Rewrites]
  decide +kernel

theorem extendData_returns :
    ((invoke tableDerivation extendData).run tableContext
      (tableState createdTable)).isSome := by
  decide +kernel

theorem extendData_succeeds :
    (((invoke tableDerivation extendData).run tableContext
      (tableState createdTable)).get extendData_returns).1.isOk := by
  decide +kernel

def extension : Invocation tableDerivation :=
  .ofReturns tableContext extendData (tableState createdTable)
    extendData_returns extendData_succeeds

def extendedTable : KeyedAccount :=
  { createdTable with
    data :=
      writeMeta (createdTable.data ++ List.replicate 32 9)
        { LookupTableMeta.new (.filled 7) with lastExtendedSlot := 5 } }

theorem extension_rewrites :
    Rewrites createdTable extension extendedTable := by
  simp only [Rewrites]
  decide +kernel

theorem faithful_of_history_extended :
    Faithful extendedTable.data
      (appendedIn [⟨createdTable, extension, extendedTable⟩]) :=
  faithful_of_history creation_rewrites (by decide +kernel)
    (.cons extension_rewrites .nil) (by decide +kernel)

end AltProgram

end Hopper
