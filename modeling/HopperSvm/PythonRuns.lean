import HopperSvm.PythonValues

/-!
Whatever a program calls, in whatever order, its calls are answered as the
desk answers them, the harness's own panics included: no call follows a
pointer to nothing, to another kind of box or past a buffer, no two objects
share a box, and what goes through the C interface comes back unchanged.
-/

namespace Hopper

open Boxes Procedure

namespace Ffi

variable {ε : Type} {context : FfiEnvironment} {contents : Contents Cell}

theorem reads_harness {place : ℕ} {held : FfiHarness}
    (found : contents place = some (.harness held)) :
    Reads (harness place : Ffi ε FfiHarness) context contents held :=
  (reads_deref found).bind (reads_expect rfl)

theorem reads_outcome {place : ℕ} {held : FfiOutcome}
    (found : contents place = some (.outcome held)) :
    Reads (outcome place : Ffi ε FfiOutcome) context contents held :=
  (reads_deref found).bind (reads_expect rfl)

theorem reads_string {place : ℕ} {bytes : ByteArray}
    (found : contents place = some (.string bytes)) :
    Reads (string place : Ffi ε ByteArray) context contents bytes :=
  (reads_deref found).bind (reads_expect rfl)

theorem reads_readArray32 (address : Pubkey) :
    Reads (readArray32 (some address.bytes) : Ffi ε Pubkey) context
      contents address := by
  apply reads_expect
  have whole : address.bytes.take 32 = address.bytes :=
    List.take_of_length_le (Nat.le_of_eq address.length_eq)
  rw [whole]
  exact Pubkey.newFromArray_eq_some.mpr rfl

theorem reads_fromRawParts {α : Type} (items : List α) :
    Reads (fromRawParts (some items) items.length : Ffi ε (List α)) context
      contents items := by
  apply reads_expect
  simp

theorem reads_readSlice {α : Type} (items : List α) :
    Reads (readSlice (some items) items.length : Ffi ε (List α)) context
      contents items := by
  rw [readSlice]
  split
  · rename_i empty
    rw [List.length_eq_zero_iff.mp empty]
    exact reads_pure
  · exact reads_fromRawParts items

/-- A meta as a host passes it. -/
def metaOf (accountMeta : AccountMeta) : FfiAccountMeta :=
  { pubkeyPtr := some accountMeta.pubkey.bytes
    isSigner := accountMeta.isSigner
    isWritable := accountMeta.isWritable }

theorem reads_readMetas (metas : List AccountMeta) :
    Reads (readMetas (metas.map metaOf) : Ffi ε (List AccountMeta)) context
      contents metas := by
  induction metas with
  | nil =>
      exact reads_pure
  | cons first rest inductionHypothesis =>
      exact
        (reads_readArray32 first.pubkey).bind
          (inductionHypothesis.bind reads_pure)

theorem reads_instruction (ix : Instruction) :
    Reads (instruction ix.programId ix.accounts ix.data :
      Ffi ε Instruction) context contents ix := by
  apply reads_expect
  rw [dif_pos ix.accounts_length]

theorem reads_readOutcome {α : Type} {place : ℕ} {held : FfiOutcome}
    {whenNull : α} {read : ℕ → FfiOutcome → Ffi ε α}
    {post : Option (Except ε α × Contents Cell) → Prop}
    (found : contents place = some (.outcome held))
    (ends : Ends (read place held) context contents post) :
    Ends (readOutcome (some place) whenNull read) context contents post :=
  (reads_outcome found).bind ends

/-- The string that carries a text, and the contents with its bytes. -/
inductive Carries (contents : Contents Cell) (text : String) :
    HopperFfiString → Contents Cell → Prop
  | empty (blank : text = "") :
      Carries contents text { ptr := none, len := 0 } contents
  | boxed {place : ℕ} (filled : text ≠ "")
      (unused : contents place = none) :
      Carries contents text
        { ptr := place, len := text.toByteArray.size }
        (Function.update contents place (some (.string text.toByteArray)))

theorem ends_fromString {text : String}
    {post : Option (Except ε HopperFfiString × Contents Cell) → Prop}
    (holds : ∀ raw contents', Carries contents text raw contents' →
      post (some (.ok raw, contents'))) :
    Ends (fromString text) context contents post := by
  rw [fromString]
  split
  · rename_i blank
    exact ends_pure (holds _ _ (.empty blank))
  · rename_i filled
    apply ends_bind
    apply ends_environment
    apply ends_bind
    apply ends_allocate
    intro place unused
    exact ends_pure (holds _ _ (.boxed filled unused))

theorem size_ne_zero {text : String} (filled : text ≠ "") :
    text.toByteArray.size ≠ 0 := by
  intro empty
  have blank : text.toByteArray = ByteArray.empty :=
    ByteArray.size_eq_zero_iff.mp empty
  exact filled (String.toByteArray_inj.mp blank)

theorem ends_stringFree {text : String} {raw : HopperFfiString}
    {contents' : Contents Cell}
    (carries : Carries contents text raw contents') :
    Ends (hopperSvmStringFree raw : Ffi ε Unit) context contents'
      fun ended => ended = some (.ok (), contents) := by
  cases carries with
  | empty blank =>
      exact ends_pure rfl
  | boxed filled unused =>
      rename_i place
      have found :
          Function.update contents place
              (some (Cell.string text.toByteArray)) place =
            some (.string text.toByteArray) :=
        Function.update_self _ _ _
      simp only [hopperSvmStringFree, if_neg (size_ne_zero filled)]
      refine (reads_string found).bind ?_
      refine (reads_expect (if_pos rfl)).bind ?_
      refine ends_release found ?_
      rw [update_update_none unused]

end Ffi

namespace PythonBinding

variable {context : FfiEnvironment} {contents : Contents Cell}

theorem fromUTF8?_toByteArray (text : String) :
    String.fromUTF8? text.toByteArray = some text := by
  rw [String.fromUTF8?, dif_pos text.isValidUTF8]
  rfl

/-- A string comes back as the text it carries, and its bytes are freed. -/
theorem ends_readFfiString {text : String} {raw : HopperFfiString}
    {contents' : Contents Cell}
    (carries : Ffi.Carries contents text raw contents') :
    Ends (readFfiString raw) context contents' fun ended =>
      ended = some (.ok text, contents) := by
  have freed :
      Ends (Ffi.hopperSvmStringFree raw : Ffi PythonError Unit) context
        contents' fun ended => ended = some (.ok (), contents) :=
    Ffi.ends_stringFree carries
  cases carries with
  | empty blank =>
      subst blank
      exact ends_pure rfl
  | boxed filled unused =>
      rename_i place
      have found :
          Function.update contents place
              (some (Cell.string text.toByteArray)) place =
            some (.string text.toByteArray) :=
        Function.update_self _ _ _
      have raw :
          Reads
            (Ffi.stringBytes place text.toByteArray.size :
              Ffi PythonError ByteArray) context
            (Function.update contents place
              (some (Cell.string text.toByteArray)))
            text.toByteArray := by
        refine (Ffi.reads_string found).bind ?_
        apply reads_expect
        rw [if_pos (Nat.le_refl _), ByteArray.extract_zero_size]
      simp only [readFfiString, if_neg (Ffi.size_ne_zero filled)]
      refine raw.bind ?_
      refine (reads_expect (fromUTF8?_toByteArray text)).bind ?_
      refine ends_bind (freed.mono ?_)
      intro reached same
      rw [same]
      exact reads_pure

theorem toPubkeyBytes_eq (listed : PubkeyLike) :
    toPubkeyBytes listed = listed.address.map Pubkey.bytes := by
  cases listed with
  | pubkey address =>
      rfl
  | bytes raw =>
      rw [toPubkeyBytes, PubkeyLike.address]
      by_cases sized : raw.length = 32
      · rw [if_neg (not_not.mpr sized), dif_pos sized]
        rfl
      · rw [if_pos sized, dif_neg sized]
        rfl

theorem fillMetas_eq (listed : List MetaLike) :
    fillMetas listed = (metasOf listed).map (List.map Ffi.metaOf) := by
  induction listed with
  | nil =>
      rfl
  | cons first rest inductionHypothesis =>
      rw [fillMetas, metasOf, toPubkeyBytes_eq, inductionHypothesis]
      cases first.pubkey.address with
      | error err =>
          rfl
      | ok pubkey =>
          cases metasOf rest with
          | error err =>
              rfl
          | ok later =>
              rfl

theorem reads_dataSlice (data : List UInt8) :
    Reads (Ffi.readSlice (dataBuf data) data.length :
      Ffi PythonError (List UInt8)) context contents data := by
  by_cases empty : data = []
  · subst empty
    exact reads_pure
  · rw [dataBuf, if_neg empty]
    exact Ffi.reads_readSlice data

theorem reads_requireOpen {place : ℕ} {message : String} :
    Reads (requireOpen (some place) message) context contents () :=
  ends_rejectIf (fun closed => nomatch closed) fun _ => rfl

/-- A closed object raises, and nothing else happens. -/
theorem fails_closed {message : String} :
    Fails (requireOpen none message) context contents
      (.runtimeError message) :=
  ends_rejectIf (fun _ => rfl) fun isOpen => absurd rfl isOpen

/-! ## The methods of `HopperSvm` -/

theorem ends_init
    {post : Option (Except PythonError Handle × Contents Cell) → Prop}
    (holds : ∀ place : ℕ, contents place = none →
      post (some (.ok (some place),
        Function.update contents place
          (some (.harness (.fresh context.links)))))) :
    Ends Svm.init context contents post := by
  apply ends_bind
  apply ends_bind
  apply ends_environment
  apply ends_bind
  apply ends_allocate
  intro place unused
  apply ends_pure
  apply ends_bind
  refine ends_rejectIf (fun null => nomatch null) fun _ => ?_
  exact ends_pure (holds place unused)

theorem ends_withSolanaRuntime
    {post : Option (Except PythonError Handle × Contents Cell) → Prop}
    (holds : ∀ place : ℕ, contents place = none →
      post (some (.ok (some place),
        Function.update contents place
          (some (.harness ((FfiHarness.fresh context.links).withSolanaRuntime
            context.links)))))) :
    Ends Svm.withSolanaRuntime context contents post := by
  apply ends_bind
  apply ends_init
  intro place unused
  apply ends_bind
  refine
    (Ffi.reads_harness (Function.update_self place _ contents)).bind ?_
  apply ends_bind
  apply ends_environment
  refine ends_overwrite (Function.update_self place _ contents) ?_
  rw [Function.update_idem]
  exact ends_pure (holds place unused)

theorem ends_svmClose {place : ℕ} {held : FfiHarness}
    (found : contents place = some (.harness held)) :
    Ends (Svm.close (some place)) context contents fun ended =>
      ended = some (.ok none, Function.update contents place none) := by
  apply ends_bind
  refine (Ffi.reads_harness found).bind ?_
  exact ends_release found reads_pure

/-- What a method of an open harness does, told as an operation on its
value. -/
def Performs (context : FfiEnvironment)
    (method : Handle → Ffi PythonError Reply)
    (operation : FfiHarness → Except PythonError (Reply × FfiHarness)) :
    Prop :=
  ∀ (contents : Contents Cell) (place : ℕ) (held : FfiHarness),
    contents place = some (.harness held) →
    Ends (method (some place)) context contents fun ended =>
      ended =
        match operation held with
        | .error err => some (.error err, contents)
        | .ok (reply, held') =>
            some (.ok reply,
              Function.update contents place (some (.harness held')))

theorem setComputeBudget_performs (units : ℤ) :
    Performs context
      (fun handle => do
        Svm.setComputeBudget handle units
        pure .done)
      (fun harness => do
        let units ← toUint64 units
        .ok (.done, harness.setComputeBudget units)) := by
  intro contents place held found
  apply ends_bind
  refine reads_requireOpen.bind ?_
  apply ends_bind
  cases toUint64 units with
  | error err =>
      exact ends_fail rfl
  | ok units =>
      apply ends_pure
      refine (Ffi.reads_harness found).bind ?_
      exact ends_overwrite found (after_ok (ends_pure rfl))

theorem setAccount_performs (address : PubkeyLike) (lamports : ℤ)
    (owner : PubkeyLike) (data : List UInt8) (executable : Bool) :
    Performs context
      (fun handle => do
        Svm.setAccount handle address lamports owner data executable
        pure .done)
      (fun harness => do
        let address ← address.address
        let owner ← owner.address
        let lamports ← toUint64 lamports
        .ok
          (.done,
            harness.setAccount
              (.new address lamports owner data executable))) := by
  intro contents place held found
  apply ends_bind
  refine reads_requireOpen.bind ?_
  rw [toPubkeyBytes_eq, toPubkeyBytes_eq]
  apply ends_bind
  cases address.address with
  | error err =>
      exact ends_fail rfl
  | ok address =>
      apply ends_pure
      apply ends_bind
      cases owner.address with
      | error err =>
          exact ends_fail rfl
      | ok owner =>
          apply ends_pure
          apply ends_bind
          cases toUint64 lamports with
          | error err =>
              exact ends_fail rfl
          | ok lamports =>
              apply ends_pure
              apply ends_bind
              refine (Ffi.reads_readArray32 address).bind ?_
              refine (Ffi.reads_readArray32 owner).bind ?_
              refine (reads_dataSlice data).bind ?_
              refine (Ffi.reads_harness found).bind ?_
              apply ends_bind
              refine ends_overwrite found ?_
              apply ends_pure
              exact
                ends_rejectIf (fun failed => nomatch failed) fun _ =>
                  after_ok (ends_pure rfl)

theorem getLamports_performs (address : PubkeyLike) :
    Performs context
      (fun handle => do
        let value ← Svm.getLamports handle address
        pure (.balance value))
      (fun harness => do
        let address ← address.address
        .ok (.balance (harness.balance address), harness)) := by
  intro contents place held found
  apply ends_bind
  refine reads_requireOpen.bind ?_
  rw [toPubkeyBytes_eq]
  apply ends_bind
  cases address.address with
  | error err =>
      exact ends_fail rfl
  | ok address =>
      apply ends_pure
      apply ends_bind
      refine (Ffi.reads_readArray32 address).bind ?_
      refine (Ffi.reads_harness found).bind ?_
      apply ends_pure
      refine ends_pure (after_ok (ends_pure ?_))
      have same :
          Function.update contents place (some (.harness held)) =
            contents := by
        rw [← found, Function.update_eq_self]
      change
        some (_, contents) =
          some (_, Function.update contents place (some (.harness held)))
      rw [same]
      rfl

/-- An instruction is read where its program's address and its metas are. -/
theorem read_cases (ix : InstructionLike) :
    (∃ err, ix.programId.address = .error err ∧ ix.read = .error err) ∨
      (∃ programId err, ix.programId.address = .ok programId ∧
        metasOf ix.accounts = .error err ∧ ix.read = .error err) ∨
      ∃ instruction, ix.programId.address = .ok instruction.programId ∧
        metasOf ix.accounts = .ok instruction.accounts ∧
        ix.data = instruction.data ∧ ix.read = .ok instruction := by
  rw [InstructionLike.read]
  cases ix.programId.address with
  | error err =>
      exact .inl ⟨err, rfl, rfl⟩
  | ok programId =>
      dsimp only
      split
      · rename_i err listed
        exact .inr (.inl ⟨programId, err, rfl, listed, rfl⟩)
      · rename_i metas listed
        exact .inr (.inr ⟨_, rfl, listed, rfl, rfl⟩)

/-- How a dispatch on an open harness ends. -/
def DispatchEnds (contents : Contents Cell) (place : ℕ)
    (held : FfiHarness) (ix : InstructionLike)
    (ended : Option (Except PythonError Handle × Contents Cell)) : Prop :=
  match ix.read with
  | .error err => ended = some (.error err, contents)
  | .ok instruction =>
      match held.dispatch instruction with
      | none => ended = none
      | some (result, held') =>
          ∃ outcome : ℕ,
            Function.update contents place (some (.harness held')) outcome =
                none ∧
              ended =
                some (.ok (some outcome),
                  Function.update
                    (Function.update contents place
                      (some (.harness held')))
                    outcome (some (.outcome (.ofResult result))))

theorem ends_dispatch {place : ℕ} {held : FfiHarness}
    (found : contents place = some (.harness held))
    (ix : InstructionLike) :
    Ends (Svm.dispatch (some place) ix) context contents
      (DispatchEnds contents place held ix) := by
  refine reads_requireOpen.bind ?_
  rw [toPubkeyBytes_eq, fillMetas_eq]
  apply ends_bind
  rcases read_cases ix with ⟨err, unread, same⟩ |
      ⟨programId, err, id, unread, same⟩ | ⟨instruction, id, metas, data, same⟩
  · rw [unread]
    apply ends_fail
    rw [After, DispatchEnds, same]
  · rw [id]
    apply ends_pure
    apply ends_bind
    rw [unread]
    apply ends_fail
    rw [After, DispatchEnds, same]
  · rw [id]
    apply ends_pure
    apply ends_bind
    rw [metas]
    apply ends_pure
    apply ends_bind
    refine (Ffi.reads_readArray32 instruction.programId).bind ?_
    rw [if_neg (by simp)]
    have sized :
        ix.accounts.length =
          (instruction.accounts.map Ffi.metaOf).length := by
      rw [List.length_map, length_metasOf metas]
    rw [sized]
    refine
      (Ffi.reads_readSlice (instruction.accounts.map Ffi.metaOf)).bind ?_
    refine (Ffi.reads_readMetas instruction.accounts).bind ?_
    refine (reads_dataSlice ix.data).bind ?_
    rw [data]
    refine (Ffi.reads_instruction instruction).bind ?_
    refine (Ffi.reads_harness found).bind ?_
    apply ends_bind
    apply ends_expect
    cases processed :
        held.svm.processInstruction instruction held.accounts with
    | none =>
        have panicked : held.dispatch instruction = none := by
          rw [FfiHarness.dispatch, processed]
          rfl
        change DispatchEnds contents place held ix none
        rw [DispatchEnds, same]
        dsimp only
        rw [panicked]
    | some run =>
        have dispatched :
            held.dispatch instruction =
              some (run.1,
                { svm := run.2
                  accounts := run.1.outcome.resultingAccounts }) := by
          rw [FfiHarness.dispatch, processed]
          rfl
        apply ends_bind
        refine ends_overwrite found ?_
        apply ends_bind
        apply ends_environment
        apply ends_bind
        apply ends_allocate
        intro outcome unused
        apply ends_pure
        apply ends_bind
        refine ends_rejectIf (fun null => nomatch null) fun _ => ?_
        apply ends_pure
        rw [DispatchEnds, same]
        dsimp only
        rw [dispatched]
        exact ⟨outcome, unused, rfl⟩

/-! ## The methods of `ExecutionResult` -/

theorem ends_resultClose {place : ℕ} {held : FfiOutcome}
    (found : contents place = some (.outcome held)) :
    Ends (ExecutionResult.close (some place)) context contents
      fun ended =>
        ended = some (.ok none, Function.update contents place none) := by
  apply ends_bind
  refine (Ffi.reads_outcome found).bind ?_
  exact ends_release found reads_pure

section Answers

variable {place : ℕ} {held : FfiOutcome}
  {result : HopperExecutionResult}

theorem reads_isError
    (found : contents place = some (.outcome (.ofResult result))) :
    Reads (ExecutionResult.isError (some place)) context contents
      result.outcome.error.isSome := by
  refine reads_requireOpen.bind (Ffi.reads_readOutcome found ?_)
  apply ends_pure
  simp [FfiOutcome.ofResult]

theorem reads_errorMessage
    (found : contents place = some (.outcome (.ofResult result))) :
    Reads (ExecutionResult.errorMessage (some place)) context contents
      ((result.outcome.error.map HopperSvmError.describe).getD "") := by
  refine reads_requireOpen.bind (ends_bind ?_)
  refine Ffi.reads_readOutcome found (Ffi.ends_fromString ?_)
  intro raw contents' carries
  exact ends_readFfiString carries

/-- The loop reads the lines that are left. -/
theorem reads_logsFrom (found : contents place = some (.outcome held))
    {index count : ℕ} (left : index + count = held.logs.length) :
    Reads (ExecutionResult.logsFrom (some place) index count) context
      contents (held.logs.drop index) := by
  induction count generalizing index with
  | zero =>
      rw [List.drop_of_length_le (by omega)]
      exact reads_pure
  | succ count inductionHypothesis =>
      have within : index < held.logs.length := by
        omega
      have line : held.logs[index]?.getD "" = held.logs[index] := by
        rw [List.getElem?_eq_getElem within]
        rfl
      rw [List.drop_eq_getElem_cons within, ← line]
      apply ends_bind
      refine Ffi.reads_readOutcome found (Ffi.ends_fromString ?_)
      intro raw contents' carries
      refine
        after_ok (ends_bind ((ends_readFfiString carries).mono ?_))
      intro reached same
      rw [same]
      have later :
          Reads (ExecutionResult.logsFrom (some place) (index + 1) count)
            context contents (held.logs.drop (index + 1)) :=
        inductionHypothesis (by omega)
      exact after_ok (later.bind reads_pure)

theorem reads_logs
    (found : contents place = some (.outcome (.ofResult result))) :
    Reads (ExecutionResult.logs (some place)) context contents
      result.logs := by
  refine reads_requireOpen.bind (ends_bind ?_)
  refine Ffi.reads_readOutcome found (ends_pure ?_)
  exact reads_logsFrom found (Nat.zero_add _)

/-- An account comes back as it went in. -/
theorem reads_readAccount
    (found : contents place = some (.outcome held)) {index : ℕ}
    {account : KeyedAccount}
    (listed : held.postAccounts[index]? = some account) :
    Reads
      (ExecutionResult.readAccount
        { address := account.address.bytes
          owner := account.owner.bytes
          lamports := account.lamports
          dataPtr := some { place, index }
          dataLen := account.data.length
          executable := account.executable
          rentEpoch := account.rentEpoch }) context contents account := by
  have data :
      Reads
        (ExecutionResult.readData
          { address := account.address.bytes
            owner := account.owner.bytes
            lamports := account.lamports
            dataPtr := some { place, index }
            dataLen := account.data.length
            executable := account.executable
            rentEpoch := account.rentEpoch }) context contents
        account.data := by
    rw [ExecutionResult.readData]
    split
    · refine (reads_expect rfl).bind ?_
      refine (Ffi.reads_outcome found).bind ?_
      refine (reads_expect listed).bind ?_
      exact Ffi.reads_fromRawParts account.data
    · rename_i empty
      have blank : account.data = [] :=
        List.length_eq_zero_iff.mp (Nat.eq_zero_of_not_pos empty)
      rw [blank]
      exact reads_pure
  have made (address : Pubkey) : newPubkey address.bytes = .ok address := by
    have accepted : pubkey address.bytes = .ok address :=
      (ofRaw_eq_ok_iff _ _).mpr rfl
    rw [newPubkey, accepted]
    rfl
  refine data.bind ?_
  rw [made, made]
  exact ends_pure rfl

theorem reads_accountsFrom (found : contents place = some (.outcome held))
    {index count : ℕ} (left : index + count = held.postAccounts.length) :
    Reads (ExecutionResult.accountsFrom (some place) index count) context
      contents (held.postAccounts.drop index) := by
  induction count generalizing index with
  | zero =>
      rw [List.drop_of_length_le (by omega)]
      exact reads_pure
  | succ count inductionHypothesis =>
      have within : index < held.postAccounts.length := by
        omega
      have listed :
          held.postAccounts[index]? = some held.postAccounts[index] :=
        List.getElem?_eq_getElem within
      rw [List.drop_eq_getElem_cons within]
      apply ends_bind
      refine Ffi.reads_readOutcome found ?_
      rw [listed]
      have later :
          Reads
            (ExecutionResult.accountsFrom (some place) (index + 1) count)
            context contents (held.postAccounts.drop (index + 1)) :=
        inductionHypothesis (by omega)
      refine ends_pure (after_ok ?_)
      refine (reads_readAccount found listed).bind ?_
      exact later.bind reads_pure

theorem reads_accounts
    (found : contents place = some (.outcome (.ofResult result))) :
    Reads (ExecutionResult.accounts (some place)) context contents
      result.outcome.resultingAccounts := by
  refine reads_requireOpen.bind (ends_bind ?_)
  refine Ffi.reads_readOutcome found (ends_pure ?_)
  exact reads_accountsFrom found (Nat.zero_add _)

theorem reads_returnData
    (found : contents place = some (.outcome (.ofResult result))) :
    Reads (ExecutionResult.returnData (some place)) context contents
      result.outcome.returnData := by
  obtain ⟨data, same⟩ : ∃ data, result.outcome.returnData = data :=
    ⟨_, rfl⟩
  have kept : (FfiOutcome.ofResult result).returnData = data := same
  rw [same]
  refine reads_requireOpen.bind (ends_bind ?_)
  by_cases empty : data = []
  · refine Ffi.reads_readOutcome found ?_
    rw [kept, if_pos empty]
    apply ends_pure
    subst empty
    exact reads_pure
  · have filled : data.length ≠ 0 := by
      rwa [ne_eq, List.length_eq_zero_iff]
    refine Ffi.reads_readOutcome found ?_
    rw [kept, if_neg empty]
    apply ends_bind
    refine ends_pure (after_ok (ends_pure (after_ok ?_)))
    dsimp only
    rw [if_neg filled]
    apply ends_bind
    refine Ffi.reads_readOutcome found ?_
    rw [kept, if_neg empty]
    have copied :
        Reads
          (Ffi.copyOut data (some (List.replicate data.length 0))
            data.length : Ffi PythonError Pointer) context contents
          (some data) := by
      have positive : 0 < data.length := Nat.pos_of_ne_zero filled
      rw [Ffi.copyOut, Nat.min_self, if_pos positive]
      apply reads_expect
      simp
    refine copied.bind (ends_pure ?_)
    exact Ffi.reads_fromRawParts data

/-- Every reading method answers as the result does. -/
theorem reads_question
    (found : contents place = some (.outcome (.ofResult result)))
    (question : Question) :
    Reads (question.method (some place)) context contents
      (question.answer result) := by
  have read {value : ℕ} {field : FfiOutcome → UInt64}
      (same : (field (.ofResult result)).toNat = value) :
      Reads
        (do
          let units ←
            (do
              requireOpen (some place) ExecutionResult.closedMessage
              let units ←
                Ffi.readOutcome (some place) 0 fun _ outcome =>
                  pure (field outcome)
              pure units.toNat : Ffi PythonError ℕ)
          pure (Reply.number units)) context contents
        (.number value) := by
    apply ends_bind
    refine reads_requireOpen.bind (ends_bind ?_)
    refine Ffi.reads_readOutcome found (ends_pure (after_ok ?_))
    refine ends_pure (after_ok (ends_pure ?_))
    rw [same]
  cases question with
  | isError =>
      exact (reads_isError found).bind reads_pure
  | isSuccess =>
      apply ends_bind
      refine (reads_isError found).bind ?_
      refine ends_pure (after_ok (ends_pure ?_))
      simp [Question.answer]
  | errorMessage =>
      exact (reads_errorMessage found).bind reads_pure
  | consumedUnits =>
      exact read rfl
  | transactionFeePaid =>
      exact read rfl
  | logs =>
      exact (reads_logs found).bind reads_pure
  | accounts =>
      exact (reads_accounts found).bind reads_pure
  | returnData =>
      exact (reads_returnData found).bind reads_pure

end Answers

/-! ## Calls -/

namespace Desk

theorem object_setSvm (desk : Desk) (svm : ℕ)
    (harness : Option FfiHarness) :
    (desk.setSvm svm harness).object =
      Function.update desk.object
        { kind := .svm
          number := svm }
        (harness.map .harness) := by
  funext object
  rcases object with ⟨kind, number⟩
  cases kind with
  | svm =>
      by_cases same : number = svm
      · subst same
        simp [Desk.object, Desk.setSvm]
      · have other :
            ({ kind := .svm, number } : ObjectId) ≠
              { kind := .svm
                number := svm } := by
          simpa using same
        rw [Function.update_of_ne other]
        simp [Desk.object, Desk.setSvm, Function.update_of_ne same]
  | result =>
      rw [Function.update_of_ne (by simp)]
      rfl

theorem object_setResult (desk : Desk) (number : ℕ)
    (result : Option HopperExecutionResult) :
    (desk.setResult number result).object =
      Function.update desk.object
        { kind := .result
          number }
        (result.map fun result => .outcome (.ofResult result)) := by
  funext object
  rcases object with ⟨kind, other⟩
  cases kind with
  | svm =>
      rw [Function.update_of_ne (by simp)]
      rfl
  | result =>
      by_cases same : other = number
      · subst same
        simp [Desk.object, Desk.setResult]
      · have apart :
            ({ kind := .result, number := other } : ObjectId) ≠
              { kind := .result
                number } := by
          simpa using same
        rw [Function.update_of_ne apart]
        simp [Desk.object, Desk.setResult, Function.update_of_ne same]

@[simp]
theorem object_count (desk : Desk) (kind : Kind) :
    (desk.count kind).object = desk.object :=
  rfl

end Desk

/-- The objects of a program hold what is on the desk, and those not yet
created hold nothing. -/
structure Matches (world : World) (desk : Desk) : Prop where
  represents : Represents world.memory.box world.handles desk.object
  created : world.created = desk.created
  later : ∀ object : ObjectId,
    world.created object.kind ≤ object.number →
      world.handles object = none

/-- A call of the program and its answer. -/
def Agrees (ended : Except PythonError Reply × World)
    (answered : Except PythonError Reply × Desk) : Prop :=
  ended.1 = answered.1 ∧ Matches ended.2 answered.2

section Calls

variable {world : World} {desk : Desk}

theorem matches_start : Matches World.start Desk.start := by
  have nothing : Desk.start.object = fun _ => none := by
    funext object
    rcases object with ⟨kind, number⟩
    cases kind with
    | svm =>
        rfl
    | result =>
        rfl
  refine ⟨?_, rfl, fun _ _ => rfl⟩
  rw [nothing]
  exact Represents.start ObjectId

/-- A harness object is closed on both sides, or open on both with the same
harness, which can be overwritten on both. -/
theorem svm_cases (same : Matches world desk) (svm : ℕ) :
    (world.svmHandle svm = none ∧ desk.svms svm = none) ∨
      ∃ place harness, world.svmHandle svm = some place ∧
        desk.svms svm = some harness ∧
        world.memory.box place = some (.harness harness) ∧
        ∀ harness' : FfiHarness,
          Represents
            (Function.update world.memory.box place
              (some (.harness harness')))
            world.handles (desk.setSvm svm harness').object := by
  cases held : world.svmHandle svm with
  | none =>
      have nothing := same.represents.closed held
      exact .inl ⟨rfl, Option.map_eq_none_iff.mp nothing⟩
  | some place =>
      obtain ⟨cell, owns, found⟩ := same.represents.opened held
      obtain ⟨harness, onDesk, isCell⟩ := Option.map_eq_some_iff.mp owns
      subst isCell
      refine .inr ⟨place, harness, rfl, onDesk, found, ?_⟩
      intro harness'
      rw [Desk.object_setSvm]
      exact same.represents.write held (.harness harness')

/-- A method on a harness that leaves the handles. -/
theorem answer_agrees (same : Matches world desk) (svm : ℕ)
    {method : Handle → Ffi PythonError Reply}
    {operation : FfiHarness → Except PythonError (Reply × FfiHarness)}
    (performs : Performs context method operation)
    (closed : Fails (method none) context world.memory.box
      (.runtimeError Svm.closedMessage)) :
    Option.Rel Agrees
      (world.answer context (method (world.svmHandle svm)))
      (some (desk.onSvm svm operation)) := by
  rcases svm_cases same svm with ⟨shut, none⟩ |
      ⟨place, harness, held, onDesk, found, written⟩
  · obtain ⟨memory', ran, boxes⟩ := exists_of_ends closed
    rw [shut, World.answer, ran, Desk.onSvm, none]
    refine .some ⟨rfl, ?_, same.created, same.later⟩
    exact boxes ▸ same.represents
  · have ends := performs _ place harness found
    rw [held, Desk.onSvm, onDesk]
    dsimp only
    cases performed : operation harness with
    | error err =>
        rw [performed] at ends
        obtain ⟨memory', ran, boxes⟩ := exists_of_ends ends
        rw [World.answer, ran]
        refine .some ⟨rfl, ?_, same.created, same.later⟩
        exact boxes ▸ same.represents
    | ok performed' =>
        rcases performed' with ⟨reply, harness'⟩
        rw [performed] at ends
        obtain ⟨memory', ran, boxes⟩ := exists_of_ends ends
        rw [World.answer, ran]
        refine .some ⟨rfl, ?_, same.created, same.later⟩
        exact boxes ▸ written harness'

/-- A new object wraps the box that a method made. -/
theorem wrap_matches {kind : Kind} {method : Ffi PythonError Handle}
    {memory' : Memory Cell} {contents' : Contents Cell} {place : ℕ}
    {cell : Cell} {desk' : Desk}
    (same : Matches world desk)
    (ran : method context world.memory = some (.ok (some place), memory'))
    (boxes :
      memory'.box = Function.update contents' place (some cell))
    (unused : contents' place = none)
    (represents : Represents contents' world.handles desk'.object)
    (created : desk'.created = desk.created)
    {desk'' : Desk}
    (objects :
      desk''.object =
        Function.update desk'.object (world.next kind) (some cell))
    (counted : desk''.created = (desk'.count kind).created) :
    Option.Rel Agrees (world.wrap context kind method)
      (some (desk.handOut kind, desk'')) := by
  have fresh : world.handles (world.next kind) = none :=
    same.later (world.next kind) (Nat.le_refl _)
  have handedOut :
      desk.handOut kind = .ok (.object (world.next kind)) := by
    rw [Desk.handOut, ← same.created]
    rfl
  have counts :
      desk''.created =
        Function.update world.created kind (world.created kind + 1) := by
    rw [counted, same.created, ← created]
    rfl
  rw [World.wrap, World.assign, ran, handedOut]
  refine .some ⟨rfl, ?_, counts.symm, ?_⟩
  · change
      Represents memory'.box
        (Function.update world.handles (world.next kind) (some place)) _
    rw [boxes, objects]
    exact represents.create fresh unused cell
  · intro object uncreated
    change
      Function.update world.created kind (world.created kind + 1)
          object.kind ≤ object.number at uncreated
    change
      Function.update world.handles (world.next kind) (some place)
        object = none
    by_cases sameKind : object.kind = kind
    · rw [sameKind, Function.update_self] at uncreated
      have other : object ≠ world.next kind := by
        intro next
        rw [next] at uncreated
        exact Nat.not_succ_le_self _ uncreated
      rw [Function.update_of_ne other]
      apply same.later
      rw [sameKind]
      omega
    · rw [Function.update_of_ne sameKind] at uncreated
      have other : object ≠ world.next kind := by
        intro next
        exact sameKind (next ▸ rfl)
      rw [Function.update_of_ne other]
      exact same.later object uncreated

/-- A constructor makes a harness. -/
theorem openSvm_agrees (same : Matches world desk)
    {method : Ffi PythonError Handle} {harness : FfiHarness}
    (ends : ∀ {post : Option (Except PythonError Handle × Contents Cell) →
        Prop},
      (∀ place : ℕ, world.memory.box place = none →
        post (some (.ok (some place),
          Function.update world.memory.box place
            (some (.harness harness))))) →
        Ends method context world.memory.box post) :
    Option.Rel Agrees (world.wrap context .svm method)
      (some (desk.openSvm harness)) := by
  have made :
      Ends method context world.memory.box fun ended =>
        ∃ place : ℕ, world.memory.box place = none ∧
          ended =
            some (.ok (some place),
              Function.update world.memory.box place
                (some (.harness harness))) :=
    ends fun place unused => ⟨place, unused, rfl⟩
  obtain ⟨place, unused, reached⟩ := made world.memory rfl
  obtain ⟨ended, ran, exact⟩ := Option.map_eq_some_iff.mp reached
  obtain ⟨returned, boxes⟩ := Prod.mk.inj exact
  have ran' :
      method context world.memory = some (.ok (some place), ended.2) := by
    rw [ran, ← returned]
  refine
    wrap_matches same ran' boxes unused same.represents rfl ?_ rfl
  rw [Desk.object_count, Desk.object_setSvm, ← same.created]
  rfl

/-- A method that raises makes no object. -/
theorem wrap_raises (same : Matches world desk) {kind : Kind}
    {method : Ffi PythonError Handle} {err : PythonError}
    (fails : Fails method context world.memory.box err) :
    Option.Rel Agrees (world.wrap context kind method)
      (some (.error err, desk)) := by
  obtain ⟨memory', ran, boxes⟩ := exists_of_ends fails
  rw [World.wrap, World.assign, ran]
  refine .some ⟨rfl, ?_, same.created, same.later⟩
  exact boxes ▸ same.represents

theorem dispatch_agrees (same : Matches world desk) (svm : ℕ)
    (ix : InstructionLike) :
    Option.Rel Agrees
      (world.wrap context .result (Svm.dispatch (world.svmHandle svm) ix))
      (desk.dispatch svm ix) := by
  rcases svm_cases same svm with ⟨shut, none⟩ |
      ⟨place, harness, held, onDesk, found, written⟩
  · rw [shut, Desk.dispatch, none]
    exact wrap_raises same fails_closed.bind
  · have ends :
        Ends (Svm.dispatch (some place) ix) context world.memory.box
          fun ended =>
            DispatchEnds world.memory.box place harness ix ended :=
      ends_dispatch found ix
    rw [held, Desk.dispatch, onDesk]
    dsimp only
    cases read : ix.read with
    | error err =>
        simp only [DispatchEnds, read] at ends
        exact wrap_raises same ends
    | ok instruction =>
        dsimp only
        cases ran : harness.dispatch instruction with
        | none =>
            simp only [DispatchEnds, read, ran] at ends
            have panicked := Option.map_eq_none_iff.mp (ends _ rfl)
            rw [World.wrap, World.assign, panicked]
            exact .none
        | some run =>
            rcases run with ⟨result, harness'⟩
            simp only [DispatchEnds, read, ran] at ends
            obtain ⟨outcome, unused, reached⟩ := ends _ rfl
            obtain ⟨ended, finished, same'⟩ :=
              Option.map_eq_some_iff.mp reached
            obtain ⟨returned, boxes⟩ := Prod.mk.inj same'
            have finished' :
                Svm.dispatch (some place) ix context world.memory =
                  some (.ok (some outcome), ended.2) := by
              rw [finished, ← returned]
            refine
              wrap_matches same finished' boxes unused (written harness')
                rfl ?_ rfl
            rw [Desk.object_count, Desk.object_setResult, ← same.created]
            rfl

/-- A result answers the questions of an open object. -/
theorem ask_agrees (same : Matches world desk) (result : ℕ)
    (question : Question) :
    Option.Rel Agrees
      (world.call context (.ask result question))
      (desk.call context.links (.ask result question)) := by
  obtain ⟨handle, held⟩ :
      ∃ handle,
        world.handles
            { kind := .result
              number := result } = handle :=
    ⟨_, rfl⟩
  rw [World.call, Desk.call, held]
  cases handle with
  | none =>
      have nothing := same.represents.closed held
      have none : desk.results result = none :=
        Option.map_eq_none_iff.mp nothing
      have fails :
          Fails (question.method Option.none) context world.memory.box
            (.runtimeError ExecutionResult.closedMessage) := by
        cases question with
        | isSuccess =>
            exact fails_closed.bind.bind.bind
        | _ =>
            exact fails_closed.bind.bind
      obtain ⟨memory', ran, boxes⟩ := exists_of_ends fails
      rw [World.answer, ran, none]
      refine .some ⟨rfl, ?_, same.created, same.later⟩
      exact boxes ▸ same.represents
  | some place =>
      obtain ⟨cell, owns, found⟩ := same.represents.opened held
      obtain ⟨answers, onDesk, isCell⟩ := Option.map_eq_some_iff.mp owns
      subst isCell
      obtain ⟨memory', ran, boxes⟩ :=
        exists_of_ends (reads_question found question)
      rw [World.answer, ran, onDesk]
      refine .some ⟨rfl, ?_, same.created, same.later⟩
      exact boxes ▸ same.represents

/-- Closing an object frees its box; closing it again does nothing. -/
theorem close_agrees (same : Matches world desk) (object : ObjectId) :
    Option.Rel Agrees
      (world.call context (.close object))
      (desk.call context.links (.close object)) := by
  obtain ⟨desk', answered, closes, keeps⟩ :
      ∃ desk' : Desk,
        desk.call context.links (.close object) =
            some (.ok .done, desk') ∧
          desk'.object = Function.update desk.object object none ∧
          desk'.created = desk.created := by
    rcases object with ⟨kind, number⟩
    cases kind with
    | svm =>
        exact ⟨_, rfl, Desk.object_setSvm desk number none, rfl⟩
    | result =>
        exact ⟨_, rfl, Desk.object_setResult desk number none, rfl⟩
  rw [answered]
  obtain ⟨method, called, ends⟩ :
      ∃ method : Ffi PythonError Handle,
        world.call context (.close object) =
            world.assign context object .done method ∧
          Ends method context world.memory.box fun ended =>
            ∃ contents', ended = some (.ok none, contents') ∧
              Represents contents'
                (Function.update world.handles object none)
                desk'.object := by
    refine ⟨_, rfl, ?_⟩
    cases held : world.handles object with
    | none =>
        have shut : Function.update world.handles object none =
            world.handles := by
          rw [← held, Function.update_eq_self]
        have empty : Function.update desk.object object none =
            desk.object := by
          rw [← same.represents.closed held, Function.update_eq_self]
        rw [closes, shut, empty]
        cases object.kind with
        | svm =>
            exact ends_pure ⟨_, rfl, same.represents⟩
        | result =>
            exact ends_pure ⟨_, rfl, same.represents⟩
    | some place =>
        obtain ⟨cell, owns, found⟩ := same.represents.opened held
        have released := same.represents.release held
        rw [closes]
        rcases object with ⟨kind, number⟩
        cases kind with
        | svm =>
            obtain ⟨harness, _, isCell⟩ := Option.map_eq_some_iff.mp owns
            subst isCell
            exact
              (ends_svmClose found).mono fun _ same =>
                ⟨_, same, released⟩
        | result =>
            obtain ⟨result, _, isCell⟩ := Option.map_eq_some_iff.mp owns
            subst isCell
            exact
              (ends_resultClose found).mono fun _ same =>
                ⟨_, same, released⟩
  obtain ⟨contents', reached, represents⟩ := ends _ rfl
  obtain ⟨ended, ran, same'⟩ := Option.map_eq_some_iff.mp reached
  obtain ⟨returned, boxes⟩ := Prod.mk.inj same'
  have ran' :
      method context world.memory = some (.ok none, ended.2) := by
    rw [ran, ← returned]
  rw [called, World.assign, ran']
  refine .some ⟨rfl, ?_, same.created.trans keeps.symm, ?_⟩
  · exact boxes ▸ represents
  · intro other uncreated
    change Function.update world.handles object none other = none
    by_cases is : other = object
    · rw [is, Function.update_self]
    · rw [Function.update_of_ne is]
      exact same.later other uncreated

/-- Every call is answered as on the desk. -/
theorem call_agrees (same : Matches world desk) (call : Call) :
    Option.Rel Agrees (world.call context call)
      (desk.call context.links call) := by
  cases call with
  | newSvm =>
      exact openSvm_agrees same ends_init
  | newWithSolanaRuntime =>
      exact openSvm_agrees same ends_withSolanaRuntime
  | setComputeBudget svm units =>
      refine answer_agrees same svm (setComputeBudget_performs units) ?_
      exact fails_closed.bind.bind
  | setAccount svm address lamports owner data executable =>
      refine
        answer_agrees same svm
          (setAccount_performs address lamports owner data executable) ?_
      exact fails_closed.bind.bind
  | getLamports svm address =>
      refine answer_agrees same svm (getLamports_performs address) ?_
      exact fails_closed.bind.bind
  | dispatch svm ix =>
      exact dispatch_agrees same svm ix
  | ask result question =>
      exact ask_agrees same result question
  | close object =>
      exact close_agrees same object

/-- From a world and a desk that match, a program ends on both sides with
the same answers, matching again, or panics on both. -/
theorem run_agrees (same : Matches world desk) (calls : List Call) :
    Option.Rel
      (fun ended answered =>
        ended.1 = answered.1 ∧ Matches ended.2 answered.2)
      (World.run context world calls)
      (Desk.run context.links desk calls) := by
  induction calls generalizing world desk with
  | nil =>
      exact .some ⟨rfl, same⟩
  | cons call rest inductionHypothesis =>
      have first :
          Option.Rel Agrees (world.call context call)
            (desk.call context.links call) :=
        call_agrees same call
      rw [World.run, Desk.run]
      revert first
      generalize world.call context call = ended
      generalize desk.call context.links call = answered
      intro first
      cases first with
      | none =>
          exact .none
      | some both =>
          rename_i ended answered
          rcases ended with ⟨reply, world'⟩
          rcases answered with ⟨reply', desk'⟩
          obtain ⟨sameReply, same'⟩ := both
          have later := inductionHypothesis same'
          simp only [Option.bind_eq_bind, Option.bind_some]
          revert later
          generalize World.run context world' rest = ended
          generalize Desk.run context.links desk' rest = answered
          intro later
          cases later with
          | none =>
              exact .none
          | some both =>
              obtain ⟨sameReplies, same''⟩ := both
              refine .some ⟨?_, same''⟩
              rw [← sameReplies]
              exact congrArg (· :: _) sameReply

end Calls

/-- Every program of Python calls, in every order and whatever addresses the
allocator picks, gets the answers of the desk; it aborts just where
processing an instruction panics. -/
theorem run_answers (context : FfiEnvironment) (calls : List Call) :
    (World.run context .start calls).map Prod.fst =
      (Desk.run context.links .start calls).map Prod.fst := by
  have both :
      Option.Rel
        (fun ended answered =>
          ended.1 = answered.1 ∧ Matches ended.2 answered.2)
        (World.run context .start calls)
        (Desk.run context.links .start calls) :=
    run_agrees matches_start calls
  revert both
  generalize World.run context .start calls = ended
  generalize Desk.run context.links .start calls = answered
  intro both
  cases both with
  | none =>
      rfl
  | some same =>
      exact congrArg some same.1

end PythonBinding

end Hopper
