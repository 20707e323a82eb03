import HopperSvm.AtaGuarantees
import HopperSvm.SlotEffects
import HopperSvm.SolanaRuntime

/-!
The associated-token-account program and the address-lookup-table program
debit the payer and set the owner of the new account themselves.  Strict
allows neither: the payer and the fresh account belong to the system program,
and only that program may take from the one and hand over the other.
-/

namespace Hopper

/-- The account over which the validator refuses an instruction. -/
def HopperSvm.refusedAccount (svm : HopperSvm) (ix : Instruction)
    (accounts : List KeyedAccount) : Option Pubkey := do
  let (result, _) ← svm.processInstruction ix accounts
  match result.outcome.error with
  | some (.accountValidationFailed account _) => some account
  | _ => none

/-- A refused instruction does not succeed. -/
theorem HopperSvm.not_succeeded_of_refused {svm svm' : HopperSvm}
    {ix : Instruction} {accounts : List KeyedAccount} {address : Pubkey}
    {result : HopperExecutionResult}
    (refused : svm.refusedAccount ix accounts = some address)
    (ran : svm.processInstruction ix accounts = some (result, svm')) :
    result.outcome.error ≠ none := by
  intro success
  simp [refusedAccount, ran, success] at refused

/-- A named account of the system program stays with it under any other
program. -/
theorem HopperSvm.owner_kept_of_system {programId : Pubkey}
    {program : BuiltinProgram} {svm svm' : HopperSvm} {ix : Instruction}
    {accounts : List KeyedAccount} {address : Pubkey} {p n : KeyedAccount}
    {result : HopperExecutionResult}
    (registered : svm.Registered programId program)
    (addressed : ix.programId = programId)
    (strict : svm.validationPolicy = .strict)
    (ran : svm.processInstruction ix accounts = some (result, svm'))
    (named : address ∈ ix.accounts.map AccountMeta.pubkey)
    (before : findAccount address accounts = some p)
    (after : findAccount address result.outcome.resultingAccounts = some n)
    (owned : p.owner = systemProgramId)
    (other : programId ≠ systemProgramId) : n.owner = systemProgramId := by
  let call : StrictCall programId program :=
    { svm, ix, accounts, result, svm', registered, addressed, ran, strict }
  have moves : call.Moves address p n := ⟨before, after⟩
  exact (moves.kept_of_system named owned other).2

namespace AtaProgram

/-- A Create sent through the harness as the program asks for it: by a
funding account that can pay, for a fresh account at the derived address, and
with a mint of the token program. -/
structure CreateRequest (codec : TokenCodec)
    (findProgramAddress : FindProgramAddress) where
  svm : HopperSvm
  ix : Instruction
  accounts : List KeyedAccount
  funding : Pubkey
  ata : Pubkey
  wallet : Pubkey
  mint : Pubkey
  tokenProgram : Pubkey
  payer : KeyedAccount
  blank : KeyedAccount
  minter : KeyedAccount
  registered :
    svm.Registered ataProgramId (splAtaSimulator codec findProgramAddress)
  strict : svm.validationPolicy = .strict
  addressed : ix.programId = ataProgramId
  creates : ix.data = [] ∨ ix.data.head? = some 0
  slots :
    (ix.accounts.map AccountMeta.pubkey).take 6 =
      [funding, ata, wallet, mint, systemProgramId, tokenProgram]
  signed : ix.accounts[0]? = some ⟨funding, true, true⟩
  writable : ix.accounts[1]?.map AccountMeta.isWritable = some true
  atFunding : findAccount funding accounts = some payer
  payerOwned : payer.owner = systemProgramId
  funded : ataDefaultLamports ≤ payer.lamports
  atAta : findAccount ata accounts = some blank
  fresh : Fresh blank
  atMint : findAccount mint accounts = some minter
  minted : minter.owner = tokenProgram
  supported : tokenProgram = splTokenId ∨ tokenProgram = splToken2022Id
  derived :
    ata = associatedTokenAddress findProgramAddress wallet mint tokenProgram

namespace CreateRequest

variable {codec : TokenCodec} {findProgramAddress : FindProgramAddress}

/-- The accounts after a creation and nothing else. -/
structure Created (request : CreateRequest codec findProgramAddress)
    (after : List KeyedAccount) : Prop where
  debited :
    findAccount request.funding after =
      some
        { request.payer with
          lamports := request.payer.lamports - ataDefaultLamports }
  opened : ∃ n token, findAccount request.ata after = some n ∧
    n.lamports = ataDefaultLamports ∧ n.owner = request.tokenProgram ∧
    codec.account.unpack n.data = .ok token ∧
    token.mint = request.mint ∧ token.owner = request.wallet ∧
    token.state = .initialized
  others : ∀ address, address ≠ request.funding →
    address ≠ request.ata →
      findAccount address after = findAccount address request.accounts

/-- The request succeeds and creates the account. -/
def Effective (request : CreateRequest codec findProgramAddress) : Prop :=
  ∃ result svm',
    request.svm.processInstruction request.ix request.accounts =
        some (result, svm') ∧
      result.outcome.error = none ∧
      request.Created result.outcome.resultingAccounts

theorem tokenProgram_ne
    (request : CreateRequest codec findProgramAddress) :
    request.tokenProgram ≠ systemProgramId := by
  rcases request.supported with legacy | extended
  · rw [legacy]
    decide
  · rw [extended]
    decide

theorem ata_named (request : CreateRequest codec findProgramAddress) :
    request.ata ∈ request.ix.accounts.map AccountMeta.pubkey := by
  apply List.mem_of_mem_take
  · rw [request.slots]
    simp

/-- No request is effective: the account stays with the system program. -/
theorem ata_never_created
    (request : CreateRequest codec findProgramAddress) :
    ¬ request.Effective := by
  intro effective
  rcases effective with ⟨result, svm', ran, _, created⟩
  rcases created.opened with ⟨n, _, atAta, _, handed, _⟩
  have kept :=
    HopperSvm.owner_kept_of_system request.registered request.addressed
      request.strict ran request.ata_named request.atAta atAta
      request.fresh.2.2 (by decide)
  rw [handed] at kept
  exact request.tokenProgram_ne kept

def createIx : Instruction :=
  { programId := ataProgramId
    accounts := requestMetas
    accounts_length := by decide
    data := [0] }

/-- A payer of three million lamports funds an account for wallet 3. -/
def walletRequest : CreateRequest splCodec derivesTwo where
  svm := (HopperSvm.ofRegistry fun _ => none).withBuiltin ataProgramId
    (splAtaSimulator splCodec derivesTwo)
  ix := createIx
  accounts := requestAccounts blankAta
  funding := .filled 5
  ata := .filled 2
  wallet := .filled 3
  mint := .filled 1
  tokenProgram := splTokenId
  payer := ataPayer
  blank := blankAta
  minter := tenMintAccount
  registered := ⟨rfl, rfl⟩
  strict := rfl
  addressed := rfl
  creates := Or.inr rfl
  slots := rfl
  signed := rfl
  writable := rfl
  atFunding := rfl
  payerOwned := rfl
  funded := by decide
  atAta := rfl
  fresh := ⟨rfl, rfl, rfl⟩
  atMint := rfl
  minted := rfl
  supported := Or.inl rfl
  derived := rfl

/-- The validator refuses the debit of the funding account. -/
theorem walletRequest_refused :
    walletRequest.svm.refusedAccount walletRequest.ix
        walletRequest.accounts = some walletRequest.funding ∧
      ¬ walletRequest.Effective := by
  have refused :
      walletRequest.svm.refusedAccount walletRequest.ix
        walletRequest.accounts = some walletRequest.funding := by
    decide +kernel
  refine ⟨refused, ?_⟩
  intro effective
  rcases effective with ⟨result, svm', ran, success, _⟩
  exact HopperSvm.not_succeeded_of_refused refused ran success

end CreateRequest

end AtaProgram

namespace AltProgram

open Bytes LookupTable

/-- A CreateLookupTable sent through the harness as the program asks for it:
by an authority and a payer that can pay, for a fresh account at the derived
address. -/
structure CreateRequest (createProgramAddress : CreateProgramAddress) where
  svm : HopperSvm
  ix : Instruction
  accounts : List KeyedAccount
  table : Pubkey
  authority : Pubkey
  payer : Pubkey
  recentSlot : UInt64
  bumpSeed : UInt8
  blank : KeyedAccount
  payerAccount : KeyedAccount
  registered :
    svm.Registered altProgramId (altProgramSimulator createProgramAddress)
  strict : svm.validationPolicy = .strict
  addressed : ix.programId = altProgramId
  creates : ix.data = u32Bytes 0 ++ u64Bytes recentSlot ++ [bumpSeed]
  slots :
    (ix.accounts.map AccountMeta.pubkey).take 4 =
      [table, authority, payer, systemProgramId]
  writable : ix.accounts[0]?.map AccountMeta.isWritable = some true
  authoritySigned : ix.accounts[1]?.map AccountMeta.isSigner = some true
  payerSigned : ix.accounts[2]? = some ⟨payer, true, true⟩
  distinct : payer ≠ table ∧ payer ≠ authority
  atTable : findAccount table accounts = some blank
  fresh : Fresh blank
  atPayer : findAccount payer accounts = some payerAccount
  payerOwned : payerAccount.owner = systemProgramId
  funded : initialLamports ≤ payerAccount.lamports
  derived :
    createProgramAddress [authority.bytes, u64Bytes recentSlot, [bumpSeed]]
      altProgramId = .ok table

namespace CreateRequest

variable {createProgramAddress : CreateProgramAddress}

/-- The accounts after a creation and nothing else. -/
structure Created (request : CreateRequest createProgramAddress)
    (after : List KeyedAccount) : Prop where
  debited :
    findAccount request.payer after =
      some
        { request.payerAccount with
          lamports := request.payerAccount.lamports - initialLamports }
  opened : ∃ n, findAccount request.table after = some n ∧
    n.lamports = initialLamports ∧ n.owner = altProgramId ∧
    readMeta n.data = some (.new request.authority)
  others : ∀ address, address ≠ request.payer → address ≠ request.table →
    findAccount address after = findAccount address request.accounts

/-- The request succeeds and creates the table. -/
def Effective (request : CreateRequest createProgramAddress) : Prop :=
  ∃ result svm',
    request.svm.processInstruction request.ix request.accounts =
        some (result, svm') ∧
      result.outcome.error = none ∧
      request.Created result.outcome.resultingAccounts

theorem table_named (request : CreateRequest createProgramAddress) :
    request.table ∈ request.ix.accounts.map AccountMeta.pubkey := by
  apply List.mem_of_mem_take
  · rw [request.slots]
    simp

/-- No request is effective: the table stays with the system program. -/
theorem table_never_created
    (request : CreateRequest createProgramAddress) :
    ¬ request.Effective := by
  intro effective
  rcases effective with ⟨result, svm', ran, _, created⟩
  rcases created.opened with ⟨n, atTable, _, handed, _⟩
  have kept :=
    HopperSvm.owner_kept_of_system request.registered request.addressed
      request.strict ran request.table_named request.atTable atTable
      request.fresh.2.2 (by decide)
  rw [handed] at kept
  exact absurd kept (by decide)

/-- Every address derives to `2..2`. -/
def derivesTable : CreateProgramAddress :=
  fun _ _ => .ok (.filled 2)

def tablePayer : KeyedAccount :=
  .new (.filled 5) 3000000 systemProgramId [] false

def blankTable : KeyedAccount :=
  .new (.filled 2) 0 systemProgramId [] false

/-- A table of authority `3..3` at slot 100. -/
def createTableIx : Instruction :=
  { programId := altProgramId
    accounts :=
      [⟨.filled 2, false, true⟩, ⟨.filled 3, true, false⟩,
        ⟨.filled 5, true, true⟩, ⟨systemProgramId, false, false⟩]
    data := u32Bytes 0 ++ u64Bytes 100 ++ [255] }

def tableRequest : CreateRequest derivesTable where
  svm := (HopperSvm.ofRegistry fun _ => none).withBuiltin altProgramId
    (altProgramSimulator derivesTable)
  ix := createTableIx
  accounts :=
    [blankTable, .new (.filled 3) 1000000 systemProgramId [] false,
      tablePayer, .new systemProgramId 1 systemProgramId [] true]
  table := .filled 2
  authority := .filled 3
  payer := .filled 5
  recentSlot := 100
  bumpSeed := 255
  blank := blankTable
  payerAccount := tablePayer
  registered := ⟨rfl, rfl⟩
  strict := rfl
  addressed := rfl
  creates := rfl
  slots := rfl
  writable := rfl
  authoritySigned := rfl
  payerSigned := rfl
  distinct := by decide
  atTable := rfl
  fresh := ⟨rfl, rfl, rfl⟩
  atPayer := rfl
  payerOwned := rfl
  funded := by decide
  derived := rfl

/-- The validator refuses the table. -/
theorem tableRequest_refused :
    tableRequest.svm.refusedAccount tableRequest.ix
        tableRequest.accounts = some tableRequest.table ∧
      ¬ tableRequest.Effective := by
  have refused :
      tableRequest.svm.refusedAccount tableRequest.ix
        tableRequest.accounts = some tableRequest.table := by
    decide +kernel
  refine ⟨refused, ?_⟩
  intro effective
  rcases effective with ⟨result, svm', ran, success, _⟩
  exact HopperSvm.not_succeeded_of_refused refused ran success

end CreateRequest

end AltProgram

end Hopper
