import HopperSvm.AltProgram
import HopperSvm.AtaProgram
import HopperSvm.ComputeBudgetProgram
import HopperSvm.ConfigProgram
import HopperSvm.Harness
import HopperSvm.StakeProgram
import HopperSvm.VoteProgram

namespace Hopper

/-- What the bundled programs take from linked crates, and the rent
computation in double precision. -/
structure RuntimeLinks where
  crates : Crates
  codec : TokenCodec
  minimumBalance : Rent → Nat → UInt64
  createProgramAddress : CreateProgramAddress
  findProgramAddress : FindProgramAddress

/-- The bundled programs at the IDs their builders register them under. -/
inductive BundledAt : Pubkey → BuiltinProgram → Prop
  | system (crates : Crates) :
      BundledAt systemProgramId (systemProgram crates)
  | computeBudget :
      BundledAt computeBudgetProgramId computeBudgetProgramSimulator
  | alt (createProgramAddress : CreateProgramAddress) :
      BundledAt altProgramId (altProgramSimulator createProgramAddress)
  | config : BundledAt configProgramId configProgramSimulator
  | stake (minimumBalance : Rent → Nat → UInt64) :
      BundledAt stakeProgramId (stakeProgramSimulator minimumBalance)
  | vote (minimumBalance : Rent → Nat → UInt64) :
      BundledAt voteProgramId (voteProgramSimulator minimumBalance)
  | splToken (codec : TokenCodec) :
      BundledAt splTokenId (splTokenSimulator codec)
  | splToken2022 (codec : TokenCodec) :
      BundledAt splToken2022Id (splToken2022Simulator codec)
  | splAta (codec : TokenCodec)
      (findProgramAddress : FindProgramAddress) :
      BundledAt ataProgramId (splAtaSimulator codec findProgramAddress)

/-- The program is one of those the crate ships. -/
def BuiltinProgram.Bundled (program : BuiltinProgram) : Prop :=
  ∃ id, BundledAt id program

open BuiltinProgram in
theorem BundledAt.keepsCells_or_computeBudget {id : Pubkey}
    {program : BuiltinProgram} (bundled : BundledAt id program) :
    (id ≠ computeBudgetProgramId ∧ program.KeepsCells) ∨
      (id = computeBudgetProgramId ∧
        program = computeBudgetProgramSimulator) := by
  cases bundled with
  | computeBudget => exact Or.inr ⟨rfl, rfl⟩
  | system => exact Or.inl ⟨by decide, keepsCells_ofRoutine⟩
  | alt => exact Or.inl ⟨by decide, keepsCells_ofRoutine⟩
  | config => exact Or.inl ⟨by decide, keepsCells_ofRoutine⟩
  | stake => exact Or.inl ⟨by decide, keepsCells_ofRoutine⟩
  | vote => exact Or.inl ⟨by decide, keepsCells_ofRoutine⟩
  | splToken => exact Or.inl ⟨by decide, keepsCells_ofRoutine⟩
  | splToken2022 => exact Or.inl ⟨by decide, keepsCells_ofRoutine⟩
  | splAta => exact Or.inl ⟨by decide, keepsCells_ofRoutine⟩

namespace HopperSvm

section Builders

variable (svm : HopperSvm) (links : RuntimeLinks)

def withComputeBudgetProgram : HopperSvm :=
  svm.withBuiltin computeBudgetProgramId computeBudgetProgramSimulator

def withAltProgram : HopperSvm :=
  svm.withBuiltin altProgramId
    (altProgramSimulator links.createProgramAddress)

def withConfigProgram : HopperSvm :=
  svm.withBuiltin configProgramId configProgramSimulator

def withStakeProgram : HopperSvm :=
  svm.withBuiltin stakeProgramId
    (stakeProgramSimulator links.minimumBalance)

def withVoteProgram : HopperSvm :=
  svm.withBuiltin voteProgramId (voteProgramSimulator links.minimumBalance)

def withSplToken2022Simulator : HopperSvm :=
  svm.withBuiltin splToken2022Id (splToken2022Simulator links.codec)

def withSplAssociatedTokenSimulator : HopperSvm :=
  svm.withBuiltin ataProgramId
    (splAtaSimulator links.codec links.findProgramAddress)

/-- `HopperSvm::with_spl_simulators`. -/
def withSplSimulators : HopperSvm :=
  ((svm.withSplTokenSimulator links.codec).withSplToken2022Simulator
    links).withSplAssociatedTokenSimulator links

/-- `HopperSvm::with_solana_runtime`. -/
def withSolanaRuntime : HopperSvm :=
  (((((svm.withComputeBudgetProgram).withAltProgram
    links).withConfigProgram).withStakeProgram links).withVoteProgram
    links).withSplSimulators links

end Builders

/-- Every registered program is a bundled one, at its own ID. -/
def OnlyBundled (svm : HopperSvm) : Prop :=
  ∀ id program, svm.registry id = some program → BundledAt id program

theorem OnlyBundled.withBuiltin {svm : HopperSvm} {id : Pubkey}
    {program : BuiltinProgram} (others : svm.OnlyBundled)
    (own : BundledAt id program) :
    (svm.withBuiltin id program).OnlyBundled := by
  intro other registered found
  unfold HopperSvm.withBuiltin at found
  dsimp only at found
  split at found
  · rename_i same
    cases found
    rw [same]
    exact own
  · exact others other registered found

/-- `HopperSvm::resolve_address_table_lookup`. -/
def resolveAddressTableLookup (svm : HopperSvm)
    (accounts : List KeyedAccount) (tableAddress : Pubkey)
    (writableIndexes readonlyIndexes : List UInt8) :
    Except HopperSvmError (List Pubkey × List Pubkey) := do
  let table ←
    match findAccount tableAddress accounts with
    | some table => .ok table
    | none => .error (.unknownAccount tableAddress)
  let tableMeta ←
    match LookupTable.readMeta table.data with
    | some tableMeta => .ok tableMeta
    | none =>
        .error
          (.builtinError altProgramId
            s!"resolve: {tableAddress} not a valid lookup table")
  if tableMeta.IsCloseable svm.sysvars.clock.slot then
    .error
      (.builtinError altProgramId
        s!"resolve: {tableAddress} deactivated and cooled down — addresses no longer resolvable")
  else
    (LookupTable.resolveLookup table.data writableIndexes
      readonlyIndexes).mapError fun err =>
        .builtinError altProgramId s!"resolve {tableAddress}: {err}"

end HopperSvm

end Hopper
