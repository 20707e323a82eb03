import HopperSvm.Library.KeyedList
import HopperSvm.Library.Procedure
import HopperSvm.Library.Words
import HopperSvm.Account
import HopperSvm.Error
import HopperSvm.Runtime
import HopperSvm.Builtin
import HopperSvm.Library.Bytes
import HopperSvm.Library.Layout
import HopperSvm.Library.Record
import HopperSvm.Bundled
import HopperSvm.Refusal
import HopperSvm.Seeds
import HopperSvm.Fields
import HopperSvm.StakeState
import HopperSvm.StakeProgram
import HopperSvm.LookupTable
import HopperSvm.AltProgram
import HopperSvm.VoteProgram
import HopperSvm.ConfigProgram
import HopperSvm.ComputeBudgetProgram
import HopperSvm.Nonce
import HopperSvm.SystemProgram
import HopperSvm.TokenState
import HopperSvm.SplToken
import HopperSvm.Token2022
import HopperSvm.AtaProgram
import HopperSvm.Engine
import HopperSvm.Clones
import HopperSvm.Validation
import HopperSvm.Library.Footprint
import HopperSvm.Ledger
import HopperSvm.Agave
import HopperSvm.Fees
import HopperSvm.AccountStore
import HopperSvm.Harness
import HopperSvm.SolanaRuntime
import HopperSvm.Dispatch
import HopperSvm.Barrier
import HopperSvm.CreateAccount
import HopperSvm.Library.Circulation
import HopperSvm.TokenEffects
import HopperSvm.TokenHandlers
import HopperSvm.TokenBook
import HopperSvm.TokenSupply
import HopperSvm.TokenGuards
import HopperSvm.AtaEffects
import HopperSvm.AtaGuarantees
import HopperSvm.Chain
import HopperSvm.LedgerStep
import HopperSvm.Commutation
import HopperSvm.StatefulVerbs
import HopperSvm.Failure
import HopperSvm.Simulation
import HopperSvm.Privileges
import HopperSvm.Library.Trace
import HopperSvm.SlotEffects
import HopperSvm.Allowance
import HopperSvm.Library.Overlay
import HopperSvm.ComputeLimit
import HopperSvm.ConfigRuns
import HopperSvm.StakeEffects
import HopperSvm.StakeRuns
import HopperSvm.VoteEffects
import HopperSvm.VoteRuns
import HopperSvm.NonceRecord
import HopperSvm.SystemEffects
import HopperSvm.NonceControl
import HopperSvm.AltEffects
import HopperSvm.AltRuns
import HopperSvm.TableHistory
import HopperSvm.WarmUp
import HopperSvm.InlineCreation
import HopperSvm.TransactionFee
import HopperSvm.ClockWarps
import HopperSvm.AltExtension
import HopperSvm.SystemPanics
import HopperSvm.Library.Metering
import HopperSvm.MeteredPrograms
import HopperSvm.LamportFlow
import HopperSvm.Recreation
import HopperSvm.MintGrammar
import HopperSvm.Library.Rearrangement
import HopperSvm.ValidationOrder
import HopperSvm.ConfigFormat
import HopperSvm.VotePanics
import HopperSvm.VoteCommission
import HopperSvm.ForeignTables
import HopperSvm.LogFraming
import HopperSvm.StakeCodec
import HopperSvm.Library.Printing
import HopperSvm.Descriptions
import HopperSvm.Library.Radix
import HopperSvm.BindingAddresses
import HopperSvm.Library.Boxes
import HopperSvm.Ffi
import HopperSvm.PythonWrapper
import HopperSvm.PythonValues
import HopperSvm.PythonRuns
import HopperSvm.BundledHarness
import HopperSvm.PythonObjects
import HopperSvm.PythonCache
import HopperSvm.Session
import HopperSvm.LamportAudit
import HopperSvm.PythonAudit
import HopperSvm.OwnerChanges
import HopperSvm.WalletSafety
import HopperSvm.Isolation
import HopperSvm.TokenControl
import HopperSvm.SupplySessions
import HopperSvm.Library.Patch
import HopperSvm.Fixtures
import HopperSvm.TokenFactories
import HopperSvm.Scripts
import HopperSvm.OverlayAudit
import HopperSvm.OverlayIsolation
