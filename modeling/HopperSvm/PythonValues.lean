import HopperSvm.PythonWrapper

/-!
`Desk` is what the Python binding is for: harnesses and results as values,
an answer for every call, and no memory at all.  Each method of the classes
is specified by the answer of the desk and by what it does to the contents
of the boxes.
-/

namespace Hopper

open Boxes Procedure

namespace FfiHarness

/-- What `hopper_svm_new` makes. -/
def fresh (links : RuntimeLinks) : FfiHarness :=
  { svm := .new links.crates
    accounts := [] }

def withSolanaRuntime (harness : FfiHarness) (links : RuntimeLinks) :
    FfiHarness :=
  { harness with svm := harness.svm.withSolanaRuntime links }

def setComputeBudget (harness : FfiHarness) (units : UInt64) :
    FfiHarness :=
  { harness with svm := harness.svm.setComputeBudget units }

def setAccount (harness : FfiHarness) (account : KeyedAccount) :
    FfiHarness :=
  { harness with
    accounts :=
      KeyedList.upsert KeyedAccount.address account harness.accounts }

/-- The balance of a cached account.  The largest balance stands for an
unknown account and cannot be read. -/
def balance (harness : FfiHarness) (address : Pubkey) : Option ℕ :=
  let value :=
    ((findAccount address harness.accounts).map fun account =>
      account.lamports.toNat).getD Ffi.unknown
  if value = Ffi.unknown then none else some value

/-- Process an instruction on the cached accounts and cache the result. -/
def dispatch (harness : FfiHarness) (ix : Instruction) :
    Option (HopperExecutionResult × FfiHarness) :=
  (harness.svm.processInstruction ix harness.accounts).map fun run =>
    (run.1,
      { svm := run.2
        accounts := run.1.outcome.resultingAccounts })

end FfiHarness

namespace PythonBinding

/-- The address a `PubkeyLike` stands for. -/
def PubkeyLike.address : PubkeyLike → Except PythonError Pubkey
  | .pubkey address => .ok address
  | .bytes raw =>
      if sized : raw.length = 32 then
        .ok ⟨raw, sized⟩
      else
        .error
          (.valueError s!"pubkey: expected 32 bytes, got {raw.length}")

/-- The metas a list stands for. -/
def metasOf : List MetaLike → Except PythonError (List AccountMeta)
  | [] => .ok []
  | listed :: rest => do
      let pubkey ← listed.pubkey.address
      let later ← metasOf rest
      .ok
        ({ pubkey
           isSigner := listed.isSigner
           isWritable := listed.isWritable } :: later)

theorem length_metasOf {listed : List MetaLike} {metas : List AccountMeta}
    (read : metasOf listed = .ok metas) : metas.length = listed.length := by
  induction listed generalizing metas with
  | nil =>
      cases read
      rfl
  | cons first rest inductionHypothesis =>
      rw [metasOf] at read
      cases pubkey : first.pubkey.address with
      | error err =>
          rw [pubkey] at read
          cases read
      | ok address =>
          cases later : metasOf rest with
          | error err =>
              rw [pubkey, later] at read
              cases read
          | ok tail =>
              rw [pubkey, later] at read
              cases read
              rw [List.length_cons, List.length_cons,
                inductionHypothesis later]

/-- The instruction an `InstructionLike` stands for. -/
def InstructionLike.read (ix : InstructionLike) :
    Except PythonError Instruction :=
  match ix.programId.address with
  | .error err => .error err
  | .ok programId =>
      match read : metasOf ix.accounts with
      | .error err => .error err
      | .ok metas =>
          .ok
            { programId
              accounts := metas
              data := ix.data
              accounts_length := by
                rw [length_metasOf read]
                exact ix.accounts_length }

/-- What a result answers. -/
def Question.answer (result : HopperExecutionResult) : Question → Reply
  | .isError => .flag result.outcome.error.isSome
  | .isSuccess => .flag result.outcome.error.isNone
  | .errorMessage =>
      .text ((result.outcome.error.map HopperSvmError.describe).getD "")
  | .consumedUnits => .number result.outcome.computeUnitsConsumed.toNat
  | .transactionFeePaid => .number result.transactionFeePaid.toNat
  | .logs => .texts result.logs
  | .accounts => .accounts result.outcome.resultingAccounts
  | .returnData => .bytes result.outcome.returnData

/-- The harnesses and the results that are open. -/
structure Desk where
  svms : ℕ → Option FfiHarness
  results : ℕ → Option HopperExecutionResult
  created : Kind → ℕ

namespace Desk

def start : Desk :=
  { svms := fun _ => none
    results := fun _ => none
    created := fun _ => 0 }

variable (links : RuntimeLinks) (desk : Desk)

def setSvm (svm : ℕ) (harness : Option FfiHarness) : Desk :=
  { desk with svms := Function.update desk.svms svm harness }

def setResult (number : ℕ) (result : Option HopperExecutionResult) :
    Desk :=
  { desk with results := Function.update desk.results number result }

def count (kind : Kind) : Desk :=
  { desk with
    created :=
      Function.update desk.created kind (desk.created kind + 1) }

/-- A call on an open harness. -/
def onSvm (svm : ℕ)
    (operation : FfiHarness → Except PythonError (Reply × FfiHarness)) :
    Except PythonError Reply × Desk :=
  match desk.svms svm with
  | none => (.error (.runtimeError Svm.closedMessage), desk)
  | some harness =>
      match operation harness with
      | .error err => (.error err, desk)
      | .ok (reply, harness') => (.ok reply, desk.setSvm svm harness')

/-- The reply that hands out the next object of a class. -/
def handOut (kind : Kind) : Except PythonError Reply :=
  .ok
    (.object
      { kind
        number := desk.created kind })

/-- A new harness. -/
def openSvm (harness : FfiHarness) : Except PythonError Reply × Desk :=
  (desk.handOut .svm,
    (desk.setSvm (desk.created .svm) harness).count .svm)

/-- A dispatch on an open harness. -/
def dispatch (svm : ℕ) (ix : InstructionLike) :
    Option (Except PythonError Reply × Desk) :=
  match desk.svms svm with
  | none => some (.error (.runtimeError Svm.closedMessage), desk)
  | some harness =>
      match ix.read with
      | .error err => some (.error err, desk)
      | .ok ix =>
          (harness.dispatch ix).map fun run =>
            (desk.handOut .result,
              ((desk.setSvm svm run.2).setResult (desk.created .result)
                run.1).count .result)

/-- The answer to a call.  Only a dispatch can have none, where processing
the instruction panics. -/
def call : Call → Option (Except PythonError Reply × Desk)
  | .newSvm => some (desk.openSvm (.fresh links))
  | .newWithSolanaRuntime =>
      some (desk.openSvm ((FfiHarness.fresh links).withSolanaRuntime links))
  | .setComputeBudget svm units =>
      some
        (desk.onSvm svm fun harness => do
          let units ← toUint64 units
          .ok (.done, harness.setComputeBudget units))
  | .setAccount svm address lamports owner data executable =>
      some
        (desk.onSvm svm fun harness => do
          let address ← address.address
          let owner ← owner.address
          let lamports ← toUint64 lamports
          .ok
            (.done,
              harness.setAccount
                (.new address lamports owner data executable)))
  | .getLamports svm address =>
      some
        (desk.onSvm svm fun harness => do
          let address ← address.address
          .ok (.balance (harness.balance address), harness))
  | .dispatch svm ix => desk.dispatch svm ix
  | .ask result question =>
      match desk.results result with
      | none =>
          some
            (.error (.runtimeError ExecutionResult.closedMessage), desk)
      | some held => some (.ok (question.answer held), desk)
  | .close object =>
      match object.kind with
      | .svm => some (.ok .done, desk.setSvm object.number none)
      | .result => some (.ok .done, desk.setResult object.number none)

/-- The answers to the calls of a program. -/
def run (links : RuntimeLinks) : Desk → List Call →
    Option (List (Except PythonError Reply) × Desk)
  | desk, [] => some ([], desk)
  | desk, call :: rest => do
      let (reply, desk) ← desk.call links call
      let (replies, desk) ← run links desk rest
      some (reply :: replies, desk)

/-- The box that holds an object. -/
def object : ObjectId → Option Cell
  | { kind := .svm, number } => (desk.svms number).map .harness
  | { kind := .result, number } =>
      (desk.results number).map fun result => .outcome (.ofResult result)

end Desk

end PythonBinding

end Hopper
