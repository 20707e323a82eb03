import HopperSvm.Error
import HopperSvm.Library.Words

namespace Hopper

open Words

structure LogCapture where
  lines : List String
  depth : Nat
  deriving DecidableEq

namespace LogCapture

/-- `LogCapture::default()`. -/
def empty : LogCapture := { lines := [], depth := 0 }

def line (logs : LogCapture) (text : String) : LogCapture :=
  { logs with lines := logs.lines ++ [text] }

def programLog (logs : LogCapture) (message : String) : LogCapture :=
  logs.line s!"Program log: {message}"

def invoke (logs : LogCapture) (programId : Pubkey) : LogCapture :=
  { lines :=
      logs.lines ++ [s!"Program {programId} invoke [{logs.depth + 1}]"]
    depth := logs.depth + 1 }

def success (logs : LogCapture) (programId : Pubkey)
    (consumed budget : UInt64) : LogCapture :=
  { lines :=
      logs.lines ++
        [s!"Program {programId} consumed {consumed} of {budget} compute units",
          s!"Program {programId} success"]
    depth := logs.depth - 1 }

def failure (logs : LogCapture) (programId : Pubkey)
    (consumed budget : UInt64) (err : HopperSvmError) : LogCapture :=
  { lines :=
      logs.lines ++
        [s!"Program {programId} consumed {consumed} of {budget} compute units",
          s!"Program {programId} failed: {err}"]
    depth := logs.depth - 1 }

/-- The divider between the instructions of a chain. -/
def sectionBreak (logs : LogCapture) (label : String) : LogCapture :=
  { logs with
    lines :=
      (if logs.lines.isEmpty then [] else logs.lines ++ [""]) ++
        [s!"# {label}"] }

end LogCapture

def defaultComputeLimit : UInt64 := 200000

def defaultBuiltinCost : UInt64 := 150

structure ComputeBudget where
  consumed : UInt64
  limit : UInt64
  defaultBuiltinCost : UInt64
  deriving DecidableEq

namespace ComputeBudget

def new (limit defaultBuiltinCost : UInt64) : ComputeBudget :=
  { consumed := 0, limit, defaultBuiltinCost }

/-- `ComputeBudget::default()`. -/
def default : ComputeBudget :=
  new defaultComputeLimit Hopper.defaultBuiltinCost

def reset (budget : ComputeBudget) : ComputeBudget :=
  { budget with consumed := 0 }

def setLimit (budget : ComputeBudget) (limit : UInt64) :
    ComputeBudget :=
  { budget with limit }

/-- Charge first, then check: an overrun is charged and reported. -/
def consume (budget : ComputeBudget) (units : UInt64) :
    Except HopperSvmError Unit × ComputeBudget :=
  let new := saturatingAdd budget.consumed units
  let charged := { budget with consumed := new }
  if new > budget.limit then
    (.error (.outOfComputeUnits new budget.limit), charged)
  else
    (.ok (), charged)

end ComputeBudget

/-- An `f64`, kept as its bits. -/
structure F64 where
  bits : UInt64
  deriving DecidableEq

structure Clock where
  slot : UInt64
  epochStartTimestamp : Int64
  epoch : UInt64
  leaderScheduleEpoch : UInt64
  unixTimestamp : Int64
  deriving DecidableEq

/-- `Clock::default()`. -/
def Clock.default : Clock :=
  { slot := 0
    epochStartTimestamp := 1700000000
    epoch := 0
    leaderScheduleEpoch := 0
    unixTimestamp := 1700000000 }

structure Rent where
  lamportsPerByteYear : UInt64
  exemptionThreshold : F64
  burnPercent : UInt8
  deriving DecidableEq

/-- `Rent::default()`; the threshold is the double `2.0`. -/
def Rent.default : Rent :=
  { lamportsPerByteYear := 3480
    exemptionThreshold := ⟨0x4000000000000000⟩
    burnPercent := 50 }

structure EpochSchedule where
  slotsPerEpoch : UInt64
  leaderScheduleSlotOffset : UInt64
  warmup : Bool
  firstNormalEpoch : UInt64
  firstNormalSlot : UInt64
  deriving DecidableEq

/-- `EpochSchedule::default()`. -/
def EpochSchedule.default : EpochSchedule :=
  { slotsPerEpoch := 432000
    leaderScheduleSlotOffset := 432000
    warmup := false
    firstNormalEpoch := 0
    firstNormalSlot := 0 }

structure LastRestartSlot where
  lastRestartSlot : UInt64
  deriving DecidableEq

structure EpochRewards where
  distributionStartingBlockHeight : UInt64
  numPartitions : UInt64
  parentBlockhash : List UInt8
  totalPoints : Nat
  totalRewards : UInt64
  distributedRewards : UInt64
  active : Bool
  deriving DecidableEq

/-- `EpochRewards::default()`: no rewards are being distributed. -/
def EpochRewards.default : EpochRewards :=
  { distributionStartingBlockHeight := 0
    numPartitions := 0
    parentBlockhash := List.replicate 32 0
    totalPoints := 0
    totalRewards := 0
    distributedRewards := 0
    active := false }

structure Sysvars where
  clock : Clock
  rent : Rent
  epochSchedule : EpochSchedule
  lastRestartSlot : LastRestartSlot
  epochRewards : EpochRewards
  deriving DecidableEq

/-- `Sysvars::default()`. -/
def Sysvars.default : Sysvars :=
  { clock := .default
    rent := .default
    epochSchedule := .default
    lastRestartSlot := ⟨0⟩
    epochRewards := .default }

end Hopper
