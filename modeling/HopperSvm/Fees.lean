import HopperSvm.Account
import HopperSvm.Library.Words

namespace Hopper

open Words

def defaultLamportsPerSignature : UInt64 := 5000

structure FeeCalculator where
  lamportsPerSignature : UInt64
  deriving DecidableEq

/-- `FeeCalculator::default()`. -/
def FeeCalculator.default : FeeCalculator :=
  { lamportsPerSignature := defaultLamportsPerSignature }

def FeeCalculator.baseFee (calculator : FeeCalculator)
    (numSigners : UInt64) : UInt64 :=
  saturatingMul calculator.lamportsPerSignature numSigners

def priorityFee (computeUnitLimit microLamportsPerCu : UInt64) : UInt64 :=
  saturatingMul computeUnitLimit microLamportsPerCu / 1000000

/-- The distinct signers of the metas, after those already seen. -/
def uniqueSigners (seen : List Pubkey) (metas : List AccountMeta) :
    List Pubkey :=
  metas.foldl
    (fun seen accountMeta =>
      if accountMeta.isSigner ∧ accountMeta.pubkey ∉ seen then
        seen ++ [accountMeta.pubkey]
      else
        seen)
    seen

def countUniqueSigners (metasLists : List (List AccountMeta)) : UInt64 :=
  UInt64.ofNat (metasLists.foldl uniqueSigners []).length

def totalFee (calculator : FeeCalculator)
    (numUniqueSigners computeUnitLimit microLamportsPerCu : UInt64) :
    UInt64 :=
  saturatingAdd (calculator.baseFee numUniqueSigners)
    (priorityFee computeUnitLimit microLamportsPerCu)

end Hopper
