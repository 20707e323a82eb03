import HopperSvm.Account

namespace Hopper

inductive HopperSvmError where
  | unknownProgram (id : Pubkey)
  | builtinError (programId : Pubkey) (message : String)
  | outOfComputeUnits (consumed limit : UInt64)
  | emptyChain
  | accountIndexOutOfBounds (index len : Nat)
  | unknownAccount (address : Pubkey)
  | insufficientFunds
      (account : Pubkey) (balance requested : UInt64)
  | accountNotWritable (account : Pubkey)
  | accountNotSigner (account : Pubkey)
  | custom (code : UInt32)
  | accountValidationFailed (account : Pubkey) (reason : String)
  deriving DecidableEq

/-- Short text of an error, used by `Display` and in the transcript. -/
def HopperSvmError.describe : HopperSvmError → String
  | .unknownProgram id => s!"UnknownProgram({id})"
  | .builtinError programId message =>
      s!"BuiltinError({programId}): {message}"
  | .outOfComputeUnits consumed limit =>
      s!"OutOfComputeUnits(consumed={consumed}, limit={limit})"
  | .emptyChain => "EmptyChain"
  | .accountIndexOutOfBounds index len =>
      s!"AccountIndexOutOfBounds(index={index}, len={len})"
  | .unknownAccount address => s!"UnknownAccount({address})"
  | .insufficientFunds account balance requested =>
      s!"InsufficientFunds(account={account}, balance={balance}, requested={requested})"
  | .accountNotWritable account => s!"AccountNotWritable({account})"
  | .accountNotSigner account => s!"AccountNotSigner({account})"
  | .custom code => s!"Custom({code})"
  | .accountValidationFailed account reason =>
      s!"AccountValidationFailed(account={account}, reason={reason})"

instance : ToString HopperSvmError := ⟨HopperSvmError.describe⟩

end Hopper
