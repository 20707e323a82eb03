import HopperSvm.Seeds

namespace Hopper

open Bytes

def nonceStateBytes : Nat := 80

/-- Current. -/
def nonceTagVersions : Nat := 1

def nonceTagInitialized : Nat := 1

def nonceTagUninitialized : Nat := 0

def nonceDefaultFee : UInt64 := 5000

structure NonceState where
  initialized : Bool
  authority : Pubkey
  durableNonce : Bytes32
  lamportsPerSignature : UInt64
  deriving DecidableEq

/-- Write a state over the front of a buffer, or nothing over a short
one. -/
def writeNonceState (data : List UInt8) (state : NonceState) :
    List UInt8 :=
  if data.length < nonceStateBytes then
    data
  else
    let tag :=
      if state.initialized then nonceTagInitialized
      else nonceTagUninitialized
    let data := copyInto data 0 (leBytes 4 nonceTagVersions)
    let data := copyInto data 4 (leBytes 4 tag)
    let data := copyInto data 8 state.authority.bytes
    let data := copyInto data 40 state.durableNonce.val
    copyInto data 72 (leBytes 8 state.lamportsPerSignature.toNat)

/-- `b"hopper-nonce"`. -/
def noncePrefix : List UInt8 :=
  [0x68, 0x6F, 0x70, 0x70, 0x65, 0x72, 0x2D, 0x6E, 0x6F, 0x6E, 0x63, 0x65]

/-- The durable nonce of a slot. -/
def synthesiseNonceFromSlot (crates : Crates) (slot : UInt64) : Bytes32 :=
  crates.sha256 (noncePrefix ++ leBytes 8 slot.toNat)

namespace Routine

/-- `bytes[start..start + 32]` as a `[u8; 32]`. -/
def readBytes32 (bytes : List UInt8) (start : Nat) : Routine Bytes32 := do
  let word ← slice bytes start (start + 32)
  expect (if sized : word.length = 32 then some ⟨word, sized⟩ else none)

/-- Read the state off the front of a buffer. -/
def readNonceState (data : List UInt8) : Routine NonceState := do
  rejectBuiltin (data.length < nonceStateBytes)
    s!"nonce state: data {data.length} bytes < required {nonceStateBytes}"
  let stateTag ← readU32 data 4
  let authority ← readPubkey data 8
  let durableNonce ← readBytes32 data 40
  let fee ← readU64 data 72
  pure
    { initialized := stateTag.toNat = nonceTagInitialized
      authority
      durableNonce
      lamportsPerSignature := fee }

end Routine

end Hopper
