import HopperSvm.Library.KeyedList

namespace Hopper

/-- A 32-byte account address. -/
structure Pubkey where
  bytes : List UInt8
  length_eq : bytes.length = 32
  deriving DecidableEq

namespace Pubkey

/-- The address whose 32 bytes are all `byte`. -/
def filled (byte : UInt8) : Pubkey :=
  ⟨List.replicate 32 byte, List.length_replicate⟩

/-- `Pubkey::default()`. -/
def default : Pubkey := filled 0

instance : Inhabited Pubkey := ⟨default⟩

/-- `Pubkey::new_from_array(bytes.try_into().unwrap())`: no address comes
out of a slice of another length. -/
def newFromArray (bytes : List UInt8) : Option Pubkey :=
  if sized : bytes.length = 32 then some ⟨bytes, sized⟩ else none

theorem newFromArray_eq_some {bytes : List UInt8} {address : Pubkey} :
    newFromArray bytes = some address ↔ bytes = address.bytes := by
  unfold newFromArray
  split
  · rw [Option.some.injEq, Pubkey.mk.injEq]
  · rename_i wrongLength
    constructor
    · intro found
      cases found
    · intro same
      rw [same] at wrongLength
      exact absurd address.length_eq wrongLength

theorem bytes_inj {left right : Pubkey} :
    left.bytes = right.bytes ↔ left = right := by
  cases left
  cases right
  rw [Pubkey.mk.injEq]

def base58Alphabet : List Char :=
  "123456789ABCDEFGHJKLMNPQRSTUVWXYZabcdefghijkmnopqrstuvwxyz".toList

/-- Base-58 text: one `1` for each leading zero byte, then the big-endian
number in base 58. -/
def toBase58 (address : Pubkey) : String :=
  let zeros := address.bytes.takeWhile (· = 0)
  let value :=
    address.bytes.foldl (fun value byte => value * 256 + byte.toNat) 0
  String.ofList
    (zeros.map (fun _ => '1') ++
      (Nat.digits 58 value).reverse.map fun digit =>
        base58Alphabet.getD digit '1')

instance : ToString Pubkey := ⟨toBase58⟩

end Pubkey

/-- `system_program::id()`, the all-zero address. -/
def systemProgramId : Pubkey := Pubkey.default

/-- A `(Pubkey, Account)` pair. -/
structure KeyedAccount where
  address : Pubkey
  lamports : UInt64
  data : List UInt8
  owner : Pubkey
  executable : Bool
  rentEpoch : UInt64
  deriving DecidableEq

/-- `KeyedAccount::new`. -/
def KeyedAccount.new (address : Pubkey) (lamports : UInt64)
    (owner : Pubkey) (data : List UInt8) (executable : Bool) :
    KeyedAccount :=
  { address, lamports, data, owner, executable, rentEpoch := 0 }

structure AccountMeta where
  pubkey : Pubkey
  isSigner : Bool
  isWritable : Bool
  deriving DecidableEq

/-- An instruction.  The metas sit in a `Vec`, so a `usize` counts them. -/
structure Instruction where
  programId : Pubkey
  accounts : List AccountMeta
  data : List UInt8
  accounts_length : accounts.length < 2 ^ 64 := by simp
  deriving DecidableEq

theorem Instruction.noAccounts_length :
    ([] : List AccountMeta).length < 2 ^ 64 := by
  simp

/-- The addresses of an account list, in order. -/
def addresses (accounts : List KeyedAccount) : List Pubkey :=
  accounts.map KeyedAccount.address

/-- `accounts.iter().find(|a| a.address == address)`. -/
def findAccount (address : Pubkey) (accounts : List KeyedAccount) :
    Option KeyedAccount :=
  KeyedList.lookup KeyedAccount.address address accounts

/-- The lamports of every account, as a natural number. -/
def totalLamports (accounts : List KeyedAccount) : Nat :=
  (accounts.map fun account => account.lamports.toNat).sum

end Hopper
