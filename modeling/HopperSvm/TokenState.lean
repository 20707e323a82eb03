import HopperSvm.Account
import HopperSvm.Library.Layout

namespace Hopper

open Bytes

/-- `spl_token::state::Mint`. -/
structure Mint where
  mintAuthority : Option Pubkey
  supply : UInt64
  decimals : UInt8
  isInitialized : Bool
  freezeAuthority : Option Pubkey
  deriving DecidableEq

inductive AccountState where
  | uninitialized
  | initialized
  | frozen
  deriving DecidableEq

/-- `spl_token::state::Account`. -/
structure TokenAccount where
  mint : Pubkey
  owner : Pubkey
  amount : UInt64
  delegate : Option Pubkey
  state : AccountState
  isNative : Option UInt64
  delegatedAmount : UInt64
  closeAuthority : Option Pubkey
  deriving DecidableEq

/-- `Mint::LEN`. -/
def mintLen : ℕ := 82

/-- `TokenAccount::LEN`. -/
def tokenAccountLen : ℕ := 165

/-- `spl_token::id()`. -/
def splTokenId : Pubkey :=
  ⟨[6, 221, 246, 225, 215, 101, 161, 147, 217, 203, 225, 70, 206, 235,
      121, 172, 28, 180, 133, 237, 95, 91, 55, 145, 58, 140, 245, 133,
      126, 255, 0, 169],
    rfl⟩

/-- The `Pack` implementation of a record of `len` bytes.  Unpacking refuses
other lengths and uninitialised records, and reads back what was packed; an
error is given by its debug text. -/
structure Pack (α : Type) (len : ℕ) where
  isInitialized : α → Bool
  pack : α → List UInt8 → Except String (List UInt8)
  unpack : List UInt8 → Except String α
  pack_unpack : ∀ record buffer, isInitialized record = true →
    buffer.length = len →
      ∃ packed, pack record buffer = .ok packed ∧
        unpack packed = .ok record
  length_of_unpack : ∀ {bytes record}, unpack bytes = .ok record →
    bytes.length = len
  isInitialized_of_unpack : ∀ {bytes record},
    unpack bytes = .ok record → isInitialized record = true

/-- The `Pack` implementations of the token program's records. -/
structure TokenCodec where
  mint : Pack Mint mintLen
  account : Pack TokenAccount tokenAccountLen
  mint_isInitialized : ∀ record,
    mint.isInitialized record = record.isInitialized
  account_isInitialized : ∀ record,
    account.isInitialized record =
      decide (record.state ≠ .uninitialized)

/-- Packing by a layout. -/
def Pack.ofLayout {α : Type} (layout : Layout α)
    (isInitialized : α → Bool) : Pack α layout.width where
  isInitialized := isInitialized
  pack record buffer :=
    if buffer.length = layout.width then
      .ok (layout.write record buffer)
    else
      .error "InvalidAccountData"
  unpack bytes :=
    if bytes.length = layout.width then
      match layout.read bytes with
      | some record =>
          if isInitialized record then
            .ok record
          else
            .error "UninitializedAccount"
      | none => .error "InvalidAccountData"
    else
      .error "InvalidAccountData"
  pack_unpack record buffer initialized sized := by
    refine ⟨layout.write record buffer, if_pos sized, ?_⟩
    rw [if_pos (layout.length_write record buffer sized),
      layout.read_write record buffer sized]
    exact if_pos initialized
  length_of_unpack := by
    intro bytes record unpacked
    by_contra wrongLength
    rw [if_neg wrongLength] at unpacked
    cases unpacked
  isInitialized_of_unpack := by
    intro bytes record unpacked
    split at unpacked
    · split at unpacked
      · split at unpacked
        · rename_i initialized
          cases unpacked
          exact initialized
        · cases unpacked
      · cases unpacked
    · cases unpacked

theorem Pack.unpack_write {α : Type} {layout : Layout α}
    {isInitialized : α → Bool} {record : α} {buffer : List UInt8}
    (initialized : isInitialized record = true)
    (sized : buffer.length = layout.width) :
    (Pack.ofLayout layout isInitialized).unpack
        (layout.write record buffer) =
      .ok record := by
  obtain ⟨packed, packs, unpacks⟩ :=
    (Pack.ofLayout layout isInitialized).pack_unpack record buffer
      initialized sized
  have written : Except.ok (layout.write record buffer) = .ok packed :=
    (if_pos sized).symm.trans packs
  cases written
  exact unpacks

/-- What unpacks is what the layout reads. -/
theorem Pack.read_of_unpack {α : Type} {layout : Layout α}
    {isInitialized : α → Bool} {bytes : List UInt8} {record : α}
    (unpacked :
      (Pack.ofLayout layout isInitialized).unpack bytes = .ok record) :
    layout.read bytes = some record := by
  simp only [Pack.ofLayout] at unpacked
  split at unpacked
  · split at unpacked
    · rename_i read
      split at unpacked
      · cases unpacked
        exact read
      · cases unpacked
    · cases unpacked
  · cases unpacked

namespace Layout

def key : Layout Pubkey :=
  .fixed 32 Pubkey.bytes Pubkey.newFromArray Pubkey.length_eq fun _ =>
    Pubkey.newFromArray_eq_some.mpr rfl

def flag : Layout Bool :=
  .fixed 1 (fun value => [if value then 1 else 0])
    (fun bytes =>
      match bytes with
      | [0] => some false
      | [1] => some true
      | _ => none)
    (fun _ => rfl)
    (by decide)

def accountState : Layout AccountState :=
  .fixed 1
    (fun
      | .uninitialized => [0]
      | .initialized => [1]
      | .frozen => [2])
    (fun bytes =>
      match bytes with
      | [0] => some .uninitialized
      | [1] => some .initialized
      | [2] => some .frozen
      | _ => none)
    (fun state => by cases state <;> rfl)
    (fun state => by cases state <;> rfl)

def mint : Layout Mint :=
  (key.optional.pair <| .pair .word64 <| .pair .byte <|
      flag.pair key.optional).imap
    (fun (mintAuthority, supply, decimals, isInitialized,
        freezeAuthority) =>
      { mintAuthority, supply, decimals, isInitialized, freezeAuthority })
    (fun record =>
      (record.mintAuthority, record.supply, record.decimals,
        record.isInitialized, record.freezeAuthority))
    (fun _ => rfl)

def tokenAccount : Layout TokenAccount :=
  (key.pair <| key.pair <| .pair .word64 <| key.optional.pair <|
      accountState.pair <| .pair (.optional .word64) <|
        .pair .word64 key.optional).imap
    (fun (mint, owner, amount, delegate, state, isNative,
        delegatedAmount, closeAuthority) =>
      { mint, owner, amount, delegate, state, isNative, delegatedAmount,
        closeAuthority })
    (fun record =>
      (record.mint, record.owner, record.amount, record.delegate,
        record.state, record.isNative, record.delegatedAmount,
        record.closeAuthority))
    (fun _ => rfl)

end Layout

/-- The records as the token program lays them out. -/
def splCodec : TokenCodec where
  mint := Pack.ofLayout Layout.mint Mint.isInitialized
  account :=
    Pack.ofLayout Layout.tokenAccount fun record =>
      record.state ≠ .uninitialized
  mint_isInitialized _ := rfl
  account_isInitialized _ := rfl

end Hopper
