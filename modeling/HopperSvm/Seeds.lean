import HopperSvm.Bundled

namespace Hopper

/-- A `[u8; 32]`. -/
abbrev Bytes32 : Type := { bytes : List UInt8 // bytes.length = 32 }

/-- The functions of linked crates that the bundled programs call.
`createWithSeed` fails with the debug text of a `PubkeyError`, and
`debugStr` is the `{:?}` text of a string. -/
structure Crates where
  createWithSeed : Pubkey → String → Pubkey → Except String Pubkey
  sha256 : List UInt8 → Bytes32
  debugStr : String → String

/-- The bytes that must follow a first byte, as ranges; `none` for a byte
that starts no character. -/
def followers (first : UInt8) : Option (List (UInt8 × UInt8)) :=
  let any : UInt8 × UInt8 := (0x80, 0xBF)
  if first < 0x80 then some []
  else if 0xC2 ≤ first ∧ first ≤ 0xDF then some [any]
  else if first = 0xE0 then some [(0xA0, 0xBF), any]
  else if first = 0xED then some [(0x80, 0x9F), any]
  else if 0xE1 ≤ first ∧ first ≤ 0xEF then some [any, any]
  else if first = 0xF0 then some [(0x90, 0xBF), any, any]
  else if 0xF1 ≤ first ∧ first ≤ 0xF3 then some [any, any, any]
  else if first = 0xF4 then some [(0x80, 0x8F), any, any]
  else none

/-- Where the bytes stop being UTF-8: `valid_up_to` and `error_len`. -/
structure Utf8Error where
  validUpTo : Nat
  errorLen : Option Nat
  deriving DecidableEq

/-- `Utf8Error`'s `Display`. -/
def Utf8Error.describe (err : Utf8Error) : String :=
  match err.errorLen with
  | some len =>
      s!"invalid utf-8 sequence of {len} bytes from index {err.validUpTo}"
  | none => s!"incomplete utf-8 byte sequence from index {err.validUpTo}"

instance : ToString Utf8Error := ⟨Utf8Error.describe⟩

/-- Scan on after `verified` bytes of whole characters and `matched` bytes
of the next one, which still needs `pending`. -/
def scanUtf8 : (verified matched : Nat) → List (UInt8 × UInt8) →
    List UInt8 → Option Utf8Error
  | _, _, [], [] => none
  | verified, _, _ :: _, [] =>
      some { validUpTo := verified, errorLen := none }
  | verified, _, [], byte :: rest =>
      match followers byte with
      | none => some { validUpTo := verified, errorLen := some 1 }
      | some [] => scanUtf8 (verified + 1) 0 [] rest
      | some (range :: ranges) =>
          scanUtf8 verified 1 (range :: ranges) rest
  | verified, matched, (low, high) :: ranges, byte :: rest =>
      if low ≤ byte ∧ byte ≤ high then
        match ranges with
        | [] => scanUtf8 (verified + matched + 1) 0 [] rest
        | range :: ranges =>
            scanUtf8 verified (matched + 1) (range :: ranges) rest
      else
        some { validUpTo := verified, errorLen := some matched }

example : scanUtf8 0 0 [] [0x61, 0xE2, 0x82] = some ⟨1, none⟩ := rfl

/-- `std::str::from_utf8`. -/
def strFromUtf8 (bytes : List UInt8) : Except Utf8Error String :=
  match String.fromUTF8? ⟨bytes.toArray⟩ with
  | some text => .ok text
  | none =>
      .error
        ((scanUtf8 0 0 [] bytes).getD
          { validUpTo := 0, errorLen := none })

end Hopper
