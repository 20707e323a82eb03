import HopperSvm.Harness
import HopperSvm.Library.Printing

/-!
An address prints without brackets, commas and colons, and a number prints as
digits.  So each template falls apart into its fields, free text last, and
two errors with one description are one error.
-/

namespace Hopper

open Printing

namespace Pubkey

/-- The digit that a character of the alphabet stands for. -/
def base58Digit (char : Char) : Nat := base58Alphabet.idxOf char

/-- The number that the bytes stand for, the first byte counting most. -/
def toNumber (address : Pubkey) : Nat :=
  positional 256 (address.bytes.map UInt8.toNat)

theorem base58Digit_getD :
    ∀ digit < 58, base58Digit (base58Alphabet.getD digit '1') = digit := by
  decide

theorem mem_base58Alphabet_getD {digit : Nat} (small : digit < 58) :
    base58Alphabet.getD digit '1' ∈ base58Alphabet := by
  have listed : digit < base58Alphabet.length := small
  rw [List.getD_eq_getElem _ _ listed]
  exact List.getElem_mem listed

theorem toList_toBase58 (address : Pubkey) :
    address.toBase58.toList =
      (address.bytes.takeWhile (· = 0)).map (fun _ => '1') ++
        (Nat.digits 58 address.toNumber).reverse.map fun digit =>
          base58Alphabet.getD digit '1' := by
  have number :
      address.bytes.foldl (fun value byte => value * 256 + byte.toNat) 0 =
        address.toNumber := by
    rw [toNumber, positional, List.foldl_map]
  rw [toBase58, number]
  exact String.toList_ofList

/-- Only characters of the alphabet are printed. -/
theorem mem_alphabet_of_mem {address : Pubkey} :
    ∀ char ∈ address.toBase58.toList, char ∈ base58Alphabet := by
  intro char member
  rw [toList_toBase58, List.mem_append, List.mem_map, List.mem_map]
    at member
  rcases member with ⟨_, _, rfl⟩ | ⟨digit, listed, rfl⟩
  · decide
  · have small : digit < 58 :=
      Nat.digits_lt_base (by decide) (List.mem_reverse.mp listed)
    exact mem_base58Alphabet_getD small

/-- The number is read back from the print. -/
theorem positional_toBase58 (address : Pubkey) :
    positional 58 (address.toBase58.toList.map base58Digit) =
      address.toNumber := by
  have ones :
      ((address.bytes.takeWhile (· = 0)).map fun _ => '1').map
          base58Digit =
        List.replicate (address.bytes.takeWhile (· = 0)).length 0 := by
    rw [List.map_map]
    exact List.map_const'
  have digits :
      ((Nat.digits 58 address.toNumber).reverse.map fun digit =>
          base58Alphabet.getD digit '1').map base58Digit =
        (Nat.digits 58 address.toNumber).reverse := by
    have back : ∀ digit ∈ (Nat.digits 58 address.toNumber).reverse,
        (base58Digit ∘ fun digit => base58Alphabet.getD digit '1') digit =
          id digit := by
      intro digit listed
      have small : digit < 58 :=
        Nat.digits_lt_base (by decide) (List.mem_reverse.mp listed)
      exact base58Digit_getD digit small
    rw [List.map_map, List.map_congr_left back, List.map_id]
  rw [toList_toBase58, List.map_append, ones, digits, positional_zeros,
    positional_digits]

theorem toNumber_injective : Function.Injective toNumber := by
  intro left right same
  have bytes : left.bytes.map UInt8.toNat = right.bytes.map UInt8.toNat := by
    apply positional_injective (by decide : 1 < 256) _ _ _ same
    · rw [List.length_map, List.length_map, left.length_eq,
        right.length_eq]
    · intro digit member
      obtain ⟨byte, _, rfl⟩ := List.mem_map.mp member
      exact byte.toNat_lt
    · intro digit member
      obtain ⟨byte, _, rfl⟩ := List.mem_map.mp member
      exact byte.toNat_lt
  have injective : Function.Injective UInt8.toNat :=
    fun _ _ => UInt8.toNat_inj.mp
  exact bytes_inj.mp (injective.list_map bytes)

theorem toBase58_injective : Function.Injective toBase58 := by
  intro left right same
  apply toNumber_injective
  rw [← positional_toBase58 left, same, positional_toBase58 right]

end Pubkey

/-! ## Templates -/

/-- The characters of a printed address. -/
def inAlphabet (char : Char) : Bool := char ∈ Pubkey.base58Alphabet

/-- An address in front of what starts with no character of one. -/
theorem toBase58_field {left right : Pubkey}
    {separator rest rest' : List Char}
    (separates : Separates inAlphabet separator)
    (same :
      left.toBase58.toList ++ (separator ++ rest) =
        right.toBase58.toList ++ (separator ++ rest')) :
    left = right ∧ rest = rest' := by
  have within (address : Pubkey) :
      ∀ char ∈ address.toBase58.toList, inAlphabet char = true := by
    intro char member
    exact decide_eq_true (Pubkey.mem_alphabet_of_mem char member)
  obtain ⟨printed, behind⟩ :=
    split_field (within left) (within right) separates same
  exact
    ⟨Pubkey.toBase58_injective (String.toList_inj.mp printed), behind⟩

theorem toBase58_last {left right : Pubkey} {closing : List Char}
    (same :
      left.toBase58.toList ++ closing = right.toBase58.toList ++ closing) :
    left = right :=
  Pubkey.toBase58_injective
    (String.toList_inj.mp (List.append_cancel_right same))

namespace HopperSvmError

/-- What a description starts with. -/
def variant : HopperSvmError → String
  | unknownProgram _ => "UnknownProgram"
  | builtinError _ _ => "BuiltinError"
  | outOfComputeUnits _ _ => "OutOfComputeUnits"
  | emptyChain => "EmptyChain"
  | accountIndexOutOfBounds _ _ => "AccountIndexOutOfBounds"
  | unknownAccount _ => "UnknownAccount"
  | insufficientFunds _ _ _ => "InsufficientFunds"
  | accountNotWritable _ => "AccountNotWritable"
  | accountNotSigner _ => "AccountNotSigner"
  | custom _ => "Custom"
  | accountValidationFailed _ _ => "AccountValidationFailed"

/-- One address in brackets. -/
def bracketed (address : Pubkey) : List Char :=
  "(".toList ++ (address.toBase58.toList ++ ")".toList)

/-- What the description goes on with. -/
def arguments : HopperSvmError → List Char
  | unknownProgram id => bracketed id
  | builtinError programId message =>
      "(".toList ++ (programId.toBase58.toList ++
        ("): ".toList ++ message.toList))
  | outOfComputeUnits consumed limit =>
      "(consumed=".toList ++ (decimal consumed.toNat ++
        (", limit=".toList ++ (decimal limit.toNat ++ ")".toList)))
  | emptyChain => []
  | accountIndexOutOfBounds index len =>
      "(index=".toList ++ (decimal index ++
        (", len=".toList ++ (decimal len ++ ")".toList)))
  | unknownAccount address => bracketed address
  | insufficientFunds account balance requested =>
      "(account=".toList ++ (account.toBase58.toList ++
        (", balance=".toList ++ (decimal balance.toNat ++
          (", requested=".toList ++
            (decimal requested.toNat ++ ")".toList)))))
  | accountNotWritable account => bracketed account
  | accountNotSigner account => bracketed account
  | custom code => "(".toList ++ (decimal code.toNat ++ ")".toList)
  | accountValidationFailed account reason =>
      "(account=".toList ++ (account.toBase58.toList ++
        (", reason=".toList ++ (reason.toList ++ ")".toList)))

theorem toList_describe (err : HopperSvmError) :
    err.describe.toList = err.variant.toList ++ err.arguments := by
  have number (n : Nat) : (toString n).toList = decimal n := by
    rw [Nat.toString_eq_ofList_toDigits]
    exact String.toList_ofList
  have word64 (n : UInt64) : (toString n).toList = decimal n.toNat :=
    number n.toNat
  have word32 (n : UInt32) : (toString n).toList = decimal n.toNat :=
    number n.toNat
  have key (address : Pubkey) :
      (toString address).toList = address.toBase58.toList := rfl
  have text (message : String) : toString message = message := rfl
  have one (name whole : String) (address : Pubkey)
      (opening : whole.toList = name.toList ++ "(".toList) :
      (toString whole ++ toString address ++ toString ")").toList =
        name.toList ++ bracketed address := by
    simp only [String.toList_append, text, opening, key,
      List.append_assoc]
    rfl
  unfold describe
  cases err with
  | unknownProgram id =>
      exact one "UnknownProgram" "UnknownProgram(" id (by decide)
  | builtinError programId message =>
      have opening : "BuiltinError(".toList =
          "BuiltinError".toList ++ "(".toList := by decide
      dsimp only
      simp only [String.toList_append, text, opening, key,
        List.append_assoc]
      rfl
  | outOfComputeUnits consumed limit =>
      have opening : "OutOfComputeUnits(consumed=".toList =
          "OutOfComputeUnits".toList ++ "(consumed=".toList := by decide
      dsimp only
      simp only [String.toList_append, text, opening, word64,
        List.append_assoc]
      rfl
  | emptyChain =>
      exact (List.append_nil _).symm
  | accountIndexOutOfBounds index len =>
      have opening : "AccountIndexOutOfBounds(index=".toList =
          "AccountIndexOutOfBounds".toList ++ "(index=".toList := by decide
      dsimp only
      simp only [String.toList_append, text, opening, number,
        List.append_assoc]
      rfl
  | unknownAccount address =>
      exact one "UnknownAccount" "UnknownAccount(" address (by decide)
  | insufficientFunds account balance requested =>
      have opening : "InsufficientFunds(account=".toList =
          "InsufficientFunds".toList ++ "(account=".toList := by decide
      dsimp only
      simp only [String.toList_append, text, opening, key, word64,
        List.append_assoc]
      rfl
  | accountNotWritable account =>
      exact one "AccountNotWritable" "AccountNotWritable(" account (by decide)
  | accountNotSigner account =>
      exact one "AccountNotSigner" "AccountNotSigner(" account (by decide)
  | custom code =>
      have opening : "Custom(".toList =
          "Custom".toList ++ "(".toList := by decide
      dsimp only
      simp only [String.toList_append, text, opening, word32,
        List.append_assoc]
      rfl
  | accountValidationFailed account reason =>
      have opening : "AccountValidationFailed(account=".toList =
          "AccountValidationFailed".toList ++ "(account=".toList := by decide
      dsimp only
      simp only [String.toList_append, text, opening, key,
        List.append_assoc]
      rfl

/-- Only letters stand in front of the arguments. -/
theorem isAlpha_variant (err : HopperSvmError) :
    ∀ char ∈ err.variant.toList, char.isAlpha = true := by
  have letters (name : String) (all : name.toList.all Char.isAlpha) :
      ∀ char ∈ name.toList, char.isAlpha = true :=
    List.all_eq_true.mp all
  cases err with
  | unknownProgram =>
      exact letters "UnknownProgram" (by decide)
  | builtinError =>
      exact letters "BuiltinError" (by decide)
  | outOfComputeUnits =>
      exact letters "OutOfComputeUnits" (by decide)
  | emptyChain =>
      exact letters "EmptyChain" (by decide)
  | accountIndexOutOfBounds =>
      exact letters "AccountIndexOutOfBounds" (by decide)
  | unknownAccount =>
      exact letters "UnknownAccount" (by decide)
  | insufficientFunds =>
      exact letters "InsufficientFunds" (by decide)
  | accountNotWritable =>
      exact letters "AccountNotWritable" (by decide)
  | accountNotSigner =>
      exact letters "AccountNotSigner" (by decide)
  | custom =>
      exact letters "Custom" (by decide)
  | accountValidationFailed =>
      exact letters "AccountValidationFailed" (by decide)

theorem stops_arguments (err : HopperSvmError) :
    Stops Char.isAlpha err.arguments := by
  have bracket {rest : List Char} : Stops Char.isAlpha ('(' :: rest) :=
    Stops.cons (by decide)
  cases err with
  | emptyChain =>
      exact Stops.nil
  | _ =>
      exact bracket

/-- One description has one variant and the same arguments. -/
theorem parts_of_describe {err other : HopperSvmError}
    (same : err.describe = other.describe) :
    err.variant = other.variant ∧ err.arguments = other.arguments := by
  have texts := congrArg String.toList same
  rw [toList_describe, toList_describe] at texts
  obtain ⟨names, behind⟩ :=
    split_unique (isAlpha_variant err) (isAlpha_variant other)
      (stops_arguments err) (stops_arguments other) texts
  exact ⟨String.toList_inj.mp names, behind⟩

theorem bracketed_injective : Function.Injective bracketed := by
  intro left right same
  exact toBase58_last (List.append_cancel_left same)

section Arguments

variable {address address' : Pubkey}

theorem builtinError_arguments {message message' : String}
    (same :
      (builtinError address message).arguments =
        (builtinError address' message').arguments) :
    address = address' ∧ message = message' := by
  obtain ⟨keys, behind⟩ :=
    toBase58_field ⟨')', _, rfl, by decide⟩ (List.append_cancel_left same)
  exact ⟨keys, String.toList_inj.mp behind⟩

theorem outOfComputeUnits_arguments {consumed limit consumed' limit' : UInt64}
    (same :
      (outOfComputeUnits consumed limit).arguments =
        (outOfComputeUnits consumed' limit').arguments) :
    consumed = consumed' ∧ limit = limit' := by
  obtain ⟨first, behind⟩ :=
    decimal_field ⟨',', _, rfl, by decide⟩ (List.append_cancel_left same)
  have second := decimal_last behind
  exact ⟨UInt64.toNat_inj.mp first, UInt64.toNat_inj.mp second⟩

theorem accountIndexOutOfBounds_arguments {index len index' len' : Nat}
    (same :
      (accountIndexOutOfBounds index len).arguments =
        (accountIndexOutOfBounds index' len').arguments) :
    index = index' ∧ len = len' := by
  obtain ⟨first, behind⟩ :=
    decimal_field ⟨',', _, rfl, by decide⟩ (List.append_cancel_left same)
  exact ⟨first, decimal_last behind⟩

theorem insufficientFunds_arguments
    {balance requested balance' requested' : UInt64}
    (same :
      (insufficientFunds address balance requested).arguments =
        (insufficientFunds address' balance' requested').arguments) :
    address = address' ∧ balance = balance' ∧ requested = requested' := by
  obtain ⟨keys, behind⟩ :=
    toBase58_field ⟨',', _, rfl, by decide⟩ (List.append_cancel_left same)
  obtain ⟨first, behind⟩ := decimal_field ⟨',', _, rfl, by decide⟩ behind
  have second := decimal_last behind
  exact ⟨keys, UInt64.toNat_inj.mp first, UInt64.toNat_inj.mp second⟩

theorem custom_arguments {code code' : UInt32}
    (same : (custom code).arguments = (custom code').arguments) :
    code = code' :=
  UInt32.toNat_inj.mp (decimal_last (List.append_cancel_left same))

theorem accountValidationFailed_arguments {reason reason' : String}
    (same :
      (accountValidationFailed address reason).arguments =
        (accountValidationFailed address' reason').arguments) :
    address = address' ∧ reason = reason' := by
  obtain ⟨keys, behind⟩ :=
    toBase58_field ⟨',', _, rfl, by decide⟩ (List.append_cancel_left same)
  have reasons := List.append_cancel_right behind
  exact ⟨keys, String.toList_inj.mp reasons⟩

end Arguments

/-- The variants differ in their names, and each one's arguments can be read
back. -/
theorem eq_of_parts {err other : HopperSvmError}
    (names : err.variant = other.variant)
    (same : err.arguments = other.arguments) : err = other := by
  cases err with
  | unknownProgram address =>
      cases other with
      | unknownProgram address' =>
          rw [bracketed_injective same]
      | _ => exact absurd names (of_decide_eq_false rfl)
  | builtinError address message =>
      cases other with
      | builtinError address' message' =>
          obtain ⟨rfl, rfl⟩ := builtinError_arguments same
          rfl
      | _ => exact absurd names (of_decide_eq_false rfl)
  | outOfComputeUnits consumed limit =>
      cases other with
      | outOfComputeUnits consumed' limit' =>
          obtain ⟨rfl, rfl⟩ := outOfComputeUnits_arguments same
          rfl
      | _ => exact absurd names (of_decide_eq_false rfl)
  | emptyChain =>
      cases other with
      | emptyChain =>
          rfl
      | _ => exact absurd names (of_decide_eq_false rfl)
  | accountIndexOutOfBounds index len =>
      cases other with
      | accountIndexOutOfBounds index' len' =>
          obtain ⟨rfl, rfl⟩ := accountIndexOutOfBounds_arguments same
          rfl
      | _ => exact absurd names (of_decide_eq_false rfl)
  | unknownAccount address =>
      cases other with
      | unknownAccount address' =>
          rw [bracketed_injective same]
      | _ => exact absurd names (of_decide_eq_false rfl)
  | insufficientFunds address balance requested =>
      cases other with
      | insufficientFunds address' balance' requested' =>
          obtain ⟨rfl, rfl, rfl⟩ := insufficientFunds_arguments same
          rfl
      | _ => exact absurd names (of_decide_eq_false rfl)
  | accountNotWritable address =>
      cases other with
      | accountNotWritable address' =>
          rw [bracketed_injective same]
      | _ => exact absurd names (of_decide_eq_false rfl)
  | accountNotSigner address =>
      cases other with
      | accountNotSigner address' =>
          rw [bracketed_injective same]
      | _ => exact absurd names (of_decide_eq_false rfl)
  | custom code =>
      cases other with
      | custom code' =>
          rw [custom_arguments same]
      | _ => exact absurd names (of_decide_eq_false rfl)
  | accountValidationFailed address reason =>
      cases other with
      | accountValidationFailed address' reason' =>
          obtain ⟨rfl, rfl⟩ := accountValidationFailed_arguments same
          rfl
      | _ => exact absurd names (of_decide_eq_false rfl)

theorem describe_injective : Function.Injective describe := by
  intro err other same
  obtain ⟨names, behind⟩ := parts_of_describe same
  exact eq_of_parts names behind

end HopperSvmError

namespace HopperExecutionResult

/-- All logs joined with newlines. -/
def allLogs (result : HopperExecutionResult) : String :=
  "\n".intercalate result.logs

/-- The error is the text that the assertion panics with. -/
def assertError (result : HopperExecutionResult)
    (expected : HopperSvmError) : Except String Unit :=
  match result.outcome.error with
  | none =>
      .error s!"hopper-svm: expected error {expected.describe}, got Ok(()).\nlogs:\n{result.allLogs}"
  | some actual =>
      if actual.describe = expected.describe then
        .ok ()
      else
        .error s!"hopper-svm: error mismatch.\n  expected: {expected.describe}\n  got:      {actual.describe}\nlogs:\n{result.allLogs}"

theorem assertError_eq_ok_iff {result : HopperExecutionResult}
    {expected : HopperSvmError} :
    result.assertError expected = .ok () ↔
      ∃ actual, result.outcome.error = some actual ∧
        actual.describe = expected.describe := by
  rw [assertError]
  split
  · rename_i none_error
    simp [none_error]
  · rename_i actual some_error
    by_cases same : actual.describe = expected.describe
    · simp [some_error, same]
    · simp [some_error, same]

end HopperExecutionResult

/-- Two errors have one description only when they are one error, so the
assertion passes on the expected error and on no other outcome. -/
theorem describe_identifies :
    (∀ err other : HopperSvmError,
        err.describe = other.describe ↔ err = other) ∧
      ∀ (result : HopperExecutionResult) (expected : HopperSvmError),
        result.assertError expected = .ok () ↔
          result.outcome.error = some expected := by
  have identifies (err other : HopperSvmError) :
      err.describe = other.describe ↔ err = other :=
    HopperSvmError.describe_injective.eq_iff
  refine ⟨identifies, ?_⟩
  intro result expected
  rw [HopperExecutionResult.assertError_eq_ok_iff]
  constructor
  · rintro ⟨actual, failed, same⟩
    rw [failed, (identifies actual expected).mp same]
  · intro failed
    exact ⟨expected, failed, rfl⟩

end Hopper
