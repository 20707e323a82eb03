import HopperSvm.Descriptions
import HopperSvm.Library.Bytes
import HopperSvm.Library.Radix

/-!
The harness and its two host bindings each carry a base-58 codec: the
harness prints addresses, the Python binding converts through one big
integer, the TypeScript binding digit by digit with carries.  The Python
codec is a bijection between byte strings and the texts over the alphabet
and prints addresses as the harness does.  The TypeScript codec starts its
digits from a zero it never takes back, so it agrees with the Python one
except on a nonempty input without a nonzero digit, where it returns one
digit too many.  The address of the system program is such an input.
-/

namespace Hopper

open Printing

/-- `B58_ALPHABET[digit]`. -/
def base58Char (digit : ℕ) : Char := Pubkey.base58Alphabet.getD digit '1'

/-- What the bindings' address functions raise.  A foreign character is
reported as what the binding walks: a code point in Python, a UTF-16 code
unit in TypeScript. -/
inductive AddressError (χ : Type) where
  | invalidCharacter (char : χ)
  | overflow (width number : ℕ)
  | wrongLength (found : ℕ)
  deriving DecidableEq

/-- The place of a character in the alphabet. -/
def base58Index (char : Char) : Except (AddressError Char) ℕ :=
  match Pubkey.base58Alphabet.idxOf? char with
  | none => .error (.invalidCharacter char)
  | some index => .ok index

/-- The constructor of an address: only 32 bytes are one. -/
def ofRaw {χ : Type} (raw : List UInt8) :
    Except (AddressError χ) Pubkey :=
  if sized : raw.length = 32 then
    .ok ⟨raw, sized⟩
  else
    .error (.wrongLength raw.length)

namespace PythonBinding

/-- `int.from_bytes(bytes, "big")`. -/
def fromBytes (bytes : List UInt8) : ℕ :=
  positional 256 (bytes.map UInt8.toNat)

/-- `number.to_bytes(width, "big")`. -/
def toBytes (width number : ℕ) :
    Except (AddressError Char) (List UInt8) :=
  if number < 256 ^ width then
    .ok (Bytes.leBytes width number).reverse
  else
    .error (.overflow width number)

/-- `_base58_encode`.  The loop `while n > 0: n, rem = divmod(n, 58)` puts
each remainder in front of the last one. -/
def base58Encode (bytes : List UInt8) : String :=
  if bytes = [] then
    ""
  else
    let out := (Nat.digits 58 (fromBytes bytes)).reverse.map base58Char
    let leading := (bytes.takeWhile fun byte => byte = 0).length
    String.ofList (List.replicate leading '1' ++ out)

/-- `for ch in s: n = n * 58 + _BASE58_ALPHABET.find(ch)`. -/
def readNumber : ℕ → List Char → Except (AddressError Char) ℕ
  | number, [] => .ok number
  | number, char :: rest => do
      let index ← base58Index char
      readNumber (number * 58 + index) rest

/-- `n.to_bytes((n.bit_length() + 7) // 8, "big") if n > 0 else b""`. -/
def body (number : ℕ) : Except (AddressError Char) (List UInt8) :=
  if 0 < number then
    toBytes ((Nat.size number + 7) / 8) number
  else
    .ok []

/-- `_base58_decode`. -/
def base58Decode (text : String) :
    Except (AddressError Char) (List UInt8) :=
  if text.toList = [] then
    .ok []
  else do
    let leading := (text.toList.takeWhile fun char => char = '1').length
    let number ← readNumber 0 text.toList
    let body ← body number
    .ok (List.replicate leading 0 ++ body)

/-- `Pubkey.__init__`. -/
def pubkey (raw : List UInt8) : Except (AddressError Char) Pubkey :=
  ofRaw raw

/-- `Pubkey.to_base58`. -/
def toBase58 (address : Pubkey) : String := base58Encode address.bytes

/-- `Pubkey.from_base58`. -/
def fromBase58 (text : String) : Except (AddressError Char) Pubkey := do
  let decoded ← base58Decode text
  if decoded.length ≠ 32 then
    .error (.wrongLength decoded.length)
  else
    pubkey decoded

end PythonBinding

namespace TypescriptBinding

/-- `base58Encode`: each byte is absorbed by the digits found so far.  The
32-bit shifts of the source are exact here, see `carry_small`. -/
def base58Encode (bytes : List UInt8) : String :=
  if bytes.length = 0 then
    ""
  else
    let leading := (bytes.takeWhile fun byte => byte = 0).length
    let digits :=
      ((bytes.drop leading).map UInt8.toNat).foldl (Radix.absorb 58 256)
        [0]
    String.ofList
      (List.replicate leading '1' ++ digits.reverse.map base58Char)

/-- The first of a character's UTF-16 code units. -/
def firstUnit (char : Char) : ℕ :=
  if char.toNat < 0x10000 then
    char.toNat
  else
    0xD800 + (char.toNat - 0x10000) / 0x400

/-- The UTF-16 code units of a character, a surrogate pair outside the
basic plane. -/
def codeUnits (char : Char) : List ℕ :=
  if char.toNat < 0x10000 then
    [firstUnit char]
  else
    [firstUnit char, 0xDC00 + (char.toNat - 0x10000) % 0x400]

/-- `B58_ALPHABET.indexOf(str[i])`. -/
def indexOf (unit : ℕ) : Except (AddressError ℕ) ℕ :=
  match (Pubkey.base58Alphabet.flatMap codeUnits).idxOf? unit with
  | none => .error (.invalidCharacter unit)
  | some index => .ok index

/-- The loop over the code units behind the leading ones. -/
def readBytes : List ℕ → List ℕ → Except (AddressError ℕ) (List ℕ)
  | bytes, [] => .ok bytes
  | bytes, unit :: rest => do
      let index ← indexOf unit
      readBytes (Radix.absorb 256 58 bytes index) rest

/-- `base58Decode`. -/
def base58Decode (text : String) :
    Except (AddressError ℕ) (List UInt8) :=
  let str := text.toList.flatMap codeUnits
  if str.length = 0 then
    .ok []
  else do
    let leading := (str.takeWhile fun unit => unit = '1'.toNat).length
    let bytes ← readBytes [0] (str.drop leading)
    .ok (List.replicate leading 0 ++ bytes.reverse.map UInt8.ofNat)

/-- The constructor of `Pubkey`, which is `ensure32Bytes`. -/
def pubkey (bytes : List UInt8) : Except (AddressError ℕ) Pubkey :=
  ofRaw bytes

/-- `Pubkey.toBase58`. -/
def toBase58 (address : Pubkey) : String := base58Encode address.bytes

/-- `Pubkey.fromBase58`. -/
def fromBase58 (text : String) : Except (AddressError ℕ) Pubkey := do
  let decoded ← base58Decode text
  pubkey decoded

end TypescriptBinding

theorem ofRaw_eq_ok_iff {χ : Type} (raw : List UInt8)
    (address : Pubkey) :
    (ofRaw raw : Except (AddressError χ) Pubkey) = .ok address ↔
      raw = address.bytes := by
  simp only [ofRaw]
  split
  · rw [Except.ok.injEq, Pubkey.mk.injEq]
  · rename_i wrong
    constructor
    · intro found
      cases found
    · intro same
      exact absurd (same ▸ address.length_eq) wrong

/-- The digits a byte string stands for. -/
def byteDigits (bytes : List UInt8) : List ℕ := bytes.map UInt8.toNat

/-- The text that prints digits below 58. -/
def base58Text (digits : List ℕ) : List Char := digits.map base58Char

theorem byteDigits_small (bytes : List UInt8) :
    ∀ digit ∈ byteDigits bytes, digit < 256 := by
  intro digit member
  obtain ⟨byte, _, same⟩ := List.mem_map.mp member
  rw [← same]
  exact byte.toNat_lt

theorem byteDigits_injective : Function.Injective byteDigits := by
  have injective : Function.Injective UInt8.toNat :=
    fun _ _ => UInt8.toNat_inj.mp
  exact injective.list_map

theorem byteDigits_ofNat {digits : List ℕ}
    (small : ∀ digit ∈ digits, digit < 256) :
    byteDigits (digits.map UInt8.ofNat) = digits := by
  rw [byteDigits, List.map_map]
  have back : ∀ digit ∈ digits,
      (UInt8.toNat ∘ UInt8.ofNat) digit = id digit := by
    intro digit member
    exact UInt8.toNat_ofNat_of_lt' (small digit member)
  rw [List.map_congr_left back, List.map_id]

/-- Leading zero bytes are leading zero digits. -/
theorem leading_byteDigits (bytes : List UInt8) :
    Radix.leading (byteDigits bytes) =
      List.replicate (bytes.takeWhile fun byte => byte = 0).length 0 := by
  have same :
      Radix.leading (byteDigits bytes) =
        (bytes.takeWhile fun byte => byte = 0).map UInt8.toNat := by
    rw [Radix.leading, byteDigits, List.takeWhile_map]
    congr 1
    congr 1
    funext byte
    simp [← UInt8.toNat_inj]
  have length := congrArg List.length same
  rw [List.length_map] at length
  rw [Radix.leading_eq, length]

theorem base58Index_base58Char {digit : ℕ} (small : digit < 58) :
    base58Index (base58Char digit) = .ok digit := by
  have found : ∀ digit < 58,
      Pubkey.base58Alphabet.idxOf? (base58Char digit) = some digit := by
    decide
  rw [base58Index, found digit small]

theorem base58Index_eq_ok {char : Char} {digit : ℕ}
    (found : base58Index char = .ok digit) :
    digit < 58 ∧ base58Char digit = char := by
  simp only [base58Index] at found
  split at found
  · cases found
  · rename_i index at_index
    cases found
    obtain ⟨within, same, _⟩ :=
      List.findIdx?_eq_some_iff_getElem.mp at_index
    refine ⟨within, ?_⟩
    rw [base58Char, List.getD_eq_getElem _ _ within]
    simpa using same

/-- The digits that a text stands for, or its first foreign character. -/
def base58Digits : List Char → Except (AddressError Char) (List ℕ)
  | [] => .ok []
  | char :: rest => do
      let index ← base58Index char
      let later ← base58Digits rest
      .ok (index :: later)

theorem base58Digits_eq_ok {chars : List Char} {digits : List ℕ} :
    base58Digits chars = .ok digits ↔
      (∀ digit ∈ digits, digit < 58) ∧ base58Text digits = chars := by
  induction chars generalizing digits with
  | nil =>
      cases digits with
      | nil =>
          simp [base58Digits, base58Text]
      | cons digit digits =>
          simp [base58Digits, base58Text]
  | cons char rest inductionHypothesis =>
      constructor
      · intro read
        cases index_at : base58Index char with
        | error err =>
            simp [base58Digits, index_at, bind, Except.bind] at read
        | ok index =>
            cases later : base58Digits rest with
            | error err =>
                simp [base58Digits, index_at, later, bind, Except.bind]
                  at read
            | ok tail =>
                simp only [base58Digits, index_at, later, bind,
                  Except.bind, Except.ok.injEq] at read
                subst read
                obtain ⟨small, same⟩ := inductionHypothesis.mp later
                obtain ⟨indexSmall, sameChar⟩ :=
                  base58Index_eq_ok index_at
                refine ⟨?_, ?_⟩
                · exact List.forall_mem_cons.mpr ⟨indexSmall, small⟩
                · rw [base58Text, List.map_cons, sameChar]
                  exact congrArg (char :: ·) same
      · rintro ⟨small, same⟩
        cases digits with
        | nil =>
            cases same
        | cons digit digits =>
            obtain ⟨sameChar, sameRest⟩ := List.cons.inj same
            obtain ⟨digitSmall, restSmall⟩ :=
              List.forall_mem_cons.mp small
            have later : base58Digits rest = .ok digits :=
              inductionHypothesis.mpr ⟨restSmall, sameRest⟩
            rw [base58Digits, ← sameChar,
              base58Index_base58Char digitSmall, later]
            rfl

/-- Ones in front of a text are zeros in front of its digits. -/
theorem base58Digits_ones (count : ℕ) (chars : List Char) :
    base58Digits (List.replicate count '1' ++ chars) =
      (base58Digits chars).map (List.replicate count 0 ++ ·) := by
  induction count with
  | zero =>
      rw [List.replicate_zero, List.nil_append]
      cases base58Digits chars with
      | error err =>
          rfl
      | ok digits =>
          rfl
  | succ count inductionHypothesis =>
      have one : base58Index '1' = .ok 0 := by
        decide
      rw [List.replicate_succ, List.cons_append, base58Digits, one,
        inductionHypothesis]
      cases base58Digits chars with
      | error err =>
          rfl
      | ok digits =>
          rfl

/-- Leading ones stand for leading zeros, and for nothing else. -/
theorem leading_of_base58Text {digits : List ℕ}
    (small : ∀ digit ∈ digits, digit < 58) :
    ((base58Text digits).takeWhile fun char => char = '1').length =
      (Radix.leading digits).length := by
  induction digits with
  | nil =>
      rfl
  | cons digit rest inductionHypothesis =>
      obtain ⟨digitSmall, restSmall⟩ := List.forall_mem_cons.mp small
      have isOne : ∀ digit < 58,
          (decide (base58Char digit = '1')) = decide (digit = 0) := by
        decide
      have head := isOne digit digitSmall
      rw [base58Text, List.map_cons, Radix.leading]
      by_cases zero : digit = 0
      · rw [List.takeWhile_cons_of_pos (by rw [head]; simpa using zero),
          List.takeWhile_cons_of_pos (by simpa using zero),
          List.length_cons, List.length_cons]
        exact congrArg (· + 1) (inductionHypothesis restSmall)
      · rw [List.takeWhile_cons_of_neg (by rw [head]; simpa using zero),
          List.takeWhile_cons_of_neg (by simpa using zero)]
        rfl

/-! ## The Python codec -/

namespace PythonBinding

/-- The characters printed: the digits of the bytes in base 58. -/
theorem toList_base58Encode (bytes : List UInt8) :
    (base58Encode bytes).toList =
      base58Text (Radix.rebase 256 58 (byteDigits bytes)) := by
  by_cases empty : bytes = []
  · subst empty
    rfl
  · have ones :
        base58Text (Radix.leading (byteDigits bytes)) =
          List.replicate (bytes.takeWhile fun byte => byte = 0).length
            '1' := by
      rw [leading_byteDigits, base58Text, List.map_replicate]
      rfl
    rw [base58Encode, if_neg empty, String.toList_ofList, Radix.rebase,
      base58Text, List.map_append]
    exact congrArg₂ (· ++ ·) ones.symm rfl

/-- The harness prints the same text. -/
theorem base58Encode_eq_toBase58 (address : Pubkey) :
    base58Encode address.bytes = address.toBase58 := by
  apply String.toList_inj.mp
  have ones :
      (address.bytes.takeWhile (· = 0)).map (fun _ => '1') =
        base58Text (Radix.leading (byteDigits address.bytes)) := by
    rw [leading_byteDigits, base58Text, List.map_replicate]
    exact List.map_const'
  rw [toList_base58Encode, Pubkey.toList_toBase58, ones, Radix.rebase,
    base58Text, List.map_append]
  rfl

theorem readNumber_eq (number : ℕ) (chars : List Char) :
    readNumber number chars =
      (base58Digits chars).map fun digits =>
        digits.foldl (fun value digit => value * 58 + digit) number := by
  induction chars generalizing number with
  | nil =>
      rfl
  | cons char rest inductionHypothesis =>
      rw [readNumber, base58Digits]
      cases base58Index char with
      | error err =>
          rfl
      | ok index =>
          change readNumber (number * 58 + index) rest = _
          rw [inductionHypothesis]
          cases base58Digits rest with
          | error err =>
              rfl
          | ok digits =>
              rfl

theorem leBytes_digits (number : ℕ) :
    Bytes.leBytes (Nat.digits 256 number).length number =
      (Nat.digits 256 number).map UInt8.ofNat := by
  induction number using Nat.strongRecOn with
  | ind number inductionHypothesis =>
      by_cases zero : number = 0
      · subst zero
        simp [Bytes.leBytes]
      · have split :=
          Nat.digits_def' (by decide : 1 < 256)
            (Nat.pos_of_ne_zero zero)
        have smaller : number / 256 < number :=
          Nat.div_lt_self (Nat.pos_of_ne_zero zero) (by decide)
        rw [split, List.length_cons, List.map_cons, Bytes.leBytes,
          inductionHypothesis _ smaller]

/-- The width that `_base58_decode` computes from the bit length is the
number of bytes. -/
theorem width_eq {number : ℕ} (positive : 0 < number) :
    (Nat.size number + 7) / 8 = (Nat.digits 256 number).length := by
  have below : number < 256 ^ (Nat.digits 256 number).length :=
    Nat.lt_base_pow_length_digits (by decide)
  have above :
      256 ^ (Nat.digits 256 number).length ≤ 256 * number :=
    Nat.base_pow_length_digits_le 256 number (by decide)
      (Nat.pos_iff_ne_zero.mp positive)
  have some : 0 < (Nat.digits 256 number).length :=
    List.length_pos_of_ne_nil
      (Nat.digits_ne_nil_iff_ne_zero.mpr (Nat.pos_iff_ne_zero.mp positive))
  obtain ⟨length, same⟩ := Nat.exists_eq_succ_of_ne_zero
    (Nat.pos_iff_ne_zero.mp some)
  rw [same] at below above ⊢
  have bits : ∀ count : ℕ, (256 : ℕ) ^ count = 2 ^ (8 * count) :=
    fun count => by rw [pow_mul]; norm_num
  have fits : Nat.size number ≤ 8 * (length + 1) := by
    rw [Nat.size_le, ← bits]
    exact below
  have reached : 8 * length < Nat.size number := by
    rw [Nat.lt_size, ← bits]
    rw [pow_succ] at above
    omega
  change (Nat.size number + 7) / 8 = length + 1
  omega

theorem body_eq (number : ℕ) :
    body number =
      .ok ((Nat.digits 256 number).reverse.map UInt8.ofNat) := by
  have below : number < 256 ^ (Nat.digits 256 number).length :=
    Nat.lt_base_pow_length_digits (by decide)
  simp only [body]
  split
  · rename_i positive
    rw [width_eq positive, toBytes, if_pos below, leBytes_digits,
      List.map_reverse]
  · rename_i zero
    have zero : number = 0 := by
      omega
    rw [zero, Nat.digits_zero]
    rfl

/-- The bytes read: the digits of the text in base 256. -/
theorem base58Decode_eq (text : String) :
    base58Decode text =
      (base58Digits text.toList).map fun digits =>
        (Radix.rebase 58 256 digits).map UInt8.ofNat := by
  by_cases empty : text.toList = []
  · rw [base58Decode, if_pos empty, empty]
    rfl
  · rw [base58Decode, if_neg empty, readNumber_eq]
    cases read : base58Digits text.toList with
    | error err =>
        rfl
    | ok digits =>
        obtain ⟨small, same⟩ := base58Digits_eq_ok.mp read
        have zeros :
            List.replicate
                (text.toList.takeWhile fun char => char = '1').length
                (0 : UInt8) =
              (Radix.leading digits).map UInt8.ofNat := by
          rw [← same, leading_of_base58Text small, Radix.leading_eq,
            List.map_replicate, List.length_replicate]
          rfl
        change
          (do
            let body ← body (positional 58 digits)
            .ok (List.replicate _ (0 : UInt8) ++ body)) =
            .ok
              ((Radix.leading digits ++
                (Nat.digits 256 (positional 58 digits)).reverse).map
                UInt8.ofNat)
        rw [body_eq, zeros, List.map_append]
        rfl

/-- A text decodes to a byte string just when the byte string prints as
the text. -/
theorem base58Decode_eq_ok_iff (text : String) (bytes : List UInt8) :
    base58Decode text = .ok bytes ↔ base58Encode bytes = text := by
  rw [base58Decode_eq]
  constructor
  · intro decoded
    cases read : base58Digits text.toList with
    | error err =>
        rw [read] at decoded
        cases decoded
    | ok digits =>
        obtain ⟨small, same⟩ := base58Digits_eq_ok.mp read
        rw [read] at decoded
        cases decoded
        apply String.toList_inj.mp
        rw [toList_base58Encode,
          byteDigits_ofNat (Radix.rebase_small (by decide)),
          Radix.rebase_rebase (by decide) small, same]
  · intro printed
    have read :
        base58Digits text.toList =
          .ok (Radix.rebase 256 58 (byteDigits bytes)) := by
      apply base58Digits_eq_ok.mpr
      refine ⟨Radix.rebase_small (by decide), ?_⟩
      rw [← toList_base58Encode, printed]
    have back :
        (Radix.rebase 58 256
            (Radix.rebase 256 58 (byteDigits bytes))).map UInt8.ofNat =
          bytes := by
      rw [Radix.rebase_rebase (by decide) (byteDigits_small bytes)]
      apply byteDigits_injective
      exact byteDigits_ofNat (byteDigits_small bytes)
    rw [read]
    exact congrArg Except.ok back

theorem fromBase58_eq_ok {text : String} {address : Pubkey} :
    fromBase58 text = .ok address ↔ text = address.toBase58 := by
  have printed :
      base58Decode text = .ok address.bytes ↔ text = address.toBase58 := by
    rw [base58Decode_eq_ok_iff, base58Encode_eq_toBase58]
    exact eq_comm
  rw [← printed, fromBase58]
  cases base58Decode text with
  | error err =>
      simp [bind, Except.bind]
  | ok decoded =>
      rw [Except.ok.injEq]
      change
        (if decoded.length ≠ 32 then Except.error _ else ofRaw decoded) =
            Except.ok address ↔ _
      split
      · rename_i wrong
        constructor
        · intro found
          cases found
        · intro same
          exact absurd (same ▸ address.length_eq) wrong
      · exact ofRaw_eq_ok_iff decoded address

/-- Decoding and encoding are inverse to each other, on every byte string
and every text, and a text names the address that the harness prints as
that text and no other. -/
theorem base58_bijective :
    (∀ text bytes,
        base58Decode text = .ok bytes ↔ base58Encode bytes = text) ∧
      ∀ text address,
        fromBase58 text = .ok address ↔ text = address.toBase58 :=
  ⟨base58Decode_eq_ok_iff, fun _ _ => fromBase58_eq_ok⟩

end PythonBinding

/-! ## The TypeScript codec -/

/-- There is a byte, and no nonzero one. -/
def OnlyZeros (bytes : List UInt8) : Prop :=
  bytes ≠ [] ∧ ∀ byte ∈ bytes, byte = 0

instance (bytes : List UInt8) : Decidable (OnlyZeros bytes) :=
  inferInstanceAs (Decidable (_ ∧ _))

theorem onlyZeros_replicate {count : ℕ} (some : 0 < count) :
    OnlyZeros (List.replicate count 0) := by
  refine ⟨?_, fun byte member => List.eq_of_mem_replicate member⟩
  rw [ne_eq, List.replicate_eq_nil_iff]
  omega

theorem positional_byteDigits_eq_zero_iff {bytes : List UInt8} :
    positional 256 (byteDigits bytes) = 0 ↔ ∀ byte ∈ bytes, byte = 0 := by
  rw [Radix.positional_eq_zero_iff (by decide), byteDigits,
    List.forall_mem_map]
  constructor
  · intro all byte member
    exact UInt8.toNat_inj.mp (all byte member)
  · intro all byte member
    rw [all byte member]
    rfl

namespace TypescriptBinding

/-- Digits stay below 58 and carries below 256, far from 32 bits. -/
theorem carry_small (byte : UInt8) {digits : List ℕ}
    (small : ∀ digit ∈ digits, digit < 58) :
    (Radix.scale 58 256 byte.toNat digits).2 < 256 :=
  Radix.carry_lt byte.toNat_lt small

/-- The same error, a foreign character reported by its first code unit. -/
def inUnits : AddressError Char → AddressError ℕ
  | .invalidCharacter char => .invalidCharacter (firstUnit char)
  | .overflow width number => .overflow width number
  | .wrongLength found => .wrongLength found

theorem mapError_eq_ok {α : Type} {read : Except (AddressError Char) α}
    {value : α} :
    read.mapError inUnits = .ok value ↔ read = .ok value := by
  cases read with
  | error err =>
      simp [Except.mapError]
  | ok found =>
      simp [Except.mapError]

theorem alphabet_codeUnits :
    Pubkey.base58Alphabet.flatMap codeUnits =
      Pubkey.base58Alphabet.map Char.toNat := by
  decide +kernel

/-- No other character is a first code unit: surrogates are none. -/
theorem eq_of_firstUnit {char other : Char}
    (same : firstUnit char = other.toNat) : char = other := by
  apply Char.toNat_inj.mp
  simp only [firstUnit] at same
  split at same
  · exact same
  · have within : char.toNat.isValidChar := char.valid
    have scalar : other.toNat.isValidChar := other.valid
    rw [Nat.isValidChar] at within scalar
    have high : (char.toNat - 0x10000) / 0x400 < 0x400 := by
      omega
    rcases scalar with below | ⟨above, _⟩
    · omega
    · omega

/-- The code unit's place is its character's. -/
theorem indexOf_firstUnit (char : Char) :
    indexOf (firstUnit char) = (base58Index char).mapError inUnits := by
  cases found : base58Index char with
  | ok index =>
      obtain ⟨small, same⟩ := base58Index_eq_ok found
      have places : ∀ digit < 58,
          indexOf (firstUnit (base58Char digit)) = .ok digit := by
        decide +kernel
      rw [← same, places index small]
      rfl
  | error err =>
      have foreign : char ∉ Pubkey.base58Alphabet := by
        intro member
        obtain ⟨index, place⟩ :=
          Option.isSome_iff_exists.mp
            (List.isSome_idxOf?.mpr member)
        rw [base58Index, place] at found
        cases found
      have unlisted :
          (Pubkey.base58Alphabet.flatMap codeUnits).idxOf?
            (firstUnit char) = none := by
        rw [alphabet_codeUnits, List.idxOf?_eq_none_iff]
        intro listed
        obtain ⟨other, member, same⟩ := List.mem_map.mp listed
        exact foreign (eq_of_firstUnit same.symm ▸ member)
      have absent := List.idxOf?_eq_none_iff.mpr foreign
      rw [base58Index, absent] at found
      cases found
      rw [indexOf, unlisted]
      rfl

/-- A character of the alphabet is one code unit. -/
theorem codeUnits_of_index {char : Char} {index : ℕ}
    (found : base58Index char = .ok index) :
    codeUnits char = [firstUnit char] := by
  obtain ⟨small, same⟩ := base58Index_eq_ok found
  have single : ∀ digit < 58,
      codeUnits (base58Char digit) = [firstUnit (base58Char digit)] := by
    decide
  rw [← same, single index small]

theorem exists_codeUnits (char : Char) :
    ∃ rest, codeUnits char = firstUnit char :: rest := by
  simp only [codeUnits]
  split
  · exact ⟨_, rfl⟩
  · exact ⟨_, rfl⟩

theorem readBytes_eq (bytes : List ℕ) (chars : List Char) :
    readBytes bytes (chars.flatMap codeUnits) =
      ((base58Digits chars).map fun digits =>
        digits.foldl (Radix.absorb 256 58) bytes).mapError inUnits := by
  induction chars generalizing bytes with
  | nil =>
      rfl
  | cons char rest inductionHypothesis =>
      have place := indexOf_firstUnit char
      rw [List.flatMap_cons, base58Digits]
      cases found : base58Index char with
      | error err =>
          obtain ⟨trailing, units⟩ := exists_codeUnits char
          rw [found] at place
          rw [units, List.cons_append, readBytes, place]
          rfl
      | ok index =>
          rw [found] at place
          rw [codeUnits_of_index found, List.singleton_append, readBytes,
            place]
          change
            readBytes (Radix.absorb 256 58 bytes index)
              (rest.flatMap codeUnits) = _
          rw [inductionHypothesis]
          cases base58Digits rest with
          | error err =>
              rfl
          | ok digits =>
              rfl

/-- The leading ones are found in the code units as in the characters, and
split off there. -/
theorem leading_codeUnits (chars : List Char) :
    ((chars.flatMap codeUnits).takeWhile fun unit =>
        unit = '1'.toNat).length =
      (chars.takeWhile fun char => char = '1').length ∧
    (chars.flatMap codeUnits).drop
        (chars.takeWhile fun char => char = '1').length =
      (chars.drop
        (chars.takeWhile fun char => char = '1').length).flatMap
          codeUnits := by
  induction chars with
  | nil =>
      exact ⟨rfl, rfl⟩
  | cons char rest inductionHypothesis =>
      by_cases one : char = '1'
      · subst one
        have units : codeUnits '1' = ['1'.toNat] := by
          decide
        rw [List.flatMap_cons, units, List.singleton_append,
          List.takeWhile_cons_of_pos (by simp),
          List.takeWhile_cons_of_pos (by simp), List.length_cons,
          List.length_cons, List.drop_succ_cons, List.drop_succ_cons]
        exact
          ⟨congrArg (· + 1) inductionHypothesis.1, inductionHypothesis.2⟩
      · obtain ⟨trailing, units⟩ := exists_codeUnits char
        have other : firstUnit char ≠ '1'.toNat :=
          fun same => one (eq_of_firstUnit same)
        rw [List.flatMap_cons, units, List.cons_append,
          List.takeWhile_cons_of_neg (by simpa using other),
          List.takeWhile_cons_of_neg (by simpa using one)]
        exact ⟨rfl, by simp [units]⟩

/-- The text is the Python one, with one more `1` behind it when there are
only zeros. -/
theorem base58Encode_eq (bytes : List UInt8) :
    base58Encode bytes =
      PythonBinding.base58Encode bytes ++
        if OnlyZeros bytes then "1" else "" := by
  apply String.toList_inj.mp
  rw [String.toList_append, PythonBinding.toList_base58Encode]
  by_cases empty : bytes = []
  · subst empty
    rfl
  · have sized : ¬ bytes.length = 0 := by
      rwa [List.length_eq_zero_iff]
    have count :
        (bytes.takeWhile fun byte => byte = 0).length =
          (Radix.leading (byteDigits bytes)).length := by
      rw [leading_byteDigits, List.length_replicate]
    have rest :
        (bytes.drop (bytes.takeWhile fun byte => byte = 0).length).map
            UInt8.toNat =
          Radix.behind (byteDigits bytes) := by
      rw [count, List.map_drop]
      exact Radix.drop_leading (byteDigits bytes)
    have ones :
        List.replicate (bytes.takeWhile fun byte => byte = 0).length '1' =
          base58Text (Radix.leading (byteDigits bytes)) := by
      rw [leading_byteDigits, base58Text, List.map_replicate]
      rfl
    rw [base58Encode, if_neg sized, String.toList_ofList, rest, ones,
      Radix.foldl_absorb_zero (by decide) (by decide),
      Radix.positional_behind, Radix.rebase]
    by_cases zero : positional 256 (byteDigits bytes) = 0
    · have only : OnlyZeros bytes :=
        ⟨empty, positional_byteDigits_eq_zero_iff.mp zero⟩
      rw [if_pos only, zero]
      simp [base58Text]
      rfl
    · have other : ¬ OnlyZeros bytes := by
        intro only
        exact zero (positional_byteDigits_eq_zero_iff.mpr only.2)
      rw [if_neg other, if_neg zero]
      simp [base58Text]

/-- A text is its leading ones and what is behind them. -/
theorem ones_append_drop {chars : List Char} {count : ℕ}
    (counted :
      (chars.takeWhile fun char => char = '1').length = count) :
    List.replicate count '1' ++ chars.drop count = chars := by
  have ones :
      chars.takeWhile (fun char => char = '1') =
        List.replicate count '1' := by
    rw [← counted]
    apply List.eq_replicate_length.mpr
    intro char member
    simpa using List.mem_takeWhile_imp member
  have front :=
    List.prefix_iff_eq_append.mp
      (List.takeWhile_prefix (l := chars) fun char => char = '1')
  rwa [counted, ones] at front

/-- Only zeros come out of digits that count nothing. -/
theorem onlyZeros_rebase_iff {digits : List ℕ}
    (small : ∀ digit ∈ digits, digit < 58) (some : digits ≠ []) :
    OnlyZeros ((Radix.rebase 58 256 digits).map UInt8.ofNat) ↔
      positional 58 digits = 0 := by
  have nonempty : Radix.rebase 58 256 digits ≠ [] :=
    Radix.rebase_ne_nil (by decide) small some
  rw [OnlyZeros, ← positional_byteDigits_eq_zero_iff,
    byteDigits_ofNat (Radix.rebase_small (by decide)),
    Radix.positional_rebase]
  simp only [ne_eq, List.map_eq_nil_iff, nonempty, not_false_eq_true,
    true_and]

/-- A nonempty text is its leading ones and the units behind them. -/
theorem base58Decode_eq_readBytes {text : String} {count : ℕ}
    (nonempty : text.toList ≠ [])
    (counted :
      (text.toList.takeWhile fun char => char = '1').length = count) :
    base58Decode text =
      (do
        let bytes ←
          readBytes [0] ((text.toList.drop count).flatMap codeUnits)
        .ok
          (List.replicate count 0 ++
            bytes.reverse.map UInt8.ofNat)) := by
  have sized : ¬ (text.toList.flatMap codeUnits).length = 0 := by
    obtain ⟨char, rest, same⟩ := List.exists_cons_of_ne_nil nonempty
    obtain ⟨trailing, units⟩ := exists_codeUnits char
    rw [same, List.flatMap_cons, units]
    exact Nat.succ_ne_zero _
  obtain ⟨sameCount, behind⟩ := leading_codeUnits text.toList
  rw [counted] at sameCount behind
  rw [← behind, ← sameCount]
  exact if_neg sized

/-- The bytes are the Python ones, with one more zero when there are only
zeros; a foreign character is refused by both. -/
theorem base58Decode_eq (text : String) :
    base58Decode text =
      ((PythonBinding.base58Decode text).map fun bytes =>
        bytes ++ if OnlyZeros bytes then [0] else []).mapError
          inUnits := by
  rw [PythonBinding.base58Decode_eq]
  by_cases empty : text.toList = []
  · rw [base58Decode, empty]
    rfl
  · obtain ⟨count, counted⟩ :
        ∃ count,
          (text.toList.takeWhile fun char => char = '1').length = count :=
      ⟨_, rfl⟩
    rw [base58Decode_eq_readBytes empty counted, readBytes_eq]
    have split := ones_append_drop counted
    cases read : base58Digits (text.toList.drop count) with
    | error err =>
        rw [← split, base58Digits_ones, read]
        rfl
    | ok digits =>
        have whole :
            base58Digits text.toList =
              .ok (List.replicate count 0 ++ digits) := by
          rw [← split, base58Digits_ones, read]
          rfl
        obtain ⟨small, same⟩ := base58Digits_eq_ok.mp whole
        have zeros :
            Radix.leading (List.replicate count 0 ++ digits) =
              List.replicate count 0 := by
          rw [Radix.leading_eq, ← leading_of_base58Text small, same,
            counted]
        have number :
            positional 58 (List.replicate count 0 ++ digits) =
              positional 58 digits :=
          positional_zeros 58 count digits
        have some : List.replicate count 0 ++ digits ≠ [] := by
          intro none
          rw [none] at same
          exact empty same.symm
        have only := onlyZeros_rebase_iff small some
        rw [number] at only
        rw [whole]
        change
          Except.ok
              (List.replicate count (0 : UInt8) ++
                (digits.foldl (Radix.absorb 256 58) [0]).reverse.map
                  UInt8.ofNat) =
            Except.ok
              ((Radix.rebase 58 256
                  (List.replicate count 0 ++ digits)).map UInt8.ofNat ++
                if OnlyZeros _ then [0] else [])
        rw [Radix.foldl_absorb_zero (by decide) (by decide)]
        by_cases zero : positional 58 digits = 0
        · rw [if_pos (only.mpr zero), if_pos zero, Radix.rebase, zeros,
            number, zero]
          simp
        · have other := fun holds => zero (only.mp holds)
          rw [if_neg other, if_neg zero, Radix.rebase, zeros, number]
          simp

/-- The two bindings agree, except that this one is a digit longer on
nonempty zeros and reports a foreign character by its first code unit. -/
theorem base58_longer_on_zeros :
    (∀ bytes,
        base58Encode bytes =
          PythonBinding.base58Encode bytes ++
            if OnlyZeros bytes then "1" else "") ∧
      ∀ text,
        base58Decode text =
          ((PythonBinding.base58Decode text).map fun bytes =>
            bytes ++ if OnlyZeros bytes then [0] else []).mapError
              inUnits :=
  ⟨base58Encode_eq, base58Decode_eq⟩

theorem fromBase58_eq_ok {text : String} {address : Pubkey} :
    fromBase58 text = .ok address ↔
      base58Decode text = .ok address.bytes := by
  rw [fromBase58]
  cases base58Decode text with
  | error err =>
      simp [bind, Except.bind]
  | ok decoded =>
      rw [Except.ok.injEq]
      exact ofRaw_eq_ok_iff decoded address

/-- The bytes decoded are these just when the Python ones are, and they
hold a nonzero byte. -/
theorem base58Decode_eq_ok_of_nonzero {text : String}
    {bytes : List UInt8} (nonzero : ¬ OnlyZeros bytes) :
    base58Decode text = .ok bytes ↔
      PythonBinding.base58Decode text = .ok bytes := by
  rw [base58Decode_eq, mapError_eq_ok]
  cases PythonBinding.base58Decode text with
  | error err =>
      rfl
  | ok decoded =>
      rw [Except.ok.injEq]
      change
        Except.ok (decoded ++ if OnlyZeros decoded then [0] else []) =
            Except.ok bytes ↔ _
      rw [Except.ok.injEq]
      by_cases only : OnlyZeros decoded
      · rw [if_pos only]
        constructor
        · intro same
          refine absurd ?_ nonzero
          rw [← same]
          refine ⟨List.append_ne_nil_of_right_ne_nil _ (by simp), ?_⟩
          intro byte member
          rcases List.mem_append.mp member with old | new
          · exact only.2 byte old
          · exact List.mem_singleton.mp new
        · intro same
          exact absurd (same ▸ only) nonzero
      · rw [if_neg only, List.append_nil]

/-- Zeros come out of one zero less. -/
theorem base58Decode_eq_ok_zeros {text : String} {count : ℕ}
    (some : 0 < count) :
    base58Decode text = .ok (List.replicate (count + 1) 0) ↔
      PythonBinding.base58Decode text = .ok (List.replicate count 0) := by
  rw [base58Decode_eq, mapError_eq_ok]
  cases PythonBinding.base58Decode text with
  | error err =>
      simp [Except.map]
  | ok decoded =>
      rw [Except.ok.injEq]
      change
        Except.ok (decoded ++ if OnlyZeros decoded then [0] else []) =
            Except.ok (List.replicate (count + 1) 0) ↔ _
      rw [Except.ok.injEq, List.replicate_succ']
      by_cases only : OnlyZeros decoded
      · rw [if_pos only]
        exact List.append_left_inj [0]
      · rw [if_neg only, List.append_nil]
        constructor
        · intro same
          rw [← List.replicate_succ'] at same
          exact absurd (same ▸ onlyZeros_replicate (Nat.succ_pos count)) only
        · intro same
          exact absurd (same ▸ onlyZeros_replicate some) only

theorem onlyZeros_address_iff (address : Pubkey) :
    OnlyZeros address.bytes ↔ address = systemProgramId := by
  constructor
  · intro only
    apply Pubkey.bytes_inj.mp
    have zeros := List.eq_replicate_length.mpr only.2
    rw [address.length_eq] at zeros
    exact zeros
  · intro same
    rw [same]
    exact onlyZeros_replicate (by decide)

/-- A text names the address that the harness prints as that text, unless
it is the address of the system program, which is named by a text one
character short. -/
theorem fromBase58_names_iff (text : String) (address : Pubkey) :
    fromBase58 text = .ok address ↔
      if address = systemProgramId then
        text = String.ofList (List.replicate 31 '1')
      else
        text = address.toBase58 := by
  rw [fromBase58_eq_ok]
  split
  · rename_i same
    subst same
    have shorter :
        base58Decode text = .ok systemProgramId.bytes ↔
          PythonBinding.base58Decode text =
            .ok (List.replicate 31 0) :=
      base58Decode_eq_ok_zeros (by decide)
    have printed :
        PythonBinding.base58Encode (List.replicate 31 0) =
          String.ofList (List.replicate 31 '1') := by
      decide +kernel
    rw [shorter, PythonBinding.base58Decode_eq_ok_iff, printed, eq_comm]
  · rename_i other
    have nonzero : ¬ OnlyZeros address.bytes := by
      rwa [onlyZeros_address_iff]
    rw [base58Decode_eq_ok_of_nonzero nonzero,
      PythonBinding.base58Decode_eq_ok_iff,
      PythonBinding.base58Encode_eq_toBase58, eq_comm]

end TypescriptBinding

end Hopper
