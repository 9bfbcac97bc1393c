/-
Byte strings, status codes and results: the vocabulary every other
module of the model is written in.

`std::string` is a list of bytes. Literals of the source are ASCII and
enter through `ascii`. `Result<T>` is `Except Error T`; the message of
an error is a literal of the source, its context a byte string built at
run time.
-/
import RbfSafe.Lib.Numerals
import Mathlib.Data.Nat.Digits.Defs
import Mathlib.Tactic

namespace RbfSafe

/-- `std::string`. -/
abbrev Bytes := List UInt8

/-- `==` of byte strings is equality. -/
instance lawfulBytes : LawfulBEq Bytes := inferInstance

instance lawfulPairs : LawfulBEq (Bytes × Bytes) := inferInstance

/-- The bytes of a string literal. -/
def ascii (s : String) : Bytes := s.toUTF8.data.toList

/-- `rbfsafe::StatusCode`. -/
inductive StatusCode where
  | ok
  | invalidArgument
  | dimensionMismatch
  | resourceLimit
  | identityMismatch
  | incompatibleFormat
  | corruptData
  | ioError
  | cancelled
  | internalError
deriving DecidableEq, Repr

/-- `rbfsafe::Error`. -/
structure Error where
  code : StatusCode
  message : String
  context : Bytes
deriving DecidableEq, Repr

/-- `rbfsafe::Result<T>`. -/
abbrev Result (α : Type) := Except Error α

/-- `Result<T>::failure`. -/
def failure {α : Type} (code : StatusCode) (message : String)
    (context : Bytes := []) : Result α :=
  .error ⟨code, message, context⟩

/-- `Result<T>::has_value`. -/
def Succeeds {α : Type} (r : Result α) : Prop := ∃ a, r = .ok a

@[simp] theorem failure_ne_ok {α : Type} (code : StatusCode)
    (message : String) (context : Bytes) (a : α) :
    (failure code message context : Result α) ≠ .ok a := by
  intro h
  cases h

/-- A guard that fails leaves no success behind it. -/
theorem ite_failure_eq_ok {α : Type} {c : Prop} [Decidable c]
    {code : StatusCode} {message : String} {context : Bytes}
    {r : Result α} {a : α} :
    (if c then failure code message context else r) = .ok a
      ↔ ¬c ∧ r = .ok a := by
  by_cases hc : c <;> simp [hc]

/-- A failed call is passed on, a successful one continued. -/
theorem bind_eq_ok {α β : Type} {r : Result α} {k : α → Result β} {b : β} :
    (r >>= k) = .ok b ↔ ∃ a, r = .ok a ∧ k a = .ok b := by
  cases r with
  | error e =>
      constructor
      · intro h
        cases h
      · rintro ⟨a, h, -⟩
        cases h
  | ok a =>
      constructor
      · intro h
        exact ⟨a, rfl, h⟩
      · rintro ⟨a', h, hk⟩
        cases h
        exact hk

/-- A check, and what is done once it has passed. -/
theorem check_eq_ok {β : Type} {r : Result Unit} {k : Result β} {b : β} :
    (r >>= fun _ => k) = .ok b ↔ r = .ok () ∧ k = .ok b := by
  rw [bind_eq_ok]
  constructor
  · rintro ⟨⟨⟩, h⟩
    exact h
  · exact fun h => ⟨(), h⟩

@[simp] theorem error_bind {α β : Type} (e : Error) (k : α → Result β) :
    ((Except.error e : Result α) >>= k) = .error e := rfl

@[simp] theorem ok_bind {α β : Type} (a : α) (k : α → Result β) :
    ((Except.ok a : Result α) >>= k) = k a := rfl

-- === printing

/-- `std::to_string` of an unsigned integer. -/
def stdToString (n : Nat) : Bytes :=
  if n = 0 then [48]
  else (Nat.digits 10 n).reverse.map fun d => UInt8.ofNat (48 + d)

/-- A digit of lowercase hexadecimal. -/
def isLowerHex (c : UInt8) : Bool :=
  (48 ≤ c && c ≤ 57) || (97 ≤ c && c ≤ 102)

/-- `internal::valid_sha256`. -/
def validSha256 (digest : Bytes) : Bool :=
  digest.length == 64 && digest.all isLowerHex

theorem validSha256_ne_nil {digest : Bytes} (h : validSha256 digest = true) :
    digest ≠ [] := by
  rintro rfl
  simp [validSha256] at h

/-- The digits of `internal::encode_hex`. -/
def hexDigit (n : UInt8) : UInt8 := if n < 10 then 48 + n else 87 + n

/-- `internal::encode_hex`. -/
def encodeHex (bytes : Bytes) : Bytes :=
  bytes.flatMap fun (b : UInt8) => [hexDigit (b >>> 4), hexDigit (b &&& 0x0f)]

/-- The `nibble` of `internal::decode_hex`; `none` where it is negative. -/
def nibble (c : UInt8) : Option UInt8 :=
  if 48 ≤ c ∧ c ≤ 57 then some (c - 48)
  else if 97 ≤ c ∧ c ≤ 102 then some (c - 97 + 10)
  else none

/-- The loop of `internal::decode_hex`. -/
def decodeNibbles : Bytes → Option Bytes
  | high :: low :: rest =>
      match nibble high, nibble low, decodeNibbles rest with
      | some h, some l, some bytes => some (((h <<< 4) ||| l) :: bytes)
      | _, _, _ => none
  | _ => some []

/-- `internal::decode_hex`. -/
def decodeHex (text : Bytes) (expectedBytes : Nat) : Result Bytes :=
  if text.length ≠ expectedBytes * 2 then
    failure .corruptData "hexadecimal byte string has invalid length"
  else match decodeNibbles text with
    | none => failure .corruptData
        "hexadecimal byte string contains an invalid character"
    | some bytes => .ok bytes

/-- `valid_text`, as each translation unit has its own copy of it. -/
def validText (value : Bytes) (maximum : Nat) : Bool :=
  !value.isEmpty && value.length ≤ maximum
    && value.all fun c => 0x20 ≤ c && c != 0x7f

/-- `kMaximumIdentifierBytes`. -/
def kMaximumIdentifierBytes : Nat := 256

/-- `valid_text` with the bound of an identifier. -/
def validIdentifier (value : Bytes) : Bool :=
  validText value kMaximumIdentifierBytes

theorem length_encodeHex (bytes : Bytes) :
    (encodeHex bytes).length = 2 * bytes.length := by
  induction bytes with
  | nil => rfl
  | cons b bytes ih =>
      rw [encodeHex] at ih
      simp only [encodeHex, List.flatMap_cons, List.length_append,
        List.length_cons, List.length_nil, ih]
      omega

theorem isLowerHex_hexDigit {n : UInt8} (h : n < 16) :
    isLowerHex (hexDigit n) = true := by
  have hn : ∀ n : Fin 16, isLowerHex (hexDigit (UInt8.ofNat n)) = true := by
    decide
  have hlt : n.toNat < 16 := UInt8.lt_iff_toNat_lt.mp h
  simpa using hn ⟨n.toNat, hlt⟩

theorem hexDigit_shift_lt (b : UInt8) : b >>> 4 < 16 := by
  rw [UInt8.lt_iff_toNat_lt, UInt8.toNat_shiftRight]
  have := b.toNat_lt
  simp [Nat.shiftRight_eq_div_pow]
  omega

theorem hexDigit_mask_lt (b : UInt8) : b &&& 0x0f < 16 := by
  rw [UInt8.lt_iff_toNat_lt, UInt8.toNat_and]
  exact Nat.lt_of_le_of_lt Nat.and_le_right (by decide)

theorem all_isLowerHex_encodeHex (bytes : Bytes) :
    (encodeHex bytes).all isLowerHex = true := by
  rw [List.all_eq_true]
  intro c hc
  obtain ⟨b, -, hb⟩ := List.mem_flatMap.mp hc
  simp only [List.mem_cons, List.not_mem_nil, or_false] at hb
  rcases hb with rfl | rfl
  · exact isLowerHex_hexDigit (hexDigit_shift_lt b)
  · exact isLowerHex_hexDigit (hexDigit_mask_lt b)

/-- Every byte is read back from its two digits. -/
theorem decodeNibbles_byte (b : UInt8) :
    nibble (hexDigit (b >>> 4)) = some (b >>> 4) ∧
      nibble (hexDigit (b &&& 0x0f)) = some (b &&& 0x0f) ∧
      ((b >>> 4) <<< 4) ||| (b &&& 0x0f) = b := by
  have h : ∀ n : Fin 256,
      let b := UInt8.ofNat n
      nibble (hexDigit (b >>> 4)) = some (b >>> 4) ∧
        nibble (hexDigit (b &&& 0x0f)) = some (b &&& 0x0f) ∧
        ((b >>> 4) <<< 4) ||| (b &&& 0x0f) = b := by
    decide +kernel
  have hb := h ⟨b.toNat, b.toNat_lt⟩
  simpa using hb

theorem decodeNibbles_encodeHex (bytes : Bytes) :
    decodeNibbles (encodeHex bytes) = some bytes := by
  induction bytes with
  | nil => rfl
  | cons b bytes ih =>
      obtain ⟨hhigh, hlow, hjoin⟩ := decodeNibbles_byte b
      have hcons : encodeHex (b :: bytes) = hexDigit (b >>> 4)
          :: hexDigit (b &&& 0x0f) :: encodeHex bytes := rfl
      rw [hcons, decodeNibbles, hhigh, hlow, ih]
      simp only [hjoin]

/-- `decode_hex` inverts `encode_hex`. -/
theorem decodeHex_encodeHex (bytes : Bytes) :
    decodeHex (encodeHex bytes) bytes.length = .ok bytes := by
  rw [decodeHex, if_neg (by rw [length_encodeHex]; omega),
    decodeNibbles_encodeHex]

end RbfSafe
