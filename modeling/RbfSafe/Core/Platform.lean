/-
What the library takes from outside the repository, as one parameter.

# The C library

A finite `double` is its exact rational value, but for the zero with a
sign. Printing one with seventeen significant digits and reading one
back with `strtod` are functions of the C library; `Libc` carries what the program relies on:
a printout is a number token, it is read back exactly, and a small
unsigned integer prints as its digits.

# Cryptography

`Crypto` carries the digest function, of which the core logic uses only
that a digest is 64 lowercase hexadecimal digits, and the raw signature
check. Every result of the development holds for all of them; `Sha256`
has the digest function of the repository.
-/
import RbfSafe.Core.Bytes

namespace RbfSafe

/-- The values of a finite binary64. -/
def IsDouble (q : ℚ) : Prop :=
  ∃ m e : ℤ, |m| < 2 ^ 53 ∧ -1074 ≤ e ∧ e ≤ 971 ∧ q = m * (2 : ℚ) ^ e

/-- A finite `double`: its value, or the zero that is printed with a
sign. -/
inductive FiniteDouble where
  | value (q : ℚ)
  | negativeZero
deriving DecidableEq

/-- The values that binary64 has. -/
def FiniteDouble.Valid : FiniteDouble → Prop
  | value q => IsDouble q
  | negativeZero => True

/-- The number that is compared. -/
def FiniteDouble.toRat : FiniteDouble → ℚ
  | value q => q
  | negativeZero => 0

/-- A `double` that is not finite, of a NaN only that it is one. -/
inductive NonFinite where
  | infinity
  | negativeInfinity
  | notANumber
deriving DecidableEq

/-- `static_cast<double>` of an unsigned integer: exact below `2 ^ 53`,
above it rounded to the nearest even significand. -/
def doubleOfNat (n : Nat) : ℚ :=
  if n < 2 ^ 53 then n
  else
    let e := Nat.log2 n - 52
    let q := n / 2 ^ e
    let r := n % 2 ^ e
    let up := 2 ^ e < 2 * r ∨ (2 ^ e = 2 * r ∧ q % 2 = 1)
    ((if up then q + 1 else q) * 2 ^ e : Nat)

theorem doubleOfNat_small {n : Nat} (h : n < 2 ^ 53) : doubleOfNat n = n :=
  if_pos h

theorem isDouble_natCast {n : Nat} (h : n < 2 ^ 53) : IsDouble n := by
  refine ⟨n, 0, ?_, by norm_num, by norm_num, by simp⟩
  rw [abs_of_nonneg (by positivity)]
  exact_mod_cast h

/-- A decimal digit. -/
def isDigit (c : UInt8) : Bool := 48 ≤ c && c ≤ 57

/-- The digits before the point: no leading zero. -/
def IntegerPart (s : Bytes) : Prop :=
  s = ascii "0" ∨ ∃ d ds, s = d :: ds ∧ 49 ≤ d ∧ d ≤ 57 ∧ ds.all isDigit = true

/-- A non-empty run of digits. -/
def DigitRun (s : Bytes) : Prop := s ≠ [] ∧ s.all isDigit = true

/-- A number of the JSON grammar. -/
def NumberToken (s : Bytes) : Prop :=
  ∃ sign int frac exp, s = sign ++ int ++ frac ++ exp ∧
    (sign = [] ∨ sign = ascii "-") ∧ IntegerPart int ∧
    (frac = [] ∨ ∃ ds, frac = ascii "." ++ ds ∧ DigitRun ds) ∧
    (exp = [] ∨ ∃ mark esign ds, exp = mark ++ esign ++ ds ∧
      (mark = ascii "e" ∨ mark = ascii "E") ∧
      (esign = [] ∨ esign = ascii "+" ∨ esign = ascii "-") ∧ DigitRun ds)

/-- Printing and reading of doubles. `strtod` is `none` where the source
rejects the conversion: a token not consumed whole, or not finite. -/
structure Libc where
  formatDouble : FiniteDouble → Bytes
  strtod : Bytes → Option FiniteDouble
  formatDouble_token : ∀ x : FiniteDouble, x.Valid →
    NumberToken (formatDouble x)
  strtod_formatDouble : ∀ x : FiniteDouble, x.Valid →
    strtod (formatDouble x) = some x
  formatDouble_nat : ∀ n : Nat, n < 2 ^ 53 →
    formatDouble (.value n) = stdToString n

/-- The digest function and the raw signature check. -/
structure Crypto where
  sha256 : Bytes → Bytes
  validSha256_sha256 : ∀ m, validSha256 (sha256 m) = true
  /-- `crypto_ed25519_check` on a signature, a public key and a message:
  whether it returns zero. -/
  ed25519Check : Bytes → Bytes → Bytes → Bool

/-- Everything taken from outside. -/
structure Platform extends Libc, Crypto

variable (P : Platform)

@[simp] theorem Platform.validSha256_digest (m : Bytes) :
    validSha256 (P.sha256 m) = true :=
  P.validSha256_sha256 m

/-- `ArtifactAuthenticationAlgorithm`. -/
inductive ArtifactAuthenticationAlgorithm where
  | hmacSha256
  | ed25519
deriving DecidableEq, Repr

def ArtifactAuthenticationAlgorithm.toNat :
    ArtifactAuthenticationAlgorithm → Nat
  | .hmacSha256 => 0
  | .ed25519 => 1

/-- `kEd25519PublicKeyBytes`. -/
def kEd25519PublicKeyBytes : Nat := 32

/-- `kEd25519SecretKeyBytes`. -/
def kEd25519SecretKeyBytes : Nat := 64

/-- `kEd25519SignatureBytes`. -/
def kEd25519SignatureBytes : Nat := 64

/-- `ed25519_verify`. -/
def ed25519Verify (message signature publicKey : Bytes) : Result Unit :=
  if signature.length ≠ kEd25519SignatureBytes
      ∨ publicKey.length ≠ kEd25519PublicKeyBytes then
    failure .invalidArgument
      "Ed25519 signature or public key has invalid length"
  else if P.ed25519Check signature publicKey message = false then
    failure .identityMismatch "Ed25519 signature verification failed"
  else .ok ()

end RbfSafe
