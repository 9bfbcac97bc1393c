/-
SHA-256 and HMAC as their standards state them.

A message is a string of bits. It is padded with one bit, zeros and its
length, cut into blocks of sixteen words, and each block is mixed into a
hash value of eight words. Nothing here is about buffers or counters: the
schedule is the recurrence of the standard, the constants are the bits of
the roots of primes, and a keyed digest is two digests over two pads.

An implementation reads bytes, so `bits` and `octets` pass between the
two, and `bitsOf_add` takes a number apart into the numbers of its bytes.
-/
import Mathlib.Data.Nat.NthRoot.Defs
import Mathlib.Tactic

namespace RbfSafe.Lib.Sha2

abbrev Bits := List Bool

abbrev Word := BitVec 32

-- === bit strings

/-- The lowest bits of a number, the highest of them first. -/
def bitsOf : Nat → Nat → Bits
  | 0, _ => []
  | width + 1, value => value.testBit width :: bitsOf width value

/-- The number that bits spell, the highest bit first. -/
def numberOf : Bits → Nat
  | [] => 0
  | bit :: rest => bit.toNat * 2 ^ rest.length + numberOf rest

/-- The bits of bytes. -/
def bits (bytes : List UInt8) : Bits :=
  bytes.flatMap fun byte => bitsOf 8 byte.toNat

/-- The first bytes of bits. -/
def octets : Nat → Bits → List UInt8
  | 0, _ => []
  | count + 1, string =>
      UInt8.ofNat (numberOf (string.take 8)) :: octets count (string.drop 8)

@[simp] theorem length_bitsOf (width value : Nat) :
    (bitsOf width value).length = width := by
  induction width with
  | zero => rfl
  | succ width ih => rw [bitsOf, List.length_cons, ih]

@[simp] theorem length_bits (bytes : List UInt8) :
    (bits bytes).length = 8 * bytes.length := by
  induction bytes with
  | nil => rfl
  | cons byte bytes ih =>
      show (bitsOf 8 byte.toNat ++ bits bytes).length = _
      rw [List.length_append, length_bitsOf, ih, List.length_cons]
      omega

theorem bits_cons (byte : UInt8) (bytes : List UInt8) :
    bits (byte :: bytes) = bitsOf 8 byte.toNat ++ bits bytes := rfl

@[simp] theorem bits_append (first second : List UInt8) :
    bits (first ++ second) = bits first ++ bits second :=
  List.flatMap_append

theorem drop_bits (count : Nat) (bytes : List UInt8) :
    (bits bytes).drop (8 * count) = bits (bytes.drop count) := by
  induction count generalizing bytes with
  | zero => rfl
  | succ count ih =>
      cases bytes with
      | nil => simp [bits]
      | cons byte bytes =>
          rw [bits_cons, List.drop_succ_cons, ← ih, Nat.mul_succ, Nat.add_comm,
            ← List.drop_drop, List.drop_left' (length_bitsOf 8 _)]

theorem take_bits (count : Nat) (bytes : List UInt8) :
    (bits bytes).take (8 * count) = bits (bytes.take count) := by
  induction count generalizing bytes with
  | zero => rfl
  | succ count ih =>
      cases bytes with
      | nil => simp [bits]
      | cons byte bytes =>
          rw [bits_cons, List.take_succ_cons, bits_cons, ← ih,
            show 8 * (count + 1) = (bitsOf 8 byte.toNat).length + 8 * count by
              rw [length_bitsOf]; omega,
            List.take_length_add_append]

/-- Higher bits do not matter. -/
theorem bitsOf_mod {width bound : Nat} (h : width ≤ bound) (value : Nat) :
    bitsOf width (value % 2 ^ bound) = bitsOf width value := by
  induction width with
  | zero => rfl
  | succ width ih =>
      rw [bitsOf, bitsOf, ih (by omega), Nat.testBit_mod_two_pow,
        decide_eq_true (by omega : width < bound), Bool.true_and]

/-- A number is spelled by its high bits and then its low bits. -/
theorem bitsOf_add (high low value : Nat) :
    bitsOf (high + low) value
      = bitsOf high (value >>> low) ++ bitsOf low value := by
  induction high with
  | zero => rw [Nat.zero_add]; rfl
  | succ high ih =>
      rw [Nat.succ_add, bitsOf, bitsOf, ih, Nat.testBit_shiftRight,
        Nat.add_comm low high]
      rfl

theorem numberOf_append (first second : Bits) :
    numberOf (first ++ second)
      = numberOf first * 2 ^ second.length + numberOf second := by
  induction first with
  | nil => rw [List.nil_append, numberOf, Nat.zero_mul, Nat.zero_add]
  | cons bit first ih =>
      rw [List.cons_append, numberOf, numberOf, ih, List.length_append,
        Nat.pow_add]
      ring

/-- What is written is read back. -/
@[simp] theorem numberOf_bitsOf (width value : Nat) :
    numberOf (bitsOf width value) = value % 2 ^ width := by
  induction width with
  | zero => rw [bitsOf, numberOf, Nat.pow_zero, Nat.mod_one]
  | succ width ih =>
      rw [bitsOf, numberOf, ih, length_bitsOf, Nat.toNat_testBit, Nat.pow_succ,
        Nat.mod_mul]
      ring

/-- Bytes are read back from their bits. -/
theorem octets_bits (bytes : List UInt8) :
    octets bytes.length (bits bytes) = bytes := by
  induction bytes with
  | nil => rfl
  | cons byte bytes ih =>
      have hbyte : UInt8.ofNat (byte.toNat % 2 ^ 8) = byte := by
        rw [Nat.mod_eq_of_lt byte.toNat_lt, UInt8.ofNat_toNat]
      rw [List.length_cons, octets, bits_cons,
        List.take_left' (length_bitsOf 8 _), List.drop_left' (length_bitsOf 8 _),
        ih, numberOf_bitsOf, hbyte]

-- === functions and constants

def choose (x y z : Word) : Word := (x &&& y) ^^^ (~~~x &&& z)

def majority (x y z : Word) : Word := (x &&& y) ^^^ (x &&& z) ^^^ (y &&& z)

def bigSigma₀ (x : Word) : Word :=
  x.rotateRight 2 ^^^ x.rotateRight 13 ^^^ x.rotateRight 22

def bigSigma₁ (x : Word) : Word :=
  x.rotateRight 6 ^^^ x.rotateRight 11 ^^^ x.rotateRight 25

def smallSigma₀ (x : Word) : Word :=
  x.rotateRight 7 ^^^ x.rotateRight 18 ^^^ x >>> 3

def smallSigma₁ (x : Word) : Word :=
  x.rotateRight 17 ^^^ x.rotateRight 19 ^^^ x >>> 10

/-- The first sixty-four primes. -/
def primes : List Nat :=
  (List.range 312).filter fun n => 2 ≤ n ∧ ∀ d ∈ List.range n, 2 ≤ d → n % d ≠ 0

/-- The first thirty-two bits of the fraction of a root. -/
def fractionBits (degree prime : Nat) : Word :=
  BitVec.ofNat 32 (Nat.nthRoot degree (prime * 2 ^ (32 * degree)))

/-- The constants of the rounds, from the cube roots of the primes. -/
def roundConstants : List Word := primes.map (fractionBits 3)

-- === padding

/-- The zeros of the padding: with them and the one bit, a message is 64
bits short of full blocks. -/
def zeros (length : Nat) : Nat := (448 + 512 - (length + 1) % 512) % 512

/-- A message with its padding. -/
def pad (message : Bits) : Bits :=
  message ++ true :: (List.replicate (zeros message.length) false
    ++ bitsOf 64 message.length)

-- === hashing

/-- A hash value, and the working variables of a block. -/
structure Hash where
  a : Word
  b : Word
  c : Word
  d : Word
  e : Word
  f : Word
  g : Word
  h : Word

/-- The first hash value, from the square roots of the first primes. -/
def Hash.initial : Hash where
  a := fractionBits 2 2
  b := fractionBits 2 3
  c := fractionBits 2 5
  d := fractionBits 2 7
  e := fractionBits 2 11
  f := fractionBits 2 13
  g := fractionBits 2 17
  h := fractionBits 2 19

/-- A word of a block. -/
def word (block : Bits) (t : Nat) : Word :=
  BitVec.ofNat 32 (numberOf ((block.drop (32 * t)).take 32))

/-- The message schedule. -/
def schedule (block : Bits) (t : Nat) : Word :=
  if t < 16 then word block t
  else smallSigma₁ (schedule block (t - 2)) + schedule block (t - 7)
    + smallSigma₀ (schedule block (t - 15)) + schedule block (t - 16)

/-- One round. -/
def Hash.round (H : Hash) (constant word : Word) : Hash :=
  let temporary₁ := H.h + bigSigma₁ H.e + choose H.e H.f H.g + constant + word
  let temporary₂ := bigSigma₀ H.a + majority H.a H.b H.c
  { a := temporary₁ + temporary₂, b := H.a, c := H.b, d := H.c
    e := H.d + temporary₁, f := H.e, g := H.f, h := H.g }

/-- The working variables after so many rounds. -/
def Hash.rounds (H : Hash) (words : Nat → Word) : Nat → Hash
  | 0 => H
  | t + 1 => (H.rounds words t).round (roundConstants.getD t 0) (words t)

/-- The hash value after a block. -/
def Hash.compress (H : Hash) (block : Bits) : Hash :=
  let r := H.rounds (schedule block) 64
  { a := r.a + H.a, b := r.b + H.b, c := r.c + H.c, d := r.d + H.d
    e := r.e + H.e, f := r.f + H.f, g := r.g + H.g, h := r.h + H.h }

/-- The hash value after so many blocks of a padded message. -/
def chain (padded : Bits) : Nat → Hash
  | 0 => Hash.initial
  | i + 1 => (chain padded i).compress ((padded.drop (512 * i)).take 512)

def Hash.bits (H : Hash) : Bits :=
  bitsOf 32 H.a.toNat ++ bitsOf 32 H.b.toNat ++ bitsOf 32 H.c.toNat
    ++ bitsOf 32 H.d.toNat ++ bitsOf 32 H.e.toNat ++ bitsOf 32 H.f.toNat
    ++ bitsOf 32 H.g.toNat ++ bitsOf 32 H.h.toNat

/-- The digest of a message. -/
def digest (message : Bits) : Bits :=
  (chain (pad message) ((pad message).length / 512)).bits

/-- The digest of a message of bytes, as bytes. -/
def sha256 (message : List UInt8) : List UInt8 :=
  octets 32 (digest (bits message))

-- === keyed digests

/-- A keyed digest. A key longer than a block is hashed first, and zeros
fill the block up. -/
def hmac (hash : List UInt8 → List UInt8) (blockBytes : Nat)
    (key text : List UInt8) : List UInt8 :=
  let short := if key.length > blockBytes then hash key else key
  let block := short ++ List.replicate (blockBytes - short.length) 0
  hash (block.map (· ^^^ 0x5c) ++ hash (block.map (· ^^^ 0x36) ++ text))

end RbfSafe.Lib.Sha2
