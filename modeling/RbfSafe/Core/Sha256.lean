/-
SHA-256 as the repository computes it: bytes are pushed into a buffer of
one block, a full block is mixed into the state, and finishing pads with
the bit length.

Only `validSha256_sha256` is used elsewhere: a digest is printed as 64
lowercase hexadecimal digits, which is all that the rest of the program
asks of a digest function.
-/
import RbfSafe.Core.Bytes

namespace RbfSafe

/-- `kRoundConstants`. -/
def kRoundConstants : List UInt32 := [
  0x428a2f98, 0x71374491, 0xb5c0fbcf, 0xe9b5dba5, 0x3956c25b, 0x59f111f1,
  0x923f82a4, 0xab1c5ed5, 0xd807aa98, 0x12835b01, 0x243185be, 0x550c7dc3,
  0x72be5d74, 0x80deb1fe, 0x9bdc06a7, 0xc19bf174, 0xe49b69c1, 0xefbe4786,
  0x0fc19dc6, 0x240ca1cc, 0x2de92c6f, 0x4a7484aa, 0x5cb0a9dc, 0x76f988da,
  0x983e5152, 0xa831c66d, 0xb00327c8, 0xbf597fc7, 0xc6e00bf3, 0xd5a79147,
  0x06ca6351, 0x14292967, 0x27b70a85, 0x2e1b2138, 0x4d2c6dfc, 0x53380d13,
  0x650a7354, 0x766a0abb, 0x81c2c92e, 0x92722c85, 0xa2bfe8a1, 0xa81a664b,
  0xc24b8b70, 0xc76c51a3, 0xd192e819, 0xd6990624, 0xf40e3585, 0x106aa070,
  0x19a4c116, 0x1e376c08, 0x2748774c, 0x34b0bcb5, 0x391c0cb3, 0x4ed8aa4a,
  0x5b9cca4f, 0x682e6ff3, 0x748f82ee, 0x78a5636f, 0x84c87814, 0x8cc70208,
  0x90befffa, 0xa4506ceb, 0xbef9a3f7, 0xc67178f2]

/-- `rotate_right`. -/
def rotateRight (value count : UInt32) : UInt32 :=
  (value >>> count) ||| (value <<< (32 - count))

/-- The eight words of `state_`, and the variables `a` to `h`. -/
structure Sha256State where
  a : UInt32
  b : UInt32
  c : UInt32
  d : UInt32
  e : UInt32
  f : UInt32
  g : UInt32
  h : UInt32

/-- The first sixteen words of a block, big-endian. -/
def blockWords : Bytes → List UInt32
  | b₀ :: b₁ :: b₂ :: b₃ :: rest =>
      ((b₀.toUInt32 <<< 24) ||| (b₁.toUInt32 <<< 16) ||| (b₂.toUInt32 <<< 8)
        ||| b₃.toUInt32) :: blockWords rest
  | _ => []

/-- The message schedule, latest word first: `rounds` more words. -/
def extendWords : Nat → List UInt32 → List UInt32
  | 0, words => words
  | rounds + 1, words =>
      let w₁₅ := words.getD 14 0
      let w₂ := words.getD 1 0
      let s₀ := rotateRight w₁₅ 7 ^^^ rotateRight w₁₅ 18 ^^^ (w₁₅ >>> 3)
      let s₁ := rotateRight w₂ 17 ^^^ rotateRight w₂ 19 ^^^ (w₂ >>> 10)
      extendWords rounds
        ((words.getD 15 0 + s₀ + words.getD 6 0 + s₁) :: words)

/-- One round of `Sha256::transform`. -/
def Sha256State.round (s : Sha256State) (constant word : UInt32) :
    Sha256State :=
  let sum₁ := rotateRight s.e 6 ^^^ rotateRight s.e 11 ^^^ rotateRight s.e 25
  let choose := (s.e &&& s.f) ^^^ ((~~~s.e) &&& s.g)
  let temporary₁ := s.h + sum₁ + choose + constant + word
  let sum₀ := rotateRight s.a 2 ^^^ rotateRight s.a 13 ^^^ rotateRight s.a 22
  let majority := (s.a &&& s.b) ^^^ (s.a &&& s.c) ^^^ (s.b &&& s.c)
  let temporary₂ := sum₀ + majority
  { a := temporary₁ + temporary₂
    b := s.a
    c := s.b
    d := s.c
    e := s.d + temporary₁
    f := s.e
    g := s.f
    h := s.g }

/-- `Sha256::transform`. -/
def Sha256State.transform (s : Sha256State) (block : Bytes) : Sha256State :=
  let words := (extendWords 48 (blockWords block).reverse).reverse
  let r := (kRoundConstants.zip words).foldl (fun r w => r.round w.1 w.2) s
  { a := s.a + r.a
    b := s.b + r.b
    c := s.c + r.c
    d := s.d + r.d
    e := s.e + r.e
    f := s.f + r.f
    g := s.g + r.g
    h := s.h + r.h }

/-- `class Sha256`. The used part of `buffer_` is the list itself. -/
structure Sha256 where
  state : Sha256State :=
    { a := 0x6a09e667, b := 0xbb67ae85, c := 0x3c6ef372, d := 0xa54ff53a
      e := 0x510e527f, f := 0x9b05688c, g := 0x1f83d9ab, h := 0x5be0cd19 }
  buffer : Bytes := []
  byteCount : UInt64 := 0

/-- One byte of `Sha256::update`. -/
def Sha256.push (s : Sha256) (byte : UInt8) : Sha256 :=
  let buffer := s.buffer ++ [byte]
  if buffer.length = 64 then
    { state := s.state.transform buffer
      buffer := []
      byteCount := s.byteCount + 1 }
  else { s with buffer := buffer, byteCount := s.byteCount + 1 }

/-- `Sha256::update`. -/
def Sha256.update (s : Sha256) (input : Bytes) : Sha256 :=
  input.foldl Sha256.push s

/-- The bytes of a word, big-endian. -/
def wordBytes (w : UInt32) : Bytes :=
  [(w >>> 24).toUInt8, (w >>> 16).toUInt8, (w >>> 8).toUInt8, w.toUInt8]

/-- The bit length, big-endian. -/
def lengthBytes (bits : UInt64) : Bytes :=
  [(bits >>> 56).toUInt8, (bits >>> 48).toUInt8, (bits >>> 40).toUInt8,
    (bits >>> 32).toUInt8, (bits >>> 24).toUInt8, (bits >>> 16).toUInt8,
    (bits >>> 8).toUInt8, bits.toUInt8]

/-- `Sha256::finish`. -/
def Sha256.finish (s : Sha256) : Bytes :=
  let bitCount := s.byteCount * 8
  let buffer := s.buffer ++ [0x80]
  let (state, buffer) :=
    if buffer.length > 56 then
      (s.state.transform (buffer ++ List.replicate (64 - buffer.length) 0), [])
    else (s.state, buffer)
  let r := state.transform
    (buffer ++ List.replicate (56 - buffer.length) 0 ++ lengthBytes bitCount)
  wordBytes r.a ++ wordBytes r.b ++ wordBytes r.c ++ wordBytes r.d
    ++ wordBytes r.e ++ wordBytes r.f ++ wordBytes r.g ++ wordBytes r.h

/-- `sha256`; `hex_digest` prints as `encode_hex` does. -/
def sha256 (text : Bytes) : Bytes :=
  encodeHex (Sha256.update {} text).finish

theorem length_finish (s : Sha256) : s.finish.length = 32 := by
  simp [Sha256.finish, wordBytes]

/-- A digest is 64 lowercase hexadecimal digits. -/
theorem validSha256_sha256 (text : Bytes) : validSha256 (sha256 text) = true := by
  simp [validSha256, sha256, length_encodeHex, length_finish,
    all_isLowerHex_encodeHex]

example : sha256 (ascii "abc") = ascii
    "ba7816bf8f01cfea414140de5dae2223b00361a396177a9cb410ff61f20015ad" := by
  decide +kernel

end RbfSafe
