/-
UTF-8 of text that mixes bytes with UTF-16 code units.

An escape of a code unit stands in a string next to bytes that are
already encoded. Two units that are a surrogate pair denote one code
point, which takes four bytes; encoded on their own they take three
each. So a transcoding that looks at pairs (`transcode`) and one that
does not (`flatMap Piece.bytes`) agree exactly on text without a pair,
and by length alone one sees that there was none.
-/
import Mathlib.Tactic

namespace RbfSafe.Lib.Utf

/-- UTF-8 of a code point. An unpaired surrogate is encoded as any other
code point of its size. -/
def utf8 (code : Nat) : List UInt8 :=
  if code < 0x80 then [.ofNat code]
  else if code < 0x800 then
    [.ofNat (0xc0 + code / 0x40), .ofNat (0x80 + code % 0x40)]
  else if code < 0x10000 then
    [.ofNat (0xe0 + code / 0x1000), .ofNat (0x80 + code / 0x40 % 0x40),
      .ofNat (0x80 + code % 0x40)]
  else
    [.ofNat (0xf0 + code / 0x40000), .ofNat (0x80 + code / 0x1000 % 0x40),
      .ofNat (0x80 + code / 0x40 % 0x40), .ofNat (0x80 + code % 0x40)]

/-- The first unit of a surrogate pair. -/
def isHigh (unit : Nat) : Bool := 0xd800 ≤ unit && unit < 0xdc00

/-- The second unit of a surrogate pair. -/
def isLow (unit : Nat) : Bool := 0xdc00 ≤ unit && unit < 0xe000

/-- The code point of a surrogate pair. -/
def pairCode (high low : Nat) : Nat :=
  0x10000 + (high - 0xd800) * 0x400 + (low - 0xdc00)

/-- A byte, or a code unit still to be encoded. -/
inductive Piece where
  | byte (b : UInt8)
  | unit (u : Nat)

/-- The encoding of a piece on its own. -/
def Piece.bytes : Piece → List UInt8
  | byte b => [b]
  | unit u => utf8 u

/-- The pieces that are a surrogate pair. -/
def Piece.isPair : Piece → Piece → Bool
  | unit high, unit low => isHigh high && isLow low
  | _, _ => false

/-- The encoding of a pair. -/
def Piece.pairBytes : Piece → Piece → List UInt8
  | unit high, unit low => utf8 (pairCode high low)
  | _, _ => []

/-- The encoding of a text, pair by pair. -/
def transcode : List Piece → List UInt8
  | [] => []
  | [piece] => piece.bytes
  | piece :: next :: rest =>
      if piece.isPair next then piece.pairBytes next ++ transcode rest
      else piece.bytes ++ transcode (next :: rest)

/-- A surrogate pair somewhere in a text. -/
def hasPair : List Piece → Bool
  | piece :: next :: rest => piece.isPair next || hasPair (next :: rest)
  | _ => false

/-- A pair takes four bytes in one and six one by one. -/
theorem length_pairBytes {piece next : Piece} (h : piece.isPair next = true) :
    (piece.pairBytes next).length = 4 ∧ piece.bytes.length = 3
      ∧ next.bytes.length = 3 := by
  cases piece with
  | byte b => cases next <;> cases h
  | unit high =>
      cases next with
      | byte b => cases h
      | unit low =>
          simp only [Piece.isPair, isHigh, isLow, Bool.and_eq_true,
            decide_eq_true_eq] at h
          have hcode : ¬pairCode high low < 0x10000 := by
            unfold pairCode
            omega
          refine ⟨?_, ?_, ?_⟩
          · simp only [Piece.pairBytes]
            unfold utf8
            rw [if_neg (by omega), if_neg (by omega), if_neg hcode]
            rfl
          · simp only [Piece.bytes]
            unfold utf8
            rw [if_neg (by omega), if_neg (by omega), if_pos (by omega)]
            rfl
          · simp only [Piece.bytes]
            unfold utf8
            rw [if_neg (by omega), if_neg (by omega), if_pos (by omega)]
            rfl

theorem transcode_of_not_hasPair : ∀ {text : List Piece},
    hasPair text = false → transcode text = text.flatMap Piece.bytes := by
  intro text
  fun_induction transcode text with
  | case1 => exact fun _ => rfl
  | case2 piece => simp
  | case3 piece next rest hpair ih =>
      intro h
      simp [hasPair, hpair] at h
  | case4 piece next rest hpair ih =>
      intro h
      simp only [hasPair, Bool.or_eq_false_iff] at h
      rw [ih h.2, ← List.flatMap_cons]

theorem length_transcode_le (text : List Piece) :
    (transcode text).length ≤ (text.flatMap Piece.bytes).length := by
  fun_induction transcode text with
  | case1 => exact Nat.le_refl _
  | case2 piece => simp
  | case3 piece next rest hpair ih =>
      obtain ⟨h, h', h''⟩ := length_pairBytes hpair
      simp only [List.flatMap_cons, List.length_append]
      omega
  | case4 piece next rest hpair ih =>
      simp only [List.flatMap_cons, List.length_append] at ih ⊢
      omega

theorem length_transcode_lt {text : List Piece} (h : hasPair text = true) :
    (transcode text).length < (text.flatMap Piece.bytes).length := by
  fun_induction transcode text with
  | case1 => cases h
  | case2 piece => cases h
  | case3 piece next rest hpair ih =>
      obtain ⟨h₁, h₂, h₃⟩ := length_pairBytes hpair
      have hle := length_transcode_le rest
      simp only [List.flatMap_cons, List.length_append]
      omega
  | case4 piece next rest hpair ih =>
      simp only [hasPair, hpair, Bool.false_or] at h
      have hlt := ih h
      simp only [List.flatMap_cons, List.length_append] at hlt ⊢
      omega

end RbfSafe.Lib.Utf
