/-
`internal/binary.h`: little-endian words, bit patterns of doubles and
strings behind their length.

A writer is the bytes it has written; a reader is a function of the
bytes that remain. Each reading lemma says at once what is read back
and what was there: a value is read exactly where its own bytes stand.
-/
import RbfSafe.Core.Double

namespace RbfSafe

-- === writing

/-- `BinaryWriter::u8`. -/
def writeU8 (value : UInt8) : Bytes := [value]

/-- `BinaryWriter::u32`: shifts 0, 8, 16 and 24. -/
def writeU32 (value : UInt32) : Bytes :=
  [value.toUInt8, (value >>> 8).toUInt8, (value >>> 16).toUInt8,
    (value >>> 24).toUInt8]

/-- `BinaryWriter::u64`: shifts 0, 8 up to 56. -/
def writeU64 (value : UInt64) : Bytes :=
  [value.toUInt8, (value >>> 8).toUInt8, (value >>> 16).toUInt8,
    (value >>> 24).toUInt8, (value >>> 32).toUInt8, (value >>> 40).toUInt8,
    (value >>> 48).toUInt8, (value >>> 56).toUInt8]

/-- `BinaryWriter::f64`. -/
def writeF64 (value : Float) : Bytes := writeU64 value.toBits

/-- `BinaryWriter::string`: the length is cast to 32 bits. -/
def writeString (value : Bytes) : Bytes :=
  writeU32 (UInt32.ofNat value.length) ++ value

-- === reading

/-- `BinaryReader`: the bytes from `position_` on. -/
abbrev BinaryReader := StateT Bytes (Except Error)

/-- A check of the caller that does not pass. -/
def BinaryReader.fail {α : Type} (code : StatusCode) (message : String) :
    BinaryReader α := fun _ => failure code message

/-- `BinaryReader::u8`. -/
def readU8 : BinaryReader UInt8 := fun data =>
  match data with
  | b :: rest => .ok (b, rest)
  | _ => failure .corruptData "truncated binary payload" (ascii "u8")

/-- `BinaryReader::u32`. -/
def readU32 : BinaryReader UInt32 := fun data =>
  match data with
  | b0 :: b1 :: b2 :: b3 :: rest =>
      .ok (b0.toUInt32 ||| (b1.toUInt32 <<< 8) ||| (b2.toUInt32 <<< 16)
        ||| (b3.toUInt32 <<< 24), rest)
  | _ => failure .corruptData "truncated binary payload" (ascii "u32")

/-- `BinaryReader::u64`. -/
def readU64 : BinaryReader UInt64 := fun data =>
  match data with
  | b0 :: b1 :: b2 :: b3 :: b4 :: b5 :: b6 :: b7 :: rest =>
      .ok (b0.toUInt64 ||| (b1.toUInt64 <<< 8) ||| (b2.toUInt64 <<< 16)
        ||| (b3.toUInt64 <<< 24) ||| (b4.toUInt64 <<< 32)
        ||| (b5.toUInt64 <<< 40) ||| (b6.toUInt64 <<< 48)
        ||| (b7.toUInt64 <<< 56), rest)
  | _ => failure .corruptData "truncated binary payload" (ascii "u64")

/-- `BinaryReader::f64`. -/
def readF64 : BinaryReader Float := do
  let bits ← readU64
  pure (Float.ofBits bits)

/-- `BinaryReader::fixed_text`. -/
def readFixedText (count : Nat) : BinaryReader Bytes := fun data =>
  if data.length < count then
    failure .corruptData "truncated binary string"
  else .ok (data.take count, data.drop count)

/-- `BinaryReader::string`. -/
def readString (maximum : Nat) : BinaryReader Bytes := do
  let length ← readU32
  if length.toNat > maximum then
    BinaryReader.fail .resourceLimit "binary string exceeds limit"
  else readFixedText length.toNat

-- === what is read is there

theorem reader_bind_eq_ok {α β : Type} {read : BinaryReader α}
    {next : α → BinaryReader β} {data : Bytes} {r : β × Bytes} :
    (read >>= next) data = .ok r
      ↔ ∃ a rest, read data = .ok (a, rest) ∧ next a rest = .ok r := by
  have hbind : (read >>= next) data
      = (read data >>= fun p => next p.1 p.2 : Result (β × Bytes)) := rfl
  rw [hbind, bind_eq_ok]
  constructor
  · rintro ⟨⟨a, rest⟩, h, h'⟩
    exact ⟨a, rest, h, h'⟩
  · rintro ⟨a, rest, h, h'⟩
    exact ⟨(a, rest), h, h'⟩

theorem reader_pure_eq_ok {α : Type} {a b : α} {data rest : Bytes} :
    (pure a : BinaryReader α) data = .ok (b, rest) ↔ a = b ∧ data = rest := by
  have hpure : (pure a : BinaryReader α) data = .ok (a, data) := rfl
  rw [hpure, Except.ok.injEq, Prod.mk.injEq]

theorem reader_check_eq_ok {α : Type} {c : Prop} [Decidable c]
    {code : StatusCode} {message : String} {next : BinaryReader α}
    {data : Bytes} {r : α × Bytes} :
    (if c then BinaryReader.fail code message else next) data = .ok r
      ↔ ¬c ∧ next data = .ok r := by
  by_cases hc : c
  · rw [if_pos hc]
    constructor
    · intro h
      exact absurd h (failure_ne_ok _ _ _ _)
    · intro h
      exact absurd hc h.1
  · rw [if_neg hc]
    exact ⟨fun h => ⟨hc, h⟩, fun h => h.2⟩

theorem readU8_eq_ok {data rest : Bytes} {value : UInt8} :
    readU8 data = .ok (value, rest) ↔ data = writeU8 value ++ rest := by
  unfold readU8 writeU8
  cases data with
  | nil => simp
  | cons b data => simp

/-- A word of four bytes is put together from them. -/
theorem u32_bytes (v : UInt32) :
    v.toUInt8.toUInt32 ||| ((v >>> 8).toUInt8.toUInt32 <<< 8)
      ||| ((v >>> 16).toUInt8.toUInt32 <<< 16)
      ||| ((v >>> 24).toUInt8.toUInt32 <<< 24) = v := by
  apply UInt32.toBitVec_inj.mp
  ext i hi
  simp [-UInt32.toUInt32_toUInt8]
  have hbyte : i < 8 ∨ (8 ≤ i ∧ i < 16) ∨ (16 ≤ i ∧ i < 24) ∨ 24 ≤ i := by
    omega
  rcases hbyte with h | h | h | h
  all_goals grind

theorem writeU32_bytes (b0 b1 b2 b3 : UInt8) :
    writeU32 (b0.toUInt32 ||| (b1.toUInt32 <<< 8) ||| (b2.toUInt32 <<< 16)
      ||| (b3.toUInt32 <<< 24)) = [b0, b1, b2, b3] := by
  unfold writeU32
  simp only [List.cons.injEq, and_true]
  refine ⟨?_, ?_, ?_, ?_⟩
  all_goals
    apply UInt8.toBitVec_inj.mp
    ext i hi
    simp
    try grind

theorem readU32_writeU32 (value : UInt32) (rest : Bytes) :
    readU32 (writeU32 value ++ rest) = .ok (value, rest) := by
  change Except.ok (_, rest) = Except.ok (value, rest)
  rw [u32_bytes]

theorem readU32_eq_ok {data rest : Bytes} {value : UInt32} :
    readU32 data = .ok (value, rest) ↔ data = writeU32 value ++ rest := by
  constructor
  · intro h
    match data with
    | b0 :: b1 :: b2 :: b3 :: tail =>
        simp only [readU32, Except.ok.injEq, Prod.mk.injEq] at h
        obtain ⟨rfl, rfl⟩ := h
        rw [writeU32_bytes]
        rfl
    | [] => cases h
    | [_] => cases h
    | [_, _] => cases h
    | [_, _, _] => cases h
  · rintro rfl
    exact readU32_writeU32 value rest

/-- A word of eight bytes is put together from them. -/
theorem u64_bytes (v : UInt64) :
    v.toUInt8.toUInt64 ||| ((v >>> 8).toUInt8.toUInt64 <<< 8)
      ||| ((v >>> 16).toUInt8.toUInt64 <<< 16)
      ||| ((v >>> 24).toUInt8.toUInt64 <<< 24)
      ||| ((v >>> 32).toUInt8.toUInt64 <<< 32)
      ||| ((v >>> 40).toUInt8.toUInt64 <<< 40)
      ||| ((v >>> 48).toUInt8.toUInt64 <<< 48)
      ||| ((v >>> 56).toUInt8.toUInt64 <<< 56) = v := by
  apply UInt64.toBitVec_inj.mp
  ext i hi
  simp [-UInt64.toUInt64_toUInt8]
  have hbyte : i < 8 ∨ (8 ≤ i ∧ i < 16) ∨ (16 ≤ i ∧ i < 24)
      ∨ (24 ≤ i ∧ i < 32) ∨ (32 ≤ i ∧ i < 40) ∨ (40 ≤ i ∧ i < 48)
      ∨ (48 ≤ i ∧ i < 56) ∨ 56 ≤ i := by
    omega
  rcases hbyte with h | h | h | h | h | h | h | h
  all_goals grind

theorem writeU64_bytes (b0 b1 b2 b3 b4 b5 b6 b7 : UInt8) :
    writeU64 (b0.toUInt64 ||| (b1.toUInt64 <<< 8) ||| (b2.toUInt64 <<< 16)
      ||| (b3.toUInt64 <<< 24) ||| (b4.toUInt64 <<< 32)
      ||| (b5.toUInt64 <<< 40) ||| (b6.toUInt64 <<< 48)
      ||| (b7.toUInt64 <<< 56)) = [b0, b1, b2, b3, b4, b5, b6, b7] := by
  unfold writeU64
  simp only [List.cons.injEq, and_true]
  refine ⟨?_, ?_, ?_, ?_, ?_, ?_, ?_, ?_⟩
  all_goals
    apply UInt8.toBitVec_inj.mp
    ext i hi
    simp
    try grind

theorem readU64_writeU64 (value : UInt64) (rest : Bytes) :
    readU64 (writeU64 value ++ rest) = .ok (value, rest) := by
  change Except.ok (_, rest) = Except.ok (value, rest)
  rw [u64_bytes]

theorem readU64_eq_ok {data rest : Bytes} {value : UInt64} :
    readU64 data = .ok (value, rest) ↔ data = writeU64 value ++ rest := by
  constructor
  · intro h
    match data with
    | b0 :: b1 :: b2 :: b3 :: b4 :: b5 :: b6 :: b7 :: tail =>
        simp only [readU64, Except.ok.injEq, Prod.mk.injEq] at h
        obtain ⟨rfl, rfl⟩ := h
        rw [writeU64_bytes]
        rfl
    | [] => cases h
    | [_] => cases h
    | [_, _] => cases h
    | [_, _, _] => cases h
    | [_, _, _, _] => cases h
    | [_, _, _, _, _] => cases h
    | [_, _, _, _, _, _] => cases h
    | [_, _, _, _, _, _, _] => cases h
  · rintro rfl
    exact readU64_writeU64 value rest

/-- A finite double is read exactly where its own pattern stands. -/
theorem readF64_eq_ok {data rest : Bytes} {value : Float}
    (hfinite : Scalar.isFinite value = true) :
    readF64 data = .ok (value, rest) ↔ data = writeF64 value ++ rest := by
  unfold readF64
  rw [reader_bind_eq_ok]
  constructor
  · rintro ⟨bits, tail, hbits, hvalue⟩
    rw [readU64_eq_ok] at hbits
    rw [reader_pure_eq_ok] at hvalue
    obtain ⟨rfl, rfl⟩ := hvalue
    rw [hbits, writeF64, toBits_ofBits hfinite]
  · intro h
    refine ⟨value.toBits, rest, readU64_eq_ok.mpr h, ?_⟩
    rw [reader_pure_eq_ok]
    exact ⟨ofBits_toBits hfinite, rfl⟩

theorem readFixedText_eq_ok {count : Nat} {data rest value : Bytes} :
    readFixedText count data = .ok (value, rest)
      ↔ value.length = count ∧ data = value ++ rest := by
  unfold readFixedText
  rw [ite_failure_eq_ok, Except.ok.injEq, Prod.mk.injEq]
  constructor
  · rintro ⟨hlen, rfl, rfl⟩
    refine ⟨?_, (List.take_append_drop count data).symm⟩
    rw [List.length_take]
    omega
  · rintro ⟨rfl, rfl⟩
    refine ⟨?_, List.take_left, List.drop_left⟩
    rw [List.length_append]
    omega

/-- A string within the limit is read exactly where it was written. -/
theorem readString_eq_ok {maximum : Nat} (hmaximum : maximum < 2 ^ 32)
    {data rest value : Bytes} :
    readString maximum data = .ok (value, rest)
      ↔ value.length ≤ maximum ∧ data = writeString value ++ rest := by
  unfold readString writeString
  rw [reader_bind_eq_ok]
  constructor
  · rintro ⟨length, tail, hlength, hvalue⟩
    rw [readU32_eq_ok] at hlength
    rw [reader_check_eq_ok, readFixedText_eq_ok] at hvalue
    obtain ⟨hle, hsize, rfl⟩ := hvalue
    refine ⟨by omega, ?_⟩
    rw [hsize, UInt32.ofNat_toNat, hlength, List.append_assoc]
  · rintro ⟨hle, rfl⟩
    have hsize : (UInt32.ofNat value.length).toNat = value.length :=
      UInt32.toNat_ofNat_of_lt' (by simpa [UInt32.size] using by omega)
    refine ⟨UInt32.ofNat value.length, value ++ rest, ?_, ?_⟩
    · rw [readU32_eq_ok, List.append_assoc]
    · rw [reader_check_eq_ok, readFixedText_eq_ok, hsize]
      exact ⟨by omega, rfl, rfl⟩

end RbfSafe
