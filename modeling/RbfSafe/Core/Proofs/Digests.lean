/-
The digests are the standard ones.

The code keeps eight words, a buffer and a byte count; the standard pads
a string of bits and chains a hash value over its blocks. The two meet in
the middle: what the code has pushed is a number of full blocks of the
padded message and the start of the next (`finish_update`), and over such
blocks the code's state is the chain of the standard (`blocks_chain`).
Below that each step is compared with its formula: a word of a block, the
schedule as a recurrence, one round, the constants.

The padding of the code is the standard's padding of the message's bits
for every length: the 64-bit length wraps in both alike, so that nothing
is asked of the length of a message.
-/
import RbfSafe.Lib.Sha2
import RbfSafe.Core.Hmac
import RbfSafe.Core.Proofs.Sha256

namespace RbfSafe

open Lib

-- === words

/-- The eight words as a hash value of the standard. -/
def Sha256State.hash (s : Sha256State) : Sha2.Hash where
  a := s.a.toBitVec
  b := s.b.toBitVec
  c := s.c.toBitVec
  d := s.d.toBitVec
  e := s.e.toBitVec
  f := s.f.toBitVec
  g := s.g.toBitVec
  h := s.h.toBitVec

/-- The constants of the code are the bits of the roots of the primes. -/
theorem roundConstants_eq :
    Sha2.roundConstants = kRoundConstants.map UInt32.toBitVec := by
  decide +kernel

theorem fractionBits_primes :
    [2, 3, 5, 7, 11, 13, 17, 19].map (Sha2.fractionBits 2)
      = [0x6a09e667, 0xbb67ae85, 0x3c6ef372, 0xa54ff53a, 0x510e527f, 0x9b05688c,
        0x1f83d9ab, 0x5be0cd19] := by
  decide +kernel

theorem hash_initial : ({} : Sha256).state.hash = Sha2.Hash.initial := by
  have h := fractionBits_primes
  simp only [List.map_cons, List.map_nil, List.cons.injEq] at h
  obtain ⟨h₂, h₃, h₅, h₇, h₁₁, h₁₃, h₁₇, h₁₉, -⟩ := h
  unfold Sha2.Hash.initial
  rw [h₂, h₃, h₅, h₇, h₁₁, h₁₃, h₁₇, h₁₉]
  rfl

/-- Bits that do not overlap are added. -/
theorem shiftLeft_or (high : Nat) {low width : Nat} (h : low < 2 ^ width) :
    (high <<< width) ||| low = high * 2 ^ width + low := by
  rw [← Nat.shiftLeft_add_eq_or_of_lt h, Nat.shiftLeft_eq]

/-- The word of four bytes is the number they spell. -/
theorem toNat_blockWord (b₀ b₁ b₂ b₃ : UInt8) :
    ((b₀.toUInt32 <<< 24) ||| (b₁.toUInt32 <<< 16) ||| (b₂.toUInt32 <<< 8)
        ||| b₃.toUInt32).toNat
      = ((b₀.toNat * 2 ^ 8 + b₁.toNat) * 2 ^ 8 + b₂.toNat) * 2 ^ 8
        + b₃.toNat := by
  have h₀ := b₀.toNat_lt
  have h₁ := b₁.toNat_lt
  have h₂ := b₂.toNat_lt
  have h₃ := b₃.toNat_lt
  have hshift : ∀ (b : UInt8) (n : UInt32), n.toNat < 32 →
      b.toNat <<< n.toNat < 2 ^ 32 →
      (b.toUInt32 <<< n).toNat = b.toNat <<< n.toNat := by
    intro b n hn hb
    rw [UInt32.toNat_shiftLeft, Nat.mod_eq_of_lt hn, UInt8.toNat_toUInt32,
      Nat.mod_eq_of_lt hb]
  have h24 := hshift b₀ 24 (by decide) (by
    rw [Nat.shiftLeft_eq]
    show b₀.toNat * 2 ^ 24 < 2 ^ 32
    omega)
  have h16 := hshift b₁ 16 (by decide) (by
    rw [Nat.shiftLeft_eq]
    show b₁.toNat * 2 ^ 16 < 2 ^ 32
    omega)
  have h8 := hshift b₂ 8 (by decide) (by
    rw [Nat.shiftLeft_eq]
    show b₂.toNat * 2 ^ 8 < 2 ^ 32
    omega)
  rw [UInt32.toNat_or, UInt32.toNat_or, UInt32.toNat_or, h24, h16, h8,
    UInt8.toNat_toUInt32]
  show b₀.toNat <<< (8 + 16) ||| b₁.toNat <<< 16 ||| b₂.toNat <<< 8 ||| b₃.toNat
    = _
  rw [Nat.shiftLeft_add, ← Nat.shiftLeft_or_distrib, shiftLeft_or _ h₁]
  rw [show (16 : Nat) = 8 + 8 from rfl, Nat.shiftLeft_add _ 8 8,
    ← Nat.shiftLeft_or_distrib, shiftLeft_or _ h₂, shiftLeft_or _ h₃]

/-- The words of a block of bytes are the words of its bits. -/
theorem word_bits (block : Bytes) : ∀ {t : Nat}, 4 * t + 4 ≤ block.length →
    Sha2.word (Sha2.bits block) t = ((blockWords block).getD t 0).toBitVec := by
  fun_induction blockWords block with
  | case1 b₀ b₁ b₂ b₃ rest ih =>
      intro t ht
      have hsplit : Sha2.bits (b₀ :: b₁ :: b₂ :: b₃ :: rest)
          = Sha2.bits [b₀, b₁, b₂, b₃] ++ Sha2.bits rest :=
        Sha2.bits_append [b₀, b₁, b₂, b₃] rest
      have hlength : (Sha2.bits [b₀, b₁, b₂, b₃]).length = 32 :=
        Sha2.length_bits _
      cases t with
      | zero =>
          apply BitVec.eq_of_toNat_eq
          have hvalue : Sha2.numberOf (Sha2.bits [b₀, b₁, b₂, b₃])
              = ((b₀.toNat * 2 ^ 8 + b₁.toNat) * 2 ^ 8 + b₂.toNat) * 2 ^ 8
                + b₃.toNat := by
            simp only [Sha2.bits, List.flatMap_cons, List.flatMap_nil,
              List.append_nil, Sha2.numberOf_append, Sha2.numberOf_bitsOf,
              List.length_append, Sha2.length_bitsOf,
              Nat.mod_eq_of_lt b₀.toNat_lt, Nat.mod_eq_of_lt b₁.toNat_lt,
              Nat.mod_eq_of_lt b₂.toNat_lt, Nat.mod_eq_of_lt b₃.toNat_lt]
            ring
          show (BitVec.ofNat 32 (Sha2.numberOf (List.take 32 (Sha2.bits _)))).toNat
            = UInt32.toNat _
          rw [hsplit, List.take_left' hlength, BitVec.toNat_ofNat, hvalue,
            List.getD_cons_zero, ← toNat_blockWord]
          exact Nat.mod_eq_of_lt (UInt32.toNat_lt _)
      | succ t =>
          have hrest := @ih t (by simp only [List.length_cons] at ht; omega)
          rw [List.getD_cons_succ, ← hrest, Sha2.word, Sha2.word, hsplit,
            Nat.mul_succ, Nat.add_comm, ← List.drop_drop,
            List.drop_left' hlength]
  | case2 bytes h =>
      intro t ht
      rcases bytes with _ | ⟨b₀, _ | ⟨b₁, _ | ⟨b₂, _ | ⟨b₃, rest⟩⟩⟩⟩
      · simp at ht
      · simp at ht
      · simp at ht
      · simp at ht
      · exact absurd rfl (h _ _ _ _ _)

-- === the schedule

/-- A word of the schedule of the standard. -/
def scheduleWord (block : Bytes) (t : Nat) : UInt32 :=
  UInt32.ofBitVec (Sha2.schedule (Sha2.bits block) t)

/-- The words of the block start the schedule. -/
theorem scheduleWord_block {block : Bytes} (hblock : block.length = 64)
    {t : Nat} (ht : t < 16) :
    scheduleWord block t = (blockWords block).getD t 0 := by
  unfold scheduleWord
  rw [Sha2.schedule, if_pos ht, word_bits block (by omega)]

/-- The recurrence of the schedule, in the order in which the code adds. -/
theorem scheduleWord_next (block : Bytes) {t : Nat} (ht : 16 ≤ t) :
    scheduleWord block t = scheduleWord block (t - 16)
      + (rotateRight (scheduleWord block (t - 15)) 7
        ^^^ rotateRight (scheduleWord block (t - 15)) 18
        ^^^ (scheduleWord block (t - 15) >>> 3))
      + scheduleWord block (t - 7)
      + (rotateRight (scheduleWord block (t - 2)) 17
        ^^^ rotateRight (scheduleWord block (t - 2)) 19
        ^^^ (scheduleWord block (t - 2) >>> 10)) := by
  apply UInt32.toBitVec_inj.mp
  have hschedule := Sha2.schedule.eq_1 (Sha2.bits block) t
  rw [if_neg (by omega)] at hschedule
  show Sha2.schedule (Sha2.bits block) t = Sha2.schedule (Sha2.bits block) (t - 16)
    + Sha2.smallSigma₀ (Sha2.schedule (Sha2.bits block) (t - 15))
    + Sha2.schedule (Sha2.bits block) (t - 7)
    + Sha2.smallSigma₁ (Sha2.schedule (Sha2.bits block) (t - 2))
  rw [hschedule]
  ac_rfl

/-- The schedule so far, latest word first. -/
def scheduled (block : Bytes) (count : Nat) : List UInt32 :=
  ((List.range count).map (scheduleWord block)).reverse

theorem scheduled_succ (block : Bytes) (count : Nat) :
    scheduled block (count + 1)
      = scheduleWord block count :: scheduled block count := by
  simp [scheduled, List.range_succ]

theorem getD_scheduled (block : Bytes) {count i : Nat} (h : i < count) :
    (scheduled block count).getD i 0 = scheduleWord block (count - 1 - i) := by
  unfold scheduled
  rw [List.getD_eq_getElem?_getD, List.getElem?_reverse (by simpa using h),
    List.length_map, List.length_range, List.getElem?_map,
    List.getElem?_range (by omega)]
  rfl

/-- Each step of the code adds the next word of the schedule. -/
theorem extendWords_scheduled (block : Bytes) (rounds : Nat) :
    ∀ {count : Nat}, 16 ≤ count →
      extendWords rounds (scheduled block count)
        = scheduled block (count + rounds) := by
  induction rounds with
  | zero => exact fun _ => rfl
  | succ rounds ih =>
      intro count h
      have hnext := scheduleWord_next block h
      rw [extendWords, getD_scheduled block (by omega), getD_scheduled block (by omega),
        getD_scheduled block (by omega), getD_scheduled block (by omega),
        show count - 1 - 15 = count - 16 by omega,
        show count - 1 - 14 = count - 15 by omega,
        show count - 1 - 6 = count - 7 by omega,
        show count - 1 - 1 = count - 2 by omega, ← hnext, ← scheduled_succ,
        ih (by omega), Nat.add_right_comm, Nat.add_assoc]

/-- The words that `transform` mixes are the schedule. -/
theorem extendWords_blockWords {block : Bytes} (hblock : block.length = 64) :
    (extendWords 48 (blockWords block).reverse).reverse
      = (List.range 64).map (scheduleWord block) := by
  have hlength : (blockWords block).length = 16 := by
    rw [length_blockWords, hblock]
  have hfirst : blockWords block = (List.range 16).map (scheduleWord block) := by
    apply List.ext_getElem?
    intro t
    by_cases ht : t < 16
    · rw [List.getElem?_map, List.getElem?_range ht, Option.map_some,
        scheduleWord_block hblock ht, List.getD_eq_getElem?_getD,
        List.getElem?_eq_getElem (hlength ▸ ht)]
      rfl
    · rw [List.getElem?_eq_none (by omega), List.getElem?_eq_none (by simpa using ht)]
  have hwords : (blockWords block).reverse = scheduled block 16 := by
    rw [hfirst]
    rfl
  rw [hwords, extendWords_scheduled block 48 (Nat.le_refl 16), scheduled,
    List.reverse_reverse]

-- === the blocks

/-- One round of the code is one round of the standard. -/
theorem hash_round (s : Sha256State) (constant word : UInt32) :
    (s.round constant word).hash
      = s.hash.round constant.toBitVec word.toBitVec := rfl

/-- The rounds of the code, over the first words of the schedule. -/
theorem hash_rounds (s : Sha256State) (block : Bytes) {count : Nat}
    (h : count ≤ 64) :
    (((kRoundConstants.zip ((List.range 64).map (scheduleWord block))).take
        count).foldl (fun r w => r.round w.1 w.2) s).hash
      = s.hash.rounds (Sha2.schedule (Sha2.bits block)) count := by
  induction count with
  | zero => rfl
  | succ count ih =>
      have hconstant : count < kRoundConstants.length := h
      have hentry : (kRoundConstants.zip
          ((List.range 64).map (scheduleWord block)))[count]?
            = some (kRoundConstants.getD count 0, scheduleWord block count) := by
        rw [List.getElem?_zip_eq_some, List.getElem?_map,
          List.getElem?_range (by omega), List.getD_eq_getElem?_getD,
          List.getElem?_eq_getElem hconstant]
        exact ⟨rfl, rfl⟩
      rw [List.take_add_one, hentry, List.foldl_append, Option.toList_some,
        List.foldl_cons, List.foldl_nil, hash_round, ih (by omega),
        Sha2.Hash.rounds, roundConstants_eq, List.getD_eq_getElem?_getD,
        List.getD_eq_getElem?_getD, List.getElem?_map,
        List.getElem?_eq_getElem hconstant]
      rfl

/-- The mixing of a block is the compression of its bits. -/
theorem hash_transform (s : Sha256State) {block : Bytes}
    (hblock : block.length = 64) :
    (s.transform block).hash = s.hash.compress (Sha2.bits block) := by
  have hrounds := hash_rounds s block (Nat.le_refl 64)
  rw [List.take_of_length_le (by rw [List.length_zip]; exact Nat.min_le_left _ _)]
    at hrounds
  unfold Sha256State.transform Sha2.Hash.compress
  dsimp only
  rw [extendWords_blockWords hblock, ← hrounds]
  simp only [Sha256State.hash, UInt32.toBitVec_add, Sha2.Hash.mk.injEq]
  exact ⟨BitVec.add_comm _ _, BitVec.add_comm _ _, BitVec.add_comm _ _,
    BitVec.add_comm _ _, BitVec.add_comm _ _, BitVec.add_comm _ _,
    BitVec.add_comm _ _, BitVec.add_comm _ _⟩

/-- Over the blocks of a message the code's state is the chain of the
standard. -/
theorem blocks_chain (message : Bytes) : ∀ {n : Nat}, 64 * n ≤ message.length →
    (({} : Sha256).state.blocks n message).hash
      = Sha2.chain (Sha2.bits message) n := by
  intro n
  induction n with
  | zero => exact fun _ => hash_initial
  | succ n ih =>
      intro h
      have hblock : ((message.drop (64 * n)).take 64).length = 64 := by
        rw [List.length_take, List.length_drop]
        omega
      have hbits : Sha2.bits ((message.drop (64 * n)).take 64)
          = ((Sha2.bits message).drop (512 * n)).take 512 := by
        rw [← Sha2.take_bits, ← Sha2.drop_bits, ← Nat.mul_assoc]
      rw [Sha256State.blocks_add, Sha256State.blocks, Sha256State.blocks,
        hash_transform _ hblock, ih (by omega), Sha2.chain, hbits]

-- === the padding

theorem bits_zeros (count : Nat) :
    Sha2.bits (List.replicate count 0) = List.replicate (8 * count) false := by
  induction count with
  | zero => rfl
  | succ count ih =>
      rw [List.replicate_succ, Sha2.bits_cons, ih, Nat.mul_succ, Nat.add_comm,
        List.replicate_add]
      rfl

/-- The bytes of the length spell it. -/
theorem bits_lengthBytes (bits : UInt64) :
    Sha2.bits (lengthBytes bits) = Sha2.bitsOf 64 bits.toNat := by
  have hbyte : ∀ n : UInt64, n.toNat < 64 →
      Sha2.bitsOf 8 (bits >>> n).toUInt8.toNat
        = Sha2.bitsOf 8 (bits.toNat >>> n.toNat) := by
    intro n hn
    rw [UInt64.toNat_toUInt8, UInt64.toNat_shiftRight, Nat.mod_eq_of_lt hn]
    exact Sha2.bitsOf_mod (Nat.le_refl 8) _
  have hlast : Sha2.bitsOf 8 bits.toUInt8.toNat = Sha2.bitsOf 8 bits.toNat := by
    rw [UInt64.toNat_toUInt8]
    exact Sha2.bitsOf_mod (Nat.le_refl 8) _
  have hsplit := fun low => Sha2.bitsOf_add 8 low bits.toNat
  rw [hsplit 56, hsplit 48, hsplit 40, hsplit 32, hsplit 24, hsplit 16, hsplit 8,
    ← hlast]
  simp only [Sha2.bits, lengthBytes, List.flatMap_cons, List.flatMap_nil,
    List.append_nil]
  rw [hbyte 56 (by decide), hbyte 48 (by decide), hbyte 40 (by decide),
    hbyte 32 (by decide), hbyte 24 (by decide), hbyte 16 (by decide),
    hbyte 8 (by decide)]
  rfl

/-- The padding of the code is the padding of the standard. -/
theorem bits_padMessage (text : Bytes) :
    Sha2.bits (padMessage text) = Sha2.pad (Sha2.bits text) := by
  have hlength : Sha2.bitsOf 64 (UInt64.ofNat text.length * 8).toNat
      = Sha2.bitsOf 64 (8 * text.length) := by
    rw [← Sha2.bitsOf_mod (Nat.le_refl 64) (8 * text.length), UInt64.toNat_mul,
      UInt64.toNat_ofNat', Nat.mul_comm 8]
    congr 1
    exact Nat.mod_mul_mod _ _ _
  have hzeros : Sha2.zeros (8 * text.length)
      = 7 + 8 * ((119 - text.length % 64) % 64) := by
    unfold Sha2.zeros
    omega
  rw [padMessage, Sha2.bits_append, List.cons_append, Sha2.bits_cons,
    Sha2.bits_append, bits_zeros, bits_lengthBytes, hlength, Sha2.pad,
    Sha2.length_bits, hzeros, List.replicate_add, List.append_assoc]
  rfl

-- === the digests

/-- The bytes of a word spell it. -/
theorem bits_wordBytes (w : UInt32) :
    Sha2.bits (wordBytes w) = Sha2.bitsOf 32 w.toNat := by
  have hbyte : ∀ n : UInt32, n.toNat < 32 →
      Sha2.bitsOf 8 (w >>> n).toUInt8.toNat
        = Sha2.bitsOf 8 (w.toNat >>> n.toNat) := by
    intro n hn
    rw [UInt32.toNat_toUInt8, UInt32.toNat_shiftRight, Nat.mod_eq_of_lt hn]
    exact Sha2.bitsOf_mod (Nat.le_refl 8) _
  have hlast : Sha2.bitsOf 8 w.toUInt8.toNat = Sha2.bitsOf 8 w.toNat := by
    rw [UInt32.toNat_toUInt8]
    exact Sha2.bitsOf_mod (Nat.le_refl 8) _
  have hsplit := fun low => Sha2.bitsOf_add 8 low w.toNat
  rw [hsplit 24, hsplit 16, hsplit 8, ← hlast]
  simp only [Sha2.bits, wordBytes, List.flatMap_cons, List.flatMap_nil,
    List.append_nil]
  rw [hbyte 24 (by decide), hbyte 16 (by decide), hbyte 8 (by decide)]
  rfl

theorem bits_stateBytes (s : Sha256State) :
    Sha2.bits s.bytes = s.hash.bits := by
  simp only [Sha256State.bytes, Sha2.bits_append, bits_wordBytes]
  rfl

theorem length_stateBytes (s : Sha256State) : s.bytes.length = 32 := by
  simp [Sha256State.bytes, wordBytes]

/-- A message pushed at once is hashed as the standard says. -/
theorem finish_eq (text : Bytes) :
    (Sha256.update {} text).finish = Sha2.sha256 text := by
  have hlength : (Sha2.bits (padMessage text)).length / 512
      = (padMessage text).length / 64 := by
    rw [Sha2.length_bits]
    omega
  have hchain := blocks_chain (padMessage text)
    (Nat.mul_div_le (padMessage text).length 64)
  rw [finish_update, Sha2.sha256, Sha2.digest, ← bits_padMessage, hlength,
    ← hchain, ← bits_stateBytes, ← length_stateBytes, Sha2.octets_bits]

/-- Chunks are pushed as what they make up. -/
theorem foldl_update (chunks : List Bytes) (s : Sha256) :
    chunks.foldl Sha256.update s = s.update chunks.flatten := by
  induction chunks generalizing s with
  | nil => rfl
  | cons chunk chunks ih =>
      rw [List.foldl_cons, ih, List.flatten_cons]
      exact List.foldl_append.symm

/-- The reads of a file push its content. -/
theorem hashReads_eq (s : Sha256) (rest : Bytes) :
    hashReads s rest = s.update rest := by
  fun_induction hashReads s rest with
  | case1 s rest hshort hsome => rfl
  | case2 s rest hshort hnone =>
      have hempty : rest = [] := List.length_eq_zero_iff.mp (by omega)
      rw [hempty]
      rfl
  | case3 s rest hlong ih =>
      have hboth : (rest.take kFileBufferBytes
          ++ rest.drop kFileBufferBytes).foldl Sha256.push s
            = (s.update (rest.take kFileBufferBytes)).update
              (rest.drop kFileBufferBytes) := List.foldl_append
      rw [List.take_append_drop] at hboth
      rw [ih, ← hboth]
      rfl

/-- SHA-256 and HMAC are the standard functions, however a message is cut
into chunks, whether it is a text, bytes or the content of a file, and
for keys of every length. -/
theorem digests_standard (chunks : List Bytes) (content path key
    message : Bytes) :
    (chunks.foldl Sha256.update {}).finish = Sha2.sha256 chunks.flatten
      ∧ sha256 content = encodeHex (Sha2.sha256 content)
      ∧ sha256File path (some ⟨content, false⟩) = .ok (sha256 content)
      ∧ hmacSha256 key message
        = encodeHex (Sha2.hmac Sha2.sha256 64 key message) := by
  refine ⟨?_, ?_, ?_, ?_⟩
  · rw [foldl_update, finish_eq]
  · rw [sha256, finish_eq]
  · show Except.ok (encodeHex (hashReads {} content).finish) = _
    rw [hashReads_eq]
    rfl
  · have hpads : ∀ first second : Bytes,
        ((Sha256.update {} first).update second).finish
          = Sha2.sha256 (first ++ second) := by
      intro first second
      rw [← finish_eq]
      exact congrArg Sha256.finish List.foldl_append.symm
    have hkey : hmacKeyBlock key
        = (if key.length > 64 then Sha2.sha256 key else key)
          ++ List.replicate (64
            - (if key.length > 64 then Sha2.sha256 key else key).length) 0 := by
      unfold hmacKeyBlock kHmacBlockBytes
      by_cases hlong : key.length > 64
      · rw [if_pos hlong, if_pos hlong, finish_eq]
      · rw [if_neg hlong, if_neg hlong]
    unfold hmacSha256 Sha2.hmac
    dsimp only
    rw [hpads, hpads, hkey]

end RbfSafe
