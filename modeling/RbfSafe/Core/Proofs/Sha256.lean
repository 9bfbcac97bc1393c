/-
A digest that is evaluated in a few steps.

The digest of a sample document is evaluated by the kernel, which does
the arithmetic of natural numbers itself but unfolds everything else.
`quickSha256` is the same function over natural numbers: the message is
padded first, a block is sixteen words, and the schedule is a window of
sixteen words that moves along with the rounds, so that no word is ever
looked up. `sha256_eq` says that the two agree, and `host_eq` that a
platform may be evaluated with either.
-/
import RbfSafe.Core.Host

namespace RbfSafe

-- === words as numbers

/-- A rotation to the right, with the distance to the left that the other
bits go. -/
def rotateNat (x right left : Nat) : Nat :=
  Nat.lor (Nat.shiftRight x right) (Nat.mod (Nat.shiftLeft x left) 4294967296)

theorem toNat_rotateRight (x : UInt32) {right left : Nat}
    (h : right + left = 32) (hright : 0 < right) (hleft : 0 < left) :
    (rotateRight x (UInt32.ofNat right)).toNat
      = rotateNat x.toNat right left := by
  have hr : (UInt32.ofNat right).toNat = right := by
    rw [UInt32.toNat_ofNat', Nat.mod_eq_of_lt]
    omega
  have hl : (32 - UInt32.ofNat right).toNat = left := by
    rw [UInt32.toNat_sub_of_le, hr]
    · show 32 - right = left
      omega
    · rw [UInt32.le_iff_toNat_le, hr]
      show right ≤ 32
      omega
  unfold rotateRight rotateNat
  rw [UInt32.toNat_or, UInt32.toNat_shiftRight, UInt32.toNat_shiftLeft, hr, hl,
    Nat.mod_eq_of_lt (show right < 32 by omega),
    Nat.mod_eq_of_lt (show left < 32 by omega)]
  rfl

/-- The eight words as numbers. -/
def Sha256State.toNats (s : Sha256State) : List Nat :=
  [s.a.toNat, s.b.toNat, s.c.toNat, s.d.toNat, s.e.toNat, s.f.toNat, s.g.toNat,
    s.h.toNat]

-- === the schedule

/-- Sixteen words of the schedule in a row. -/
structure ScheduleWindow where
  w₀ : UInt32
  w₁ : UInt32
  w₂ : UInt32
  w₃ : UInt32
  w₄ : UInt32
  w₅ : UInt32
  w₆ : UInt32
  w₇ : UInt32
  w₈ : UInt32
  w₉ : UInt32
  w₁₀ : UInt32
  w₁₁ : UInt32
  w₁₂ : UInt32
  w₁₃ : UInt32
  w₁₄ : UInt32
  w₁₅ : UInt32

namespace ScheduleWindow

/-- The word after a window. -/
def next (w : ScheduleWindow) : UInt32 :=
  w.w₀ + (rotateRight w.w₁ 7 ^^^ rotateRight w.w₁ 18 ^^^ (w.w₁ >>> 3)) + w.w₉
    + (rotateRight w.w₁₄ 17 ^^^ rotateRight w.w₁₄ 19 ^^^ (w.w₁₄ >>> 10))

def shift (w : ScheduleWindow) : ScheduleWindow :=
  ⟨w.w₁, w.w₂, w.w₃, w.w₄, w.w₅, w.w₆, w.w₇, w.w₈, w.w₉, w.w₁₀, w.w₁₁, w.w₁₂,
    w.w₁₃, w.w₁₄, w.w₁₅, w.next⟩

def toList (w : ScheduleWindow) : List UInt32 :=
  [w.w₀, w.w₁, w.w₂, w.w₃, w.w₄, w.w₅, w.w₆, w.w₇, w.w₈, w.w₉, w.w₁₀, w.w₁₁,
    w.w₁₂, w.w₁₃, w.w₁₄, w.w₁₅]

/-- The words after a window. -/
def following : Nat → ScheduleWindow → List UInt32
  | 0, _ => []
  | n + 1, w => w.next :: following n w.shift

/-- Sixteen words are a window. -/
theorem exists_of_length : ∀ {words : List UInt32}, words.length = 16 →
    ∃ w : ScheduleWindow, w.toList = words
  | [w₀, w₁, w₂, w₃, w₄, w₅, w₆, w₇, w₈, w₉, w₁₀, w₁₁, w₁₂, w₁₃, w₁₄, w₁₅], _ =>
      ⟨⟨w₀, w₁, w₂, w₃, w₄, w₅, w₆, w₇, w₈, w₉, w₁₀, w₁₁, w₁₂, w₁₃, w₁₄, w₁₅⟩, rfl⟩

theorem exists_following (m n : Nat) (w : ScheduleWindow) :
    ∃ rest, following (m + n) w = following m w ++ rest := by
  induction m generalizing w with
  | zero => exact ⟨_, by rw [Nat.zero_add]; rfl⟩
  | succ m ih =>
      obtain ⟨rest, hrest⟩ := ih w.shift
      refine ⟨rest, ?_⟩
      rw [Nat.succ_add_eq_add_succ, Nat.add_succ, following, hrest]
      rfl

/-- The schedule of the code, latest word first. -/
theorem extendWords_eq (n : Nat) (w : ScheduleWindow) (earlier : List UInt32) :
    extendWords n (w.toList.reverse ++ earlier)
      = (following n w).reverse ++ (w.toList.reverse ++ earlier) := by
  induction n generalizing w earlier with
  | zero => rfl
  | succ n ih =>
      have hstep : extendWords (n + 1) (w.toList.reverse ++ earlier)
          = extendWords n (w.shift.toList.reverse ++ (w.w₀ :: earlier)) := rfl
      rw [hstep, ih, following, List.reverse_cons, List.append_assoc]
      rfl

end ScheduleWindow

/-- The rounds over the words of a window and those after it. -/
def Sha256State.mix : List UInt32 → ScheduleWindow → Sha256State → Sha256State
  | [], _, s => s
  | k :: ks, w, s => mix ks w.shift (s.round k w.w₀)

theorem zip_append_of_le {α β : Type} : ∀ {xs : List α} {ys : List β}
    (rest : List β), xs.length ≤ ys.length → xs.zip (ys ++ rest) = xs.zip ys := by
  intro xs
  induction xs with
  | nil => exact fun _ _ => rfl
  | cons x xs ih =>
      intro ys rest h
      cases ys with
      | nil => cases h
      | cons y ys =>
          rw [List.cons_append, List.zip_cons_cons, List.zip_cons_cons,
            ih rest (Nat.le_of_succ_le_succ h)]

theorem foldl_round (ks : List UInt32) (w : ScheduleWindow) (s : Sha256State) :
    (ks.zip (w.toList ++ w.following ks.length)).foldl
        (fun r entry => r.round entry.1 entry.2) s
      = s.mix ks w := by
  induction ks generalizing w s with
  | nil => rfl
  | cons k ks ih =>
      have hwords : w.toList ++ w.following (k :: ks).length
          = w.w₀ :: (w.shift.toList ++ w.shift.following ks.length) := rfl
      rw [hwords, List.zip_cons_cons, List.foldl_cons, ih]
      rfl

/-- A block whose words are a window. -/
theorem Sha256State.transform_eq {s : Sha256State} {block : Bytes}
    {w : ScheduleWindow} (h : blockWords block = w.toList) :
    s.transform block = (let r := s.mix kRoundConstants w
      { a := s.a + r.a, b := s.b + r.b, c := s.c + r.c, d := s.d + r.d
        e := s.e + r.e, f := s.f + r.f, g := s.g + r.g, h := s.h + r.h }) := by
  have hwords : (extendWords 48 (blockWords block).reverse).reverse
      = w.toList ++ w.following 48 := by
    have hextend := w.extendWords_eq 48 []
    rw [List.append_nil] at hextend
    rw [h, hextend, List.reverse_append, List.reverse_reverse,
      List.reverse_reverse]
  obtain ⟨rest, hrest⟩ := w.exists_following 48 16
  have hzip : kRoundConstants.zip (w.toList ++ w.following 48)
      = kRoundConstants.zip
        (w.toList ++ w.following kRoundConstants.length) := by
    have hall : w.following kRoundConstants.length = w.following 48 ++ rest :=
      hrest
    rw [hall, ← List.append_assoc]
    exact (zip_append_of_le rest (by
      rw [List.length_append]
      exact Nat.le_of_eq rfl)).symm
  unfold transform
  rw [hwords]
  dsimp only
  rw [hzip, foldl_round]

-- === rounds of natural numbers

/-- `Sha256State.mix` on natural numbers. -/
def mixNat : List Nat → (w₀ w₁ w₂ w₃ w₄ w₅ w₆ w₇ w₈ w₉ w₁₀ w₁₁ w₁₂ w₁₃ w₁₄ w₁₅
    a b c d e f g h : Nat) → List Nat
  | [], _, _, _, _, _, _, _, _, _, _, _, _, _, _, _, _, a, b, c, d, e, f, g, h =>
      [a, b, c, d, e, f, g, h]
  | k :: ks, w₀, w₁, w₂, w₃, w₄, w₅, w₆, w₇, w₈, w₉, w₁₀, w₁₁, w₁₂, w₁₃, w₁₄,
      w₁₅, a, b, c, d, e, f, g, h =>
      let sum₁ := Nat.xor (Nat.xor (rotateNat e 6 26) (rotateNat e 11 21))
        (rotateNat e 25 7)
      let choose := Nat.xor (Nat.land e f) (Nat.land (Nat.sub 4294967295 e) g)
      let temporary₁ := Nat.mod
        (Nat.add (Nat.add (Nat.add (Nat.add h sum₁) choose) k) w₀) 4294967296
      let sum₀ := Nat.xor (Nat.xor (rotateNat a 2 30) (rotateNat a 13 19))
        (rotateNat a 22 10)
      let majority := Nat.xor (Nat.xor (Nat.land a b) (Nat.land a c))
        (Nat.land b c)
      let temporary₂ := Nat.add sum₀ majority
      let next := Nat.mod (Nat.add (Nat.add (Nat.add w₀
          (Nat.xor (Nat.xor (rotateNat w₁ 7 25) (rotateNat w₁ 18 14))
            (Nat.shiftRight w₁ 3))) w₉)
          (Nat.xor (Nat.xor (rotateNat w₁₄ 17 15) (rotateNat w₁₄ 19 13))
            (Nat.shiftRight w₁₄ 10))) 4294967296
      mixNat ks w₁ w₂ w₃ w₄ w₅ w₆ w₇ w₈ w₉ w₁₀ w₁₁ w₁₂ w₁₃ w₁₄ w₁₅ next
        (Nat.mod (Nat.add temporary₁ temporary₂) 4294967296) a b c
        (Nat.mod (Nat.add d temporary₁) 4294967296) e f g

/-- The rotations of the schedule and of a round. -/
theorem toNat_rotations (x : UInt32) :
    ((rotateRight x 7).toNat = rotateNat x.toNat 7 25
      ∧ (rotateRight x 18).toNat = rotateNat x.toNat 18 14
      ∧ (rotateRight x 17).toNat = rotateNat x.toNat 17 15
      ∧ (rotateRight x 19).toNat = rotateNat x.toNat 19 13)
    ∧ ((rotateRight x 6).toNat = rotateNat x.toNat 6 26
      ∧ (rotateRight x 11).toNat = rotateNat x.toNat 11 21
      ∧ (rotateRight x 25).toNat = rotateNat x.toNat 25 7)
    ∧ (rotateRight x 2).toNat = rotateNat x.toNat 2 30
      ∧ (rotateRight x 13).toNat = rotateNat x.toNat 13 19
      ∧ (rotateRight x 22).toNat = rotateNat x.toNat 22 10 := by
  have h := @toNat_rotateRight x
  exact ⟨⟨h rfl (by decide) (by decide), h rfl (by decide) (by decide),
      h rfl (by decide) (by decide), h rfl (by decide) (by decide)⟩,
    ⟨h rfl (by decide) (by decide), h rfl (by decide) (by decide),
      h rfl (by decide) (by decide)⟩,
    h rfl (by decide) (by decide), h rfl (by decide) (by decide),
    h rfl (by decide) (by decide)⟩

theorem ScheduleWindow.toNat_next (w : ScheduleWindow) :
    w.next.toNat = Nat.mod (Nat.add (Nat.add (Nat.add w.w₀.toNat
        (Nat.xor (Nat.xor (rotateNat w.w₁.toNat 7 25)
          (rotateNat w.w₁.toNat 18 14)) (Nat.shiftRight w.w₁.toNat 3)))
        w.w₉.toNat)
        (Nat.xor (Nat.xor (rotateNat w.w₁₄.toNat 17 15)
          (rotateNat w.w₁₄.toNat 19 13)) (Nat.shiftRight w.w₁₄.toNat 10)))
      4294967296 := by
  obtain ⟨⟨h7, h18, -, -⟩, -⟩ := toNat_rotations w.w₁
  obtain ⟨⟨-, -, h17, h19⟩, -⟩ := toNat_rotations w.w₁₄
  unfold next
  simp only [UInt32.toNat_add, UInt32.toNat_xor, UInt32.toNat_shiftRight, h7,
    h18, h17, h19, Nat.mod_add_mod]
  rfl

/-- What a round leaves in the words that it computes. -/
theorem Sha256State.toNat_round (s : Sha256State) (k w : UInt32) :
    let temporary₁ := Nat.mod (Nat.add (Nat.add (Nat.add (Nat.add s.h.toNat
        (Nat.xor (Nat.xor (rotateNat s.e.toNat 6 26)
          (rotateNat s.e.toNat 11 21)) (rotateNat s.e.toNat 25 7)))
        (Nat.xor (Nat.land s.e.toNat s.f.toNat)
          (Nat.land (Nat.sub 4294967295 s.e.toNat) s.g.toNat)))
        k.toNat) w.toNat) 4294967296
    (s.round k w).a.toNat = Nat.mod (Nat.add temporary₁
        (Nat.add (Nat.xor (Nat.xor (rotateNat s.a.toNat 2 30)
            (rotateNat s.a.toNat 13 19)) (rotateNat s.a.toNat 22 10))
          (Nat.xor (Nat.xor (Nat.land s.a.toNat s.b.toNat)
            (Nat.land s.a.toNat s.c.toNat)) (Nat.land s.b.toNat s.c.toNat))))
        4294967296
    ∧ (s.round k w).e.toNat
      = Nat.mod (Nat.add s.d.toNat temporary₁) 4294967296 := by
  obtain ⟨-, ⟨h6, h11, h25⟩, -⟩ := toNat_rotations s.e
  obtain ⟨-, -, h2, h13, h22⟩ := toNat_rotations s.a
  have hnot : (~~~s.e).toNat = Nat.sub 4294967295 s.e.toNat := by
    rw [UInt32.toNat_not]
    rfl
  unfold round
  constructor
  · simp only [UInt32.toNat_add, UInt32.toNat_xor, UInt32.toNat_and, h6, h11,
      h25, h2, h13, h22, hnot, Nat.mod_add_mod, Nat.add_mod_mod]
    exact (Nat.mod_add_mod _ _ _).symm
  · simp only [UInt32.toNat_add, UInt32.toNat_xor, UInt32.toNat_and, h6, h11,
      h25, hnot, Nat.mod_add_mod, Nat.add_mod_mod]
    exact (Nat.add_mod_mod _ _ _).symm

/-- The rounds of natural numbers are the rounds of words. -/
theorem mixNat_eq (ks : List UInt32) (w : ScheduleWindow) (s : Sha256State) :
    mixNat (ks.map UInt32.toNat) w.w₀.toNat w.w₁.toNat w.w₂.toNat w.w₃.toNat
        w.w₄.toNat w.w₅.toNat w.w₆.toNat w.w₇.toNat w.w₈.toNat w.w₉.toNat
        w.w₁₀.toNat w.w₁₁.toNat w.w₁₂.toNat w.w₁₃.toNat w.w₁₄.toNat w.w₁₅.toNat
        s.a.toNat s.b.toNat s.c.toNat s.d.toNat s.e.toNat s.f.toNat s.g.toNat
        s.h.toNat
      = (s.mix ks w).toNats := by
  induction ks generalizing w s with
  | nil => rfl
  | cons k ks ih =>
      obtain ⟨ha, he⟩ := s.toNat_round k w.w₀
      have hnext := w.toNat_next
      have hrest := ih w.shift (s.round k w.w₀)
      rw [show w.shift.w₁₅.toNat = w.next.toNat from rfl, hnext, ha, he] at hrest
      exact hrest

-- === blocks

/-- The big-endian words of bytes, as numbers. -/
def wordNats : Bytes → List Nat
  | b₀ :: b₁ :: b₂ :: b₃ :: rest =>
      Nat.lor (Nat.lor (Nat.lor
        (Nat.mod (Nat.shiftLeft b₀.toNat 24) 4294967296)
        (Nat.mod (Nat.shiftLeft b₁.toNat 16) 4294967296))
        (Nat.mod (Nat.shiftLeft b₂.toNat 8) 4294967296)) b₃.toNat
        :: wordNats rest
  | _ => []

theorem wordNats_eq (bytes : Bytes) :
    wordNats bytes = (blockWords bytes).map UInt32.toNat := by
  fun_induction blockWords bytes with
  | case1 b₀ b₁ b₂ b₃ rest ih =>
      rw [wordNats, ih, List.map_cons, UInt32.toNat_or, UInt32.toNat_or,
        UInt32.toNat_or, UInt32.toNat_shiftLeft, UInt32.toNat_shiftLeft,
        UInt32.toNat_shiftLeft]
      rfl
  | case2 bytes h => rw [wordNats, List.map_nil]; exact h

theorem length_blockWords (bytes : Bytes) :
    (blockWords bytes).length = bytes.length / 4 := by
  fun_induction blockWords bytes with
  | case1 b₀ b₁ b₂ b₃ rest ih =>
      simp only [List.length_cons, ih]
      omega
  | case2 bytes h =>
      match bytes, h with
      | [], _ => rfl
      | [_], _ => simp
      | [_, _], _ => simp
      | [_, _, _], _ => simp
      | _ :: _ :: _ :: _ :: _, h => exact absurd rfl (h _ _ _ _ _)

theorem blockWords_append (bytes rest : Bytes) (h : bytes.length % 4 = 0) :
    blockWords (bytes ++ rest) = blockWords bytes ++ blockWords rest := by
  fun_induction blockWords bytes with
  | case1 b₀ b₁ b₂ b₃ bytes ih =>
      simp only [List.length_cons] at h
      have hrest := ih (by omega)
      rw [List.cons_append, List.cons_append, List.cons_append,
        List.cons_append, blockWords, hrest, List.cons_append]
  | case2 bytes hshort =>
      match bytes, hshort, h with
      | [], _, _ => rfl
      | _ :: _ :: _ :: _ :: _, h, _ => exact absurd rfl (h _ _ _ _ _)

/-- The round constants as numbers. -/
def kRoundNats : List Nat := kRoundConstants.map UInt32.toNat

-- Comparing two runs of the rounds must not unfold them.
attribute [irreducible] mixNat

/-- Blocks of sixteen words, on the eight numbers of a state. -/
def compressNat : Nat → List Nat → List Nat → List Nat
  | 0, _, state => state
  | n + 1, words, state =>
      let word := fun i => words.getD i 0
      let old := fun i => state.getD i 0
      compressNat n (words.drop 16) (List.zipWith
        (fun x y => Nat.mod (Nat.add x y) 4294967296) state
        (mixNat kRoundNats (word 0) (word 1) (word 2) (word 3) (word 4)
          (word 5) (word 6) (word 7) (word 8) (word 9) (word 10) (word 11)
          (word 12) (word 13) (word 14) (word 15) (old 0) (old 1) (old 2)
          (old 3) (old 4) (old 5) (old 6) (old 7)))

/-- The first blocks of a message. -/
def Sha256State.blocks : Nat → Sha256State → Bytes → Sha256State
  | 0, s, _ => s
  | n + 1, s, message =>
      blocks n (s.transform (message.take 64)) (message.drop 64)

/-- The words of a block, one by one. -/
theorem getD_window (w : ScheduleWindow) (rest : List Nat) :
    let word := fun i => (w.toList.map UInt32.toNat ++ rest).getD i 0
    mixNat kRoundNats (word 0) (word 1) (word 2) (word 3) (word 4) (word 5)
        (word 6) (word 7) (word 8) (word 9) (word 10) (word 11) (word 12)
        (word 13) (word 14) (word 15)
      = mixNat kRoundNats w.w₀.toNat w.w₁.toNat w.w₂.toNat w.w₃.toNat
          w.w₄.toNat w.w₅.toNat w.w₆.toNat w.w₇.toNat w.w₈.toNat w.w₉.toNat
          w.w₁₀.toNat w.w₁₁.toNat w.w₁₂.toNat w.w₁₃.toNat w.w₁₄.toNat
          w.w₁₅.toNat := rfl

theorem compressNat_eq (n : Nat) : ∀ (s : Sha256State) {message : Bytes},
    message.length = 64 * n →
    compressNat n (wordNats message) s.toNats = (s.blocks n message).toNats := by
  induction n with
  | zero => exact fun s message _ => rfl
  | succ n ih =>
      intro s message h
      have hblock : (message.take 64).length = 64 := by
        rw [List.length_take]
        omega
      obtain ⟨w, hw⟩ := ScheduleWindow.exists_of_length
        ((length_blockWords (message.take 64)).trans (by rw [hblock]))
      have hwords : wordNats message = w.toList.map UInt32.toNat
          ++ wordNats (message.drop 64) := by
        rw [hw, ← wordNats_eq, wordNats_eq, wordNats_eq, wordNats_eq,
          ← List.map_append, ← blockWords_append _ _ (by rw [hblock]),
          List.take_append_drop]
      have hlast : (message.drop 64).length = 64 * n := by
        rw [List.length_drop]
        omega
      have hdrop : (w.toList.map UInt32.toNat
          ++ wordNats (message.drop 64)).drop 16
            = wordNats (message.drop 64) := rfl
      have hsum : List.zipWith (fun x y => Nat.mod (Nat.add x y) 4294967296)
          s.toNats (s.mix kRoundConstants w).toNats
            = (s.transform (message.take 64)).toNats := by
        rw [Sha256State.transform_eq hw.symm]
        simp only [Sha256State.toNats, UInt32.toNat_add, List.zipWith_cons_cons,
          List.zipWith_nil_left]
        rfl
      have hmix := mixNat_eq kRoundConstants w s
      rw [hwords, compressNat]
      dsimp only
      rw [hdrop, getD_window w (wordNats (message.drop 64))]
      rw [show mixNat kRoundNats w.w₀.toNat w.w₁.toNat w.w₂.toNat w.w₃.toNat
          w.w₄.toNat w.w₅.toNat w.w₆.toNat w.w₇.toNat w.w₈.toNat w.w₉.toNat
          w.w₁₀.toNat w.w₁₁.toNat w.w₁₂.toNat w.w₁₃.toNat w.w₁₄.toNat
          w.w₁₅.toNat (s.toNats.getD 0 0) (s.toNats.getD 1 0)
          (s.toNats.getD 2 0) (s.toNats.getD 3 0) (s.toNats.getD 4 0)
          (s.toNats.getD 5 0) (s.toNats.getD 6 0) (s.toNats.getD 7 0)
        = (s.mix kRoundConstants w).toNats from hmix, hsum]
      exact ih _ hlast

theorem Sha256State.blocks_add (m n : Nat) (s : Sha256State)
    (message : Bytes) :
    s.blocks (m + n) message
      = (s.blocks m message).blocks n (message.drop (64 * m)) := by
  induction m generalizing s message with
  | zero => rw [Nat.zero_add]; rfl
  | succ m ih =>
      rw [Nat.succ_add_eq_add_succ, Nat.add_succ, blocks, ih, blocks,
        List.drop_drop, Nat.mul_succ, Nat.add_comm 64]

theorem Sha256State.blocks_append (n : Nat) (s : Sha256State)
    {message : Bytes} (rest : Bytes) (h : 64 * n ≤ message.length) :
    s.blocks n (message ++ rest) = s.blocks n message := by
  induction n generalizing s message with
  | zero => rfl
  | succ n ih =>
      rw [blocks, blocks, List.take_append_of_le_length (by omega),
        List.drop_append_of_le_length (by omega),
        ih _ (by rw [List.length_drop]; omega)]

-- === messages

/-- What the pushed bytes leave: the state of the full blocks, and the
rest in the buffer. -/
theorem update_eq (input : Bytes) : ∀ {s : Sha256}, s.buffer.length < 64 →
    s.update input =
      { state := s.state.blocks ((s.buffer ++ input).length / 64)
          (s.buffer ++ input)
        buffer := (s.buffer ++ input).drop
          (64 * ((s.buffer ++ input).length / 64))
        byteCount := s.byteCount + UInt64.ofNat input.length } := by
  induction input with
  | nil =>
      intro s h
      rw [List.append_nil, Nat.div_eq_of_lt h, List.length_nil]
      show s = _
      rw [show s.byteCount + UInt64.ofNat 0 = s.byteCount from UInt64.add_zero _]
      rfl
  | cons byte rest ih =>
      intro s h
      have hcount : s.byteCount + 1 + UInt64.ofNat rest.length
          = s.byteCount + UInt64.ofNat (byte :: rest).length := by
        rw [List.length_cons, UInt64.add_assoc, Nat.add_comm, UInt64.ofNat_add]
        rfl
      have hall : s.buffer ++ byte :: rest = (s.buffer ++ [byte]) ++ rest := by
        rw [List.append_assoc, List.singleton_append]
      have hlength : (s.buffer ++ [byte]).length = s.buffer.length + 1 := by
        rw [List.length_append, List.length_singleton]
      show (s.push byte).update rest = _
      unfold Sha256.push
      dsimp only
      by_cases hfull : (s.buffer ++ [byte]).length = 64
      · have hblocks : ((s.buffer ++ [byte]) ++ rest).length / 64
            = rest.length / 64 + 1 := by
          rw [List.length_append, hfull]
          omega
        have hempty : ([] : Bytes).length < 64 := by decide
        rw [if_pos hfull, ih hempty]
        dsimp only
        rw [List.nil_append, hcount, hall, hblocks, Sha256State.blocks,
          Nat.mul_succ, Nat.add_comm (64 * _) 64, ← List.drop_drop]
        rw [← hfull, List.take_left, List.drop_left]
      · rw [if_neg hfull, ih (show (s.buffer ++ [byte]).length < 64 by omega)]
        dsimp only
        rw [hcount, ← hall]

/-- The message with the padding of `finish`. -/
def padMessage (text : Bytes) : Bytes :=
  text ++ (0x80 :: List.replicate ((119 - text.length % 64) % 64) 0
    ++ lengthBytes (UInt64.ofNat text.length * 8))

theorem length_padMessage (text : Bytes) :
    (padMessage text).length
      = 64 * (text.length / 64 + if text.length % 64 < 56 then 1 else 2) := by
  have hlength : (padMessage text).length
      = text.length + (((119 - text.length % 64) % 64 + 1) + 8) := by
    simp [padMessage, lengthBytes]
  rw [hlength]
  by_cases hroom : text.length % 64 < 56
  · rw [if_pos hroom]
    omega
  · rw [if_neg hroom]
    omega

/-- The bytes of the words of a state. -/
def Sha256State.bytes (s : Sha256State) : Bytes :=
  wordBytes s.a ++ wordBytes s.b ++ wordBytes s.c ++ wordBytes s.d
    ++ wordBytes s.e ++ wordBytes s.f ++ wordBytes s.g ++ wordBytes s.h

/-- Finishing runs over the last one or two blocks of the padded
message. -/
theorem finish_update (text : Bytes) :
    (Sha256.update {} text).finish
      = ((({} : Sha256).state).blocks ((padMessage text).length / 64)
          (padMessage text)).bytes := by
  rw [update_eq text (by decide)]
  dsimp only [List.nil_append]
  generalize hn : text.length / 64 = n
  generalize hbuffer : text.drop (64 * n) = buffer
  have hsize : buffer.length = text.length % 64 := by
    rw [← hbuffer, List.length_drop]
    omega
  have hsmall : text.length % 64 < 64 := Nat.mod_lt _ (by decide)
  have hcount : (0 : UInt64) + UInt64.ofNat text.length
      = UInt64.ofNat text.length := UInt64.zero_add _
  have hpadded : (padMessage text).drop (64 * n) = buffer
      ++ (0x80 :: List.replicate ((119 - text.length % 64) % 64) 0
        ++ lengthBytes (UInt64.ofNat text.length * 8)) := by
    rw [padMessage, List.drop_append_of_le_length (by omega), hbuffer]
  have hfirst : (({} : Sha256).state).blocks n (padMessage text)
      = (({} : Sha256).state).blocks n text :=
    Sha256State.blocks_append n _ _ (by omega)
  rw [length_padMessage, Nat.mul_div_cancel_left _ (by decide : 0 < 64), hn,
    Sha256State.blocks_add, hfirst, hpadded]
  generalize (({} : Sha256).state).blocks n text = state
  unfold Sha256.finish
  dsimp only
  rw [hcount]
  by_cases hroom : text.length % 64 < 56
  · have hzeros : (119 - text.length % 64) % 64 = 55 - text.length % 64 := by
      omega
    have hshort : ¬(buffer ++ [0x80]).length > 56 := by
      rw [List.length_append, List.length_singleton, hsize]
      omega
    have hblock : buffer ++ [0x80]
          ++ List.replicate (56 - (buffer ++ [0x80]).length) 0
          ++ lengthBytes (UInt64.ofNat text.length * 8)
        = buffer ++ (0x80 :: List.replicate (55 - text.length % 64) 0
          ++ lengthBytes (UInt64.ofNat text.length * 8)) := by
      rw [List.length_append, List.length_singleton, hsize,
        show 56 - (text.length % 64 + 1) = 55 - text.length % 64 by omega]
      simp
    rw [if_neg hshort, if_pos hroom, hzeros, ← hblock, Sha256State.blocks,
      Sha256State.blocks, List.take_of_length_le]
    · rfl
    · simp only [List.length_append, List.length_replicate, hsize,
        lengthBytes, List.length_cons, List.length_nil]
      omega
  · have hzeros : (119 - text.length % 64) % 64
        = (63 - text.length % 64) + 56 := by
      omega
    have hlong : (buffer ++ [0x80]).length > 56 := by
      rw [List.length_append, List.length_singleton, hsize]
      omega
    have hlast : (buffer ++ [(0x80 : UInt8)]
        ++ List.replicate (64 - (buffer ++ [0x80]).length) 0).length = 64 := by
      simp only [List.length_append, List.length_singleton,
        List.length_replicate, hsize]
      omega
    have hsplit : buffer ++ ((0x80 : UInt8) ::
          List.replicate ((63 - text.length % 64) + 56) 0
          ++ lengthBytes (UInt64.ofNat text.length * 8))
        = (buffer ++ [0x80]
            ++ List.replicate (64 - (buffer ++ [0x80]).length) 0)
          ++ (List.replicate 56 (0 : UInt8)
            ++ lengthBytes (UInt64.ofNat text.length * 8)) := by
      rw [List.replicate_add, List.length_append, List.length_singleton, hsize,
        show 64 - (text.length % 64 + 1) = 63 - text.length % 64 by omega]
      simp
    rw [if_pos hlong, if_neg hroom, hzeros, hsplit, Sha256State.blocks,
      Sha256State.blocks, Sha256State.blocks]
    rw [List.take_append_of_le_length (Nat.le_of_eq hlast.symm),
      List.drop_append_of_le_length (Nat.le_of_eq hlast.symm),
      List.take_of_length_le (Nat.le_of_eq hlast),
      List.drop_of_length_le (Nat.le_of_eq hlast), List.nil_append,
      List.take_of_length_le (by simp [lengthBytes])]
    rfl

-- === the digest

/-- The bytes of a word, big-endian, on natural numbers. -/
def wordBytesNat (w : Nat) : Bytes :=
  [UInt8.ofNat (Nat.shiftRight w 24), UInt8.ofNat (Nat.shiftRight w 16),
    UInt8.ofNat (Nat.shiftRight w 8), UInt8.ofNat w]

theorem wordBytesNat_toNat (w : UInt32) : wordBytesNat w.toNat = wordBytes w := by
  have hbyte : ∀ v : UInt32, UInt8.ofNat v.toNat = v.toUInt8 := fun _ => rfl
  have hshift : ∀ n : Nat, n < 32 →
      UInt8.ofNat (Nat.shiftRight w.toNat n) = (w >>> UInt32.ofNat n).toUInt8 := by
    intro n hn
    rw [← hbyte, UInt32.toNat_shiftRight, UInt32.toNat_ofNat',
      Nat.mod_eq_of_lt (show n < 2 ^ 32 by omega), Nat.mod_eq_of_lt hn]
    rfl
  unfold wordBytesNat wordBytes
  rw [hshift 24 (by decide), hshift 16 (by decide), hshift 8 (by decide), hbyte]
  rfl

/-- `sha256`, on natural numbers. -/
def quickSha256 (text : Bytes) : Bytes :=
  encodeHex ((compressNat ((padMessage text).length / 64)
    (wordNats (padMessage text)) [0x6a09e667, 0xbb67ae85, 0x3c6ef372,
      0xa54ff53a, 0x510e527f, 0x9b05688c, 0x1f83d9ab,
      0x5be0cd19]).flatMap wordBytesNat)

theorem sha256_eq : sha256 = quickSha256 := by
  funext text
  have hblocks : (padMessage text).length
      = 64 * ((padMessage text).length / 64) := by
    rw [length_padMessage, Nat.mul_div_cancel_left _ (by decide : 0 < 64)]
  have hcompress := compressNat_eq _ (({} : Sha256).state) hblocks
  unfold sha256 quickSha256
  rw [finish_update]
  show _ = encodeHex ((compressNat ((padMessage text).length / 64)
    (wordNats (padMessage text)) ({} : Sha256).state.toNats).flatMap
      wordBytesNat)
  rw [hcompress]
  simp only [Sha256State.toNats, Sha256State.bytes, List.flatMap_cons,
    List.flatMap_nil, wordBytesNat_toNat, List.append_assoc, List.append_nil]

/-- `host`, with a digest that is quick to evaluate. -/
def quickHost (check : Bytes → Bytes → Bytes → Bool) : Platform where
  toLibc := exactLibc
  sha256 := quickSha256
  validSha256_sha256 := sha256_eq ▸ validSha256_sha256
  ed25519Check := check

theorem host_eq (check : Bytes → Bytes → Bytes → Bool) :
    host check = quickHost check := by
  unfold host quickHost
  simp only [sha256_eq]

end RbfSafe
