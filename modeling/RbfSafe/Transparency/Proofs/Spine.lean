/-
Trees of equal leaves, for which the wrapping size can be reached.

# The spine

Over `2 ^ m - 1` equal leaves every level is a run of one node and one
last entry, so a whole tree is hashed from two pairs a level
(`treePairs_equal_leaves`), and its root takes `2 * m` digests to find.

# Heights

`heightDigest` writes into a node how high it is and whether its two
children are equal. It is no digest to be used, but on a spine it joins
no two pairs into one node (`heightInj`), so the assumptions that rule
out collisions hold for the tree of the wrapping size.
-/
import RbfSafe.Transparency.Proofs.Publication

namespace RbfSafe

open Lib.Forest

-- === the spine

/-- The pairs over `2 ^ m - 1` entries `x` and a last entry `y`. -/
def spine {α : Type} (node : α → α → α) : Nat → α → α → List (α × α)
  | 0, _, _ => []
  | m + 1, x, y => (x, x) :: (x, y) :: spine node m (node x x) (node x y)

section
variable {α : Type} (node : α → α → α)

/-- One level of a run of equal entries. -/
theorem pairUp_run (x : α) (tail : List α) : ∀ n : Nat,
    pairUp node (List.replicate (2 * n) x ++ tail)
        = List.replicate n (node x x) ++ pairUp node tail ∧
      ∀ p ∈ levelPairs (List.replicate (2 * n) x ++ tail),
        p = (x, x) ∨ p ∈ levelPairs tail
  | 0 => ⟨rfl, fun _ hp => Or.inr hp⟩
  | n + 1 => by
      obtain ⟨hup, hpairs⟩ := pairUp_run x tail n
      rw [show 2 * (n + 1) = 2 * n + 1 + 1 from by omega,
        List.replicate_succ, List.replicate_succ, List.cons_append,
        List.cons_append]
      refine ⟨?_, fun p hp => ?_⟩
      · rw [pairUp, hup, List.replicate_succ, List.cons_append]
      · rcases List.mem_cons.mp hp with rfl | hp
        · exact Or.inl rfl
        · exact hpairs p hp

theorem injOn_replicate {β : Type} (f : α → β) (n : Nat) (x : α) :
    Set.InjOn f {y | y ∈ List.replicate n x ∨ y = x} := by
  have heq : ∀ y, y ∈ List.replicate n x ∨ y = x → y = x := by
    rintro y (hy | rfl)
    · exact List.eq_of_mem_replicate hy
    · rfl
  intro y hy z hz _
  rw [heq y hy, heq z hz]

theorem treePairs_eq {l : List α} (h : 2 ≤ l.length) :
    treePairs node l = levelPairs l ++ treePairs node (pairUp node l) := by
  match l with
  | [] => simp at h
  | [_] => simp at h
  | a :: b :: rest => rw [treePairs]

/-- A run that ends in another entry hashes the spine. -/
theorem treePairs_run_subset (m : Nat) : ∀ x y : α,
    treePairs node (List.replicate (2 ^ m - 1) x ++ [y]) ⊆ spine node m x y := by
  induction m with
  | zero =>
      intro x y
      simp [treePairs]
  | succ m ih =>
      intro x y
      have hpos := Nat.two_pow_pos m
      have hsplit : List.replicate (2 ^ (m + 1) - 1) x ++ [y]
          = List.replicate (2 * (2 ^ m - 1)) x ++ [x, y] := by
        rw [show 2 ^ (m + 1) - 1 = 2 * (2 ^ m - 1) + 1 from by omega,
          List.replicate_add, List.append_assoc]
        rfl
      obtain ⟨hup, hpairs⟩ := pairUp_run node x [x, y] (2 ^ m - 1)
      rw [hsplit, treePairs_eq node (by simp), hup]
      refine List.append_subset.mpr ⟨fun p hp => ?_, ?_⟩
      · rcases hpairs p hp with rfl | hp
        · exact List.mem_cons_self
        · rw [List.mem_singleton.mp hp]
          exact List.mem_cons_of_mem _ List.mem_cons_self
      · exact List.Subset.trans (ih _ _)
          (List.subset_cons_of_subset _ (List.subset_cons_self _ _))

/-- **The tree of `2 ^ (m + 1) - 1` equal leaves** hashes the leaf with
itself and a spine. -/
theorem treePairs_equal_leaves (m : Nat) (x : α) :
    treePairs node (List.replicate (2 ^ (m + 1) - 1) x)
      ⊆ (x, x) :: spine node m (node x x) x := by
  have hpos := Nat.two_pow_pos m
  cases m with
  | zero => simp [treePairs]
  | succ m =>
      have hsplit : List.replicate (2 ^ (m + 1 + 1) - 1) x
          = List.replicate (2 * (2 ^ (m + 1) - 1)) x ++ [x] := by
        rw [show 2 ^ (m + 1 + 1) - 1 = 2 * (2 ^ (m + 1) - 1) + 1 from by omega,
          List.replicate_add]
        rfl
      have htwo := Nat.two_pow_pos m
      obtain ⟨hup, hpairs⟩ := pairUp_run node x [x] (2 ^ (m + 1) - 1)
      rw [hsplit, treePairs_eq node (by simp; omega), hup]
      refine List.append_subset.mpr ⟨fun p hp => ?_, ?_⟩
      · rcases hpairs p hp with rfl | hp
        · exact List.mem_cons_self
        · exact absurd hp List.not_mem_nil
      · exact List.Subset.trans (treePairs_run_subset node (m + 1) _ _)
          (List.subset_cons_self _ _)

end

-- === heights

/-- A digest that shows a small number. -/
def heightText (n : Nat) : Bytes :=
  encodeHex (List.replicate 31 0 ++ [UInt8.ofNat n])

theorem heightText_inj {m n : Nat} (hm : m < 256) (hn : n < 256)
    (h : heightText m = heightText n) : m = n := by
  have hbytes : ∀ k : Nat, (List.replicate 31 (0 : UInt8)
      ++ [UInt8.ofNat k]).length = 32 := by simp
  have hdecode := decodeHex_encodeHex (List.replicate 31 0 ++ [UInt8.ofNat m])
  have hdecode' := decodeHex_encodeHex (List.replicate 31 0 ++ [UInt8.ofNat n])
  rw [hbytes] at hdecode hdecode'
  rw [show encodeHex (List.replicate 31 0 ++ [UInt8.ofNat m])
    = encodeHex (List.replicate 31 0 ++ [UInt8.ofNat n]) from h, hdecode',
    Except.ok.injEq, List.append_cancel_left_eq, List.singleton_inj] at hdecode
  have hnat := congrArg UInt8.toNat hdecode
  rw [UInt8.toNat_ofNat_of_lt' hm, UInt8.toNat_ofNat_of_lt' hn] at hnat
  exact hnat.symm

theorem length_heightText (n : Nat) : (heightText n).length = 64 := by
  rw [heightText, length_encodeHex]
  simp

/-- The number a digest shows. -/
def heightOf (text : Bytes) : Nat :=
  match decodeHex text 32 with
  | .ok bytes => (bytes.getLastD 0).toNat
  | .error _ => 0

theorem heightOf_heightText {n : Nat} (h : n < 256) :
    heightOf (heightText n) = n := by
  have hdecode := decodeHex_encodeHex (List.replicate 31 0 ++ [UInt8.ofNat n])
  rw [show (List.replicate 31 (0 : UInt8) ++ [UInt8.ofNat n]).length = 32 from by
    simp] at hdecode
  rw [heightOf, heightText, hdecode]
  simp [UInt8.toNat_ofNat_of_lt' h]

/-- Two above the left child, three if the children differ, for what has
the length of a node message; zero for anything else. -/
def heightDigest (message : Bytes) : Bytes :=
  let left := (message.drop 36).take 64
  let right := message.drop 100
  if message.length = 164 then
    heightText (if left = right then heightOf left + 2 else heightOf left + 3)
  else heightText 0

/-- A platform with the digest of heights. -/
def heightPlatform : Platform where
  toLibc := exactLibc
  sha256 := heightDigest
  validSha256_sha256 message := by
    have hvalid : ∀ n, validSha256 (heightText n) = true := by
      intro n
      rw [validSha256, Bool.and_eq_true]
      exact ⟨by simp [length_heightText], all_isLowerHex_encodeHex _⟩
    rw [heightDigest]
    split <;> exact hvalid _
  ed25519Check _ _ _ := true

theorem heightPlatform_sha256 (message : Bytes) :
    heightPlatform.sha256 message = heightDigest message := rfl

theorem merkleNodeHash_height {a b : Nat} (ha : a < 256) (hb : b < 256) :
    merkleNodeHash heightPlatform (heightText a) (heightText b)
      = heightText (if a = b then a + 2 else a + 3) := by
  have hlabel : (ascii "rbfsafe-transparency-merkle-node-v1\n").length = 36 := by
    decide
  have hleft := length_heightText a
  have hright := length_heightText b
  rw [merkleNodeHash, heightPlatform_sha256]
  generalize ascii "rbfsafe-transparency-merkle-node-v1\n" = message at hlabel ⊢
  have hdrop : ((message ++ heightText a ++ heightText b).drop 36).take 64
      = heightText a := by
    rw [List.append_assoc, ← hlabel, List.drop_left, ← hleft, List.take_left]
  have hdrop' : (message ++ heightText a ++ heightText b).drop 100
      = heightText b := by
    have hlen : (message ++ heightText a).length = 100 := by
      rw [List.length_append, hlabel, hleft]
    rw [← hlen, List.drop_left]
  have hlen : (message ++ heightText a ++ heightText b).length = 164 := by
    rw [List.length_append, List.length_append, hlabel, hleft, hright]
  rw [heightDigest, if_pos hlen]
  simp only [hdrop, hdrop', heightOf_heightText ha]
  by_cases hab : a = b
  · rw [if_pos (by rw [hab]), if_pos hab]
  · rw [if_neg (fun h => hab (heightText_inj ha hb h)), if_neg hab]

theorem transparencyLeafHash_height {leafId : Bytes}
    (h : leafId.length = 64) :
    transparencyLeafHash heightPlatform leafId = heightText 0 := by
  have hlabel : (ascii "rbfsafe-transparency-merkle-leaf-v1\n").length = 36 := by
    decide
  have hlen : (ascii "rbfsafe-transparency-merkle-leaf-v1\n"
      ++ leafId).length ≠ 164 := by
    rw [List.length_append, hlabel, h]
    decide
  rw [transparencyLeafHash, heightPlatform_sha256, heightDigest, if_neg hlen]

/-- The pairs of heights that a spine joins. -/
def HeightPair (p : Bytes × Bytes) : Prop :=
  ∃ a b, p = (heightText a, heightText b) ∧ a % 2 = 0 ∧ a < 200 ∧
    (b = a ∨ (4 ≤ a ∧ b = a + 1) ∨ (a = 2 ∧ b = 0))

theorem heightPair_node {p : Bytes × Bytes} (h : HeightPair p) :
    ∃ n, 2 ≤ n ∧ n < 256 ∧
      merkleNodeHash heightPlatform p.1 p.2 = heightText n := by
  obtain ⟨a, b, rfl, -, ha, hb⟩ := h
  refine ⟨_, ?_, ?_, merkleNodeHash_height (by omega) (by omega)⟩
  · split <;> omega
  · split <;> omega

/-- A leaf hash shows zero, a node at least two. -/
theorem leafHash_ne_node {leafId : Bytes} (hid : validSha256 leafId = true)
    {p : Bytes × Bytes} (hp : HeightPair p) :
    transparencyLeafHash heightPlatform leafId
      ≠ merkleNodeHash heightPlatform p.1 p.2 := by
  rw [validSha256, Bool.and_eq_true, beq_iff_eq] at hid
  obtain ⟨n, htwo, hlt, hn⟩ := heightPair_node hp
  rw [transparencyLeafHash_height hid.1, hn]
  intro h
  have := heightText_inj (by omega) hlt h
  omega

/-- **No two pairs of a spine collide.** -/
theorem heightInj : NodeInj (merkleNodeHash heightPlatform)
    {p | HeightPair p} := by
  rintro _ ⟨a, b, rfl, ha, halt, hb⟩ _ ⟨c, d, rfl, hc, hclt, hd⟩ h
  change merkleNodeHash heightPlatform (heightText a) (heightText b)
    = merkleNodeHash heightPlatform (heightText c) (heightText d) at h
  rw [merkleNodeHash_height (by omega) (by omega),
    merkleNodeHash_height (by omega) (by omega)] at h
  have hn := heightText_inj (by split <;> omega) (by split <;> omega) h
  obtain ⟨hac, hbd⟩ : a = c ∧ b = d := by
    split at hn <;> split at hn <;> omega
  rw [hac, hbd]

/-- A spine that starts high enough stays among the pairs of heights. -/
theorem spine_heightPair (m : Nat) : ∀ a : Nat, a % 2 = 0 → 4 ≤ a →
    a + 2 * m < 200 → ∀ p ∈ spine (merkleNodeHash heightPlatform) m
      (heightText a) (heightText (a + 1)), HeightPair p := by
  induction m with
  | zero =>
      intro a _ _ _ p hp
      exact absurd hp List.not_mem_nil
  | succ m ih =>
      intro a ha hfour hlt p hp
      rw [spine, merkleNodeHash_height (by omega) (by omega), if_pos rfl,
        merkleNodeHash_height (by omega) (by omega), if_neg (by omega)] at hp
      rcases List.mem_cons.mp hp with rfl | hp
      · exact ⟨a, a, rfl, ha, by omega, Or.inl rfl⟩
      rcases List.mem_cons.mp hp with rfl | hp
      · exact ⟨a, a + 1, rfl, ha, by omega, Or.inr (Or.inl ⟨hfour, rfl⟩)⟩
      · exact ih (a + 2) (by omega) (by omega) (by omega) p hp

/-- **The tree of equal leaves joins pairs of heights only**, up to the
wrapping size. -/
theorem equal_leaves_heightPair {m : Nat} (hm : m < 64) {p : Bytes × Bytes}
    (hp : p ∈ treePairs (merkleNodeHash heightPlatform)
      (List.replicate (2 ^ (m + 1) - 1) (heightText 0))) : HeightPair p := by
  have hspine := treePairs_equal_leaves _ m _ hp
  rw [merkleNodeHash_height (by omega) (by omega), if_pos rfl] at hspine
  rcases List.mem_cons.mp hspine with rfl | hspine
  · exact ⟨0, 0, rfl, rfl, by omega, Or.inl rfl⟩
  cases m with
  | zero => exact absurd hspine List.not_mem_nil
  | succ m =>
      rw [spine, merkleNodeHash_height (by omega) (by omega), if_pos rfl,
        merkleNodeHash_height (by omega) (by omega), if_neg (by omega)] at hspine
      rcases List.mem_cons.mp hspine with rfl | hspine
      · exact ⟨2, 2, rfl, rfl, by omega, Or.inl rfl⟩
      rcases List.mem_cons.mp hspine with rfl | hspine
      · exact ⟨2, 0, rfl, rfl, by omega, Or.inr (Or.inr ⟨rfl, rfl⟩)⟩
      · exact spine_heightPair m 4 rfl le_rfl (by omega) p hspine

end RbfSafe
