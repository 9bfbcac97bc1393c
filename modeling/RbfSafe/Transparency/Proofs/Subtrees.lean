/-
What a valid compact consistency proof fixes.

`valid` compares the old frontier with the set bits of the old size and
walks the subtrees from the old size to the new one. So whatever hashes
it carries, the loaded frontier has the shape of the old size
(`shaped_loadFrontier`) and the subtrees cover the gap
(`covers_of_subtreesReach`); every append of the verifier then succeeds
and is a carry (`appendSubtrees_spec`).
-/
import RbfSafe.Lib.Blocks
import RbfSafe.Transparency.Proofs.Frontier
import RbfSafe.Transparency.Verify

namespace RbfSafe

open Lib.Forest

-- === the old frontier

/-- The source's bit test. -/
theorem bit_test {n : UInt64} {level : Nat} (h : level < 64) :
    (n >>> UInt64.ofNat level) &&& 1 = 0 ↔ n.toNat / 2 ^ level % 2 = 0 := by
  have hk : (UInt64.ofNat level).toNat = level := UInt64.toNat_ofNat_of_lt' (by
    show level < 2 ^ 64
    omega)
  rw [← UInt64.toNat_inj, UInt64.toNat_and, UInt64.toNat_shiftRight, hk,
    Nat.mod_eq_of_lt h, UInt64.toNat_one, Nat.and_one_is_mod,
    Nat.shiftRight_eq_div_pow]
  rfl

/-- Setting slot `level` above which nothing is set. -/
theorem slots_set_vacant {frontier : Frontier} {level left : Nat}
    (hlevel : level + (left + 1) = 64) (s : Bytes)
    (hvacant : (slots frontier).drop level = List.replicate (left + 1) none) :
    ∃ hlt : level < 64,
      (slots (frontier.set level s hlt)).take (level + 1)
        = (slots frontier).take level ++ [slot s] ∧
      (slots (frontier.set level s hlt)).drop (level + 1)
        = List.replicate left none := by
  have hlt : level < 64 := by omega
  have hlen : level < (slots frontier).length := by simpa using hlt
  have htake : ((slots frontier).take level).length = level := by
    rw [List.length_take, length_slots]
    omega
  have hrest : (slots frontier).drop (level + 1) = List.replicate left none := by
    rw [← List.drop_drop, hvacant]
    rfl
  refine ⟨hlt, ?_, ?_⟩
  · rw [slots_set frontier hlt, List.set_eq_take_append_cons_drop, if_pos hlen,
      List.take_append, htake]
    simp
  · rw [slots_set frontier hlt, List.set_eq_take_append_cons_drop, if_pos hlen,
      List.drop_append, htake]
    simp [hrest]

theorem take_succ_of_vacant {frontier : Frontier} {level left : Nat}
    (hvacant : (slots frontier).drop level = List.replicate (left + 1) none) :
    (slots frontier).take (level + 1) = (slots frontier).take level ++ [none] ∧
      (slots frontier).drop (level + 1) = List.replicate left none := by
  have hget : (slots frontier)[level]? = some none := by
    have h : ((slots frontier).drop level)[0]? = some none := by
      rw [hvacant]
      rfl
    simpa using h
  refine ⟨?_, ?_⟩
  · rw [List.take_add_one, hget]
    rfl
  · rw [← List.drop_drop, hvacant]
    rfl

/-- A frontier loaded from entries that match the bits of `n` from
`level` up holds those bits. -/
theorem loadFrontier_spec (n : UInt64) (left : Nat) : ∀ (frontier : Frontier)
    (level : Nat) (entries : List TransparencyMerkleSubtree),
    level + left = 64 → frontierMatches n left level entries = true →
    (slots frontier).drop level = List.replicate left none →
    ∃ upper, slots (loadFrontier frontier entries)
        = (slots frontier).take level ++ upper
      ∧ Shaped (n.toNat / 2 ^ level) upper := by
  induction left with
  | zero =>
      intro frontier level entries hlevel hmatch _
      have hnil : entries = [] := by simpa [frontierMatches] using hmatch
      refine ⟨[], ?_, ?_⟩
      · rw [hnil, List.append_nil, List.take_of_length_le (by simp; omega)]
        rfl
      · show n.toNat / 2 ^ level = 0
        rw [show level = 64 from by omega]
        exact Nat.div_eq_of_lt n.toNat_lt
  | succ left ih =>
      intro frontier level entries hlevel hmatch hvacant
      have hdiv : n.toNat / 2 ^ (level + 1) = n.toNat / 2 ^ level / 2 := by
        rw [pow_succ, Nat.div_div_eq_div_mul]
      simp only [frontierMatches] at hmatch
      by_cases hbit : (n >>> UInt64.ofNat level) &&& 1 = 0
      · -- a clear bit: no entry
        rw [if_pos hbit] at hmatch
        obtain ⟨htake, hdrop⟩ := take_succ_of_vacant hvacant
        obtain ⟨upper, hload, hshape⟩ :=
          ih frontier (level + 1) entries (by omega) hmatch hdrop
        refine ⟨none :: upper, ?_, ?_, ?_⟩
        · rw [hload, htake, List.append_assoc]
          rfl
        · have := (bit_test (by omega)).mp hbit
          simp [this]
        · rwa [← hdiv]
      · -- a set bit: the next entry
        rw [if_neg hbit] at hmatch
        cases entries with
        | nil => simp at hmatch
        | cons entry entries =>
            simp only [Bool.and_eq_true, beq_iff_eq,
              TransparencyMerkleSubtree.valid] at hmatch
            obtain ⟨⟨hlevelEq, -, hvalid⟩, hmatch⟩ := hmatch
            obtain ⟨hlt, htake, hdrop⟩ :=
              slots_set_vacant hlevel entry.hash hvacant
            obtain ⟨upper, hload, hshape⟩ := ih (frontier.set level entry.hash hlt)
              (level + 1) entries (by omega) hmatch hdrop
            have hset : loadFrontier frontier (entry :: entries)
                = loadFrontier (frontier.set level entry.hash hlt) entries := by
              rw [loadFrontier, List.foldl_cons, dif_pos (by omega)]
              simp only [hlevelEq]
              rfl
            refine ⟨some entry.hash :: upper, ?_, ?_, ?_⟩
            · rw [hset, hload, htake, slot_of_ne_nil (validSha256_ne_nil hvalid),
                List.append_assoc]
              rfl
            · rw [bit_test (by omega)] at hbit
              have : n.toNat / 2 ^ level % 2 = 1 := by omega
              simp [this]
            · rwa [← hdiv]

/-- The frontier a valid proof loads has the shape of the old size. -/
theorem shaped_loadFrontier {n : UInt64}
    {entries : List TransparencyMerkleSubtree}
    (h : frontierMatches n 64 0 entries = true) :
    Shaped n.toNat (slots (loadFrontier emptyFrontier entries)) := by
  obtain ⟨upper, hload, hshape⟩ := loadFrontier_spec n 64 emptyFrontier 0
    entries rfl h slots_emptyFrontier
  rw [hload, List.take_zero, List.nil_append]
  simpa using hshape

-- === the subtrees

/-- The subtrees of a proof as blocks. -/
def blocksOf (subtrees : List TransparencyMerkleSubtree) : List (Nat × Bytes) :=
  subtrees.map fun subtree => (subtree.level.toNat, subtree.hash)

theorem toNat_size {subtree : TransparencyMerkleSubtree}
    (h : subtree.level.toNat < 64) :
    subtree.size.toNat = 2 ^ subtree.level.toNat :=
  toNat_levelSize h

/-- One subtree of a valid proof: aligned, in range, and the size after
it does not wrap. -/
theorem subtreesReach_cons {n represented : UInt64}
    {subtree : TransparencyMerkleSubtree}
    {rest : List TransparencyMerkleSubtree} :
    subtreesReach n represented (subtree :: rest) = true ↔
      (subtree.level.toNat < 64 ∧ validSha256 subtree.hash = true) ∧
      represented.toNat % 2 ^ subtree.level.toNat = 0 ∧
      represented.toNat + 2 ^ subtree.level.toNat < 2 ^ 64 ∧
      represented.toNat + 2 ^ subtree.level.toNat ≤ n.toNat ∧
      subtreesReach n (represented + subtree.size) rest = true := by
  have hlevel : subtree.level < 64 ↔ subtree.level.toNat < 64 :=
    UInt8.lt_iff_toNat_lt
  simp only [subtreesReach, TransparencyMerkleSubtree.valid, Bool.and_eq_true,
    decide_eq_true_eq, hlevel]
  constructor
  · rintro ⟨⟨⟨⟨hvalid, haligned⟩, hroom⟩, hle⟩, hrest⟩
    have hsum : represented.toNat + 2 ^ subtree.level.toNat < 2 ^ 64 := by
      have hn := overflow_iff (n := represented) (toNat_size hvalid.1)
      rw [gt_iff_lt, ← UInt64.not_le] at hn
      by_contra hc
      exact hn.mpr (by omega) hroom
    have hadd : (represented + subtree.size).toNat
        = represented.toNat + 2 ^ subtree.level.toNat := by
      rw [UInt64.toNat_add, toNat_size hvalid.1, Nat.mod_eq_of_lt hsum]
    refine ⟨hvalid, (aligned_iff (toNat_size hvalid.1)).mp haligned, hsum, ?_, hrest⟩
    rw [← hadd]
    exact UInt64.le_iff_toNat_le.mp hle
  · rintro ⟨hvalid, haligned, hsum, hle, hrest⟩
    have hadd : (represented + subtree.size).toNat
        = represented.toNat + 2 ^ subtree.level.toNat := by
      rw [UInt64.toNat_add, toNat_size hvalid.1, Nat.mod_eq_of_lt hsum]
    refine ⟨⟨⟨⟨hvalid, (aligned_iff (toNat_size hvalid.1)).mpr haligned⟩, ?_⟩, ?_⟩, hrest⟩
    · have hn := overflow_iff (n := represented) (toNat_size hvalid.1)
      rw [gt_iff_lt, ← UInt64.not_le] at hn
      by_contra hc
      exact absurd (hn.mp hc) (by omega)
    · rw [UInt64.le_iff_toNat_le, hadd]
      exact hle

theorem toNat_represented {represented : UInt64}
    {subtree : TransparencyMerkleSubtree} (hlevel : subtree.level.toNat < 64)
    (hsum : represented.toNat + 2 ^ subtree.level.toNat < 2 ^ 64) :
    (represented + subtree.size).toNat
      = represented.toNat + 2 ^ subtree.level.toNat := by
  rw [UInt64.toNat_add, toNat_size hlevel, Nat.mod_eq_of_lt hsum]

/-- The subtrees of a valid proof cover the gap between the sizes. -/
theorem covers_of_subtreesReach {n : UInt64} :
    ∀ {subtrees : List TransparencyMerkleSubtree} {represented : UInt64},
      subtreesReach n represented subtrees = true →
      Covers represented.toNat n.toNat (blocksOf subtrees)
  | [], represented, h => by
      have heq : represented = n := by simpa [subtreesReach] using h
      exact congrArg UInt64.toNat heq
  | subtree :: rest, represented, h => by
      obtain ⟨⟨hlevel, -⟩, haligned, hsum, -, hrest⟩ := subtreesReach_cons.mp h
      refine ⟨haligned, ?_⟩
      rw [← toNat_represented hlevel hsum]
      exact covers_of_subtreesReach hrest

variable (P : Platform)

theorem frontierRoot_ne_nil {frontier : Frontier} {n : Nat}
    (h : Shaped n (slots frontier)) (hn : 0 < n) :
    transparencyMerkleFrontierRoot P frontier ≠ [] := by
  obtain ⟨r, hr⟩ : ∃ r, foldRoot (merkleNodeHash P) (slots frontier) none
      = some r := foldRoot_isSome (merkleNodeHash P) h (Or.inl hn)
  rw [← slot_frontierRoot] at hr
  intro hnil
  rw [hnil] at hr
  simp at hr

/-- The appends of the verifier on the subtrees of a valid proof all
succeed, and carry the blocks. -/
theorem appendSubtrees_spec {n : UInt64} :
    ∀ (subtrees : List TransparencyMerkleSubtree) (frontier : Frontier)
      (represented : UInt64), Shaped represented.toNat (slots frontier) →
      subtreesReach n represented subtrees = true →
      ∃ frontier', appendSubtrees P frontier represented
          (transparencyMerkleFrontierRoot P frontier) subtrees
          = some (transparencyMerkleFrontierRoot P frontier', n)
        ∧ slots frontier'
          = carryBlocks (merkleNodeHash P) (slots frontier) (blocksOf subtrees)
  | [], frontier, represented, _, h => by
      have heq : represented = n := by simpa [subtreesReach] using h
      exact ⟨frontier, by rw [appendSubtrees, heq], rfl⟩
  | subtree :: rest, frontier, represented, hshape, h => by
      obtain ⟨⟨hlevel, hvalid⟩, haligned, hsum, -, hrest⟩ :=
        subtreesReach_cons.mp h
      obtain ⟨frontier₁, hcall, hslots₁⟩ :=
        append_subtree_spec P hvalid hlevel hshape haligned hsum
      have hnext := toNat_represented hlevel hsum
      have hshape₁ : Shaped (represented + subtree.size).toNat
          (slots frontier₁) := by
        rw [hslots₁, hnext]
        exact hshape.carryAt _ _ _ haligned (by simpa using hsum)
      have hroot := frontierRoot_ne_nil P hshape₁ (by
        have := Nat.two_pow_pos subtree.level.toNat
        omega)
      obtain ⟨frontier', happend, hslots'⟩ :=
        appendSubtrees_spec rest frontier₁ (represented + subtree.size) hshape₁
          hrest
      refine ⟨frontier', ?_, ?_⟩
      · rw [appendSubtrees, hcall]
        simp only [List.isEmpty_iff, hroot, if_false]
        exact happend
      · rw [hslots', hslots₁]
        rfl

end RbfSafe
