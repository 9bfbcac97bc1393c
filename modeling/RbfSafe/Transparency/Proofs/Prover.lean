/-
The compact prover always succeeds.

# The cursor loop

Each block is the largest one that is aligned at the cursor and still
fits (`blockLevel_spec`). `cursorLoop_spec` runs the loop: its blocks
carry the counter of the leaves before the cursor to the counter of all
leaves, and the verifier's walk over the sizes accepts them.

The bound on their number is the loop's other invariant. While blocks
are limited by alignment, the alignment of the cursor grows with every
block; once a block is limited by what is left, what is left falls below
that block for good. So with a cursor aligned to `2 ^ a` and less than
`2 ^ b` left there are at most `b + (b - a)` blocks, which is 128 at the
start.

# The proof

Everything the verifier recomputes is a counter of leaves, so the
acceptance is read off `Tracks`.
-/
import RbfSafe.Transparency.Proofs.Publication
import RbfSafe.Transparency.Proofs.Subtrees

namespace RbfSafe

open Lib.Forest

-- === the block chosen

/-- The block chosen is aligned, fits, and is maximal. -/
theorem blockLevel_spec (cursor remaining : UInt64) : ∀ level : Nat,
    level ≤ 63 → 2 ^ level ≤ remaining.toNat →
    cursor.toNat % 2 ^ level = 0 →
    let chosen := blockLevel cursor remaining level
    chosen ≤ 63 ∧ 2 ^ chosen ≤ remaining.toNat ∧
      cursor.toNat % 2 ^ chosen = 0 ∧
      (remaining.toNat < 2 ^ (chosen + 1) ∨
        cursor.toNat % 2 ^ (chosen + 1) ≠ 0) := by
  intro level
  induction hm : 63 - level generalizing level with
  | zero =>
      intro hle hfit haligned
      have hlevel : level = 63 := by omega
      rw [blockLevel, if_neg (by omega)]
      refine ⟨hle, hfit, haligned, Or.inl ?_⟩
      rw [hlevel]
      exact remaining.toNat_lt
  | succ m ih =>
      intro hle hfit haligned
      have hsize := toNat_shiftLeft_ofNat (k := level + 1) (by omega)
      rw [blockLevel, if_pos (by omega)]
      split
      · next hstop =>
          refine ⟨hle, hfit, haligned, ?_⟩
          rcases hstop with hbig | hmask
          · left
            rw [gt_iff_lt, UInt64.lt_iff_toNat_lt, hsize] at hbig
            exact hbig
          · right
            exact fun h => hmask ((aligned_iff hsize).mpr h)
      · next hgo =>
          rw [not_or, gt_iff_lt, UInt64.lt_iff_toNat_lt, hsize, not_not,
            aligned_iff hsize] at hgo
          exact ih (level + 1) (by omega) (by omega) (by omega) hgo.2

/-- After a block the cursor is at least as aligned as the block. -/
theorem aligned_after {cursor chosen : Nat} (h : cursor % 2 ^ chosen = 0) :
    (cursor + 2 ^ chosen) % 2 ^ chosen = 0 := by
  rw [Nat.add_mod_right, h]

/-- After a block limited by alignment the cursor is more aligned. -/
theorem aligned_after_succ {cursor chosen : Nat} (h : cursor % 2 ^ chosen = 0)
    (hmax : cursor % 2 ^ (chosen + 1) ≠ 0) :
    (cursor + 2 ^ chosen) % 2 ^ (chosen + 1) = 0 := by
  obtain ⟨q, hq⟩ := Nat.dvd_of_mod_eq_zero h
  have hodd : q % 2 = 1 := by
    by_contra heven
    obtain ⟨r, hr⟩ : 2 ∣ q := Nat.dvd_of_mod_eq_zero (by omega)
    refine hmax ?_
    rw [hq, hr, pow_succ, ← mul_assoc]
    exact Nat.mul_mod_right _ _
  obtain ⟨r, hr⟩ : 2 ∣ q + 1 := Nat.dvd_of_mod_eq_zero (by omega)
  rw [hq, show 2 ^ chosen * q + 2 ^ chosen = 2 ^ chosen * (q + 1) from by ring,
    hr, pow_succ, ← mul_assoc]
  exact Nat.mul_mod_right _ _

/-- Alignment to a power is alignment to every smaller one. -/
theorem aligned_mono {n a b : Nat} (hab : a ≤ b) (h : n % 2 ^ b = 0) :
    n % 2 ^ a = 0 :=
  Nat.mod_eq_zero_of_dvd
    ((Nat.pow_dvd_pow 2 hab).trans (Nat.dvd_of_mod_eq_zero h))

/-- One block uses up at least one of the `b + (b - a)` blocks left. -/
theorem block_budget {cursor remaining chosen a b blocks : Nat}
    (hfit : 2 ^ chosen ≤ remaining) (haligned : cursor % 2 ^ chosen = 0)
    (hmax : remaining < 2 ^ (chosen + 1) ∨ cursor % 2 ^ (chosen + 1) ≠ 0)
    (ha : cursor % 2 ^ a = 0) (hb : remaining < 2 ^ b)
    (hrest : ∀ a' b', (cursor + 2 ^ chosen) % 2 ^ a' = 0 →
      remaining - 2 ^ chosen < 2 ^ b' → blocks ≤ b' + (b' - a')) :
    blocks + 1 ≤ b + (b - a) := by
  have hchosen : chosen < b :=
    (Nat.pow_lt_pow_iff_right (by omega : 1 < 2)).mp (by omega)
  have hpow : 2 ^ (chosen + 1) = 2 * 2 ^ chosen := by rw [pow_succ]; ring
  by_cases hsize : remaining < 2 ^ (chosen + 1)
  · -- what is left falls below the block
    have hle := hrest chosen chosen (aligned_after haligned) (by omega)
    omega
  · -- the cursor becomes more aligned
    have hodd := hmax.resolve_left hsize
    have hac : a ≤ chosen := by
      by_contra hlt
      exact hodd (aligned_mono (by omega) ha)
    have hle := hrest (chosen + 1) b (aligned_after_succ haligned hodd) (by omega)
    omega

-- === the cursor loop

variable {P : Platform}

/-- Appending the block at the cursor keeps the counter in step. -/
theorem Tracks.append_block {frontier : Frontier} {leafIds : List Bytes}
    {cursor : UInt64} {k : Nat} (hk : k < 64)
    (h : Tracks P frontier (leafIds.take cursor.toNat))
    (haligned : cursor.toNat % 2 ^ k = 0)
    (hfit : cursor.toNat + 2 ^ k ≤ leafIds.length)
    (hlen : leafIds.length < 2 ^ 64) :
    ∃ frontier', transparencyAppendMerkleSubtree P frontier
        (transparencyMerkleRoot P ((leafIds.drop cursor.toNat).take (2 ^ k)))
        (UInt8.ofNat k) cursor
        = (transparencyMerkleFrontierRoot P frontier', frontier')
      ∧ Tracks P frontier' (leafIds.take (cursor.toNat + 2 ^ k))
      ∧ slots frontier' = carryAt (merkleNodeHash P) k
          (transparencyMerkleRoot P ((leafIds.drop cursor.toNat).take (2 ^ k)))
          (slots frontier) := by
  have hlevel : (UInt8.ofNat k).toNat = k := UInt8.toNat_ofNat_of_lt' (by
    show k < 2 ^ 8
    omega)
  have hblock : (leafIds.drop cursor.toNat).take (2 ^ k) ≠ [] := by
    intro hnil
    have hl := congrArg List.length hnil
    rw [List.length_take, List.length_drop, List.length_nil] at hl
    have := Nat.two_pow_pos k
    omega
  have htake : (leafIds.take cursor.toNat).length = cursor.toNat := by
    rw [List.length_take]
    omega
  have hshape := h.shaped (by omega)
  rw [htake] at hshape
  have hlevel64 : (UInt8.ofNat k).toNat < 64 := by omega
  obtain ⟨frontier', hcall, hslots⟩ := append_subtree_spec P (n := cursor)
    (validSha256_transparencyMerkleRoot P hblock) hlevel64 hshape
    (by rw [hlevel]; exact haligned) (by rw [hlevel]; omega)
  rw [hlevel] at hslots
  refine ⟨frontier', hcall, ?_, hslots⟩
  have hroot : treeRoot (merkleNodeHash P) (((leafHashes P leafIds).take
      (cursor.toNat + 2 ^ k)).drop cursor.toNat)
      = some (transparencyMerkleRoot P
        ((leafIds.drop cursor.toNat).take (2 ^ k))) := by
    rw [← treeRoot_leafHashes P hblock, List.drop_take, Nat.add_sub_cancel_left,
      leafHashes_take, leafHashes_drop]
  obtain ⟨r, hr, hcarry, -⟩ := carryAt_take (merkleNodeHash P) (N := 64)
    (l := leafHashes P leafIds) haligned (by simpa using hfit)
  rw [hroot, Option.some.injEq] at hr
  rw [Tracks, hslots, h, leafHashes_take, hr, hcarry, leafHashes_take]

/-- The cursor loop succeeds: its blocks are accepted by the walk over
the sizes, carry the counter to that of all leaves, and are few. -/
theorem cursorLoop_spec {leafIds : List Bytes} {n : UInt64}
    (hn : n.toNat = leafIds.length) (left : Nat) :
    ∀ (frontier : Frontier) (cursor : UInt64),
      n.toNat - cursor.toNat ≤ left → cursor.toNat ≤ n.toNat →
      Tracks P frontier (leafIds.take cursor.toNat) →
      ∃ subtrees, cursorLoop P leafIds n frontier cursor = some subtrees ∧
        subtreesReach n cursor subtrees = true ∧
        carryBlocks (merkleNodeHash P) (slots frontier) (blocksOf subtrees)
          = peaks (merkleNodeHash P) 64 (leafHashes P leafIds) ∧
        (cursor.toNat < n.toNat → subtrees ≠ []) ∧
        ∀ a b, cursor.toNat % 2 ^ a = 0 → n.toNat - cursor.toNat < 2 ^ b →
          subtrees.length ≤ b + (b - a) := by
  have hbound := n.toNat_lt
  induction left with
  | zero =>
      intro frontier cursor hleft hle htracks
      have heq : cursor = n := UInt64.toNat_inj.mp (by omega)
      refine ⟨[], ?_, ?_, ?_, ?_, ?_⟩
      · rw [cursorLoop, dif_neg]
        rw [UInt64.lt_iff_toNat_lt]
        omega
      · simp [subtreesReach, heq]
      · rw [heq, hn, List.take_length] at htracks
        exact htracks
      · intro hlt
        omega
      · intro a b _ _
        simp
  | succ left ih =>
      intro frontier cursor hleft hle htracks
      by_cases hlt : cursor < n
      · have hlt' := UInt64.lt_iff_toNat_lt.mp hlt
        have hrem : (n - cursor).toNat = n.toNat - cursor.toNat :=
          UInt64.toNat_sub_of_le _ _ (UInt64.le_iff_toNat_le.mpr hle)
        obtain ⟨hk, hfit, haligned, hmax⟩ := blockLevel_spec cursor (n - cursor)
          0 (by omega) (by rw [hrem]; omega) (by simp [Nat.mod_one])
        set k := blockLevel cursor (n - cursor) 0 with hkdef
        rw [hrem] at hfit hmax
        have hsize := toNat_shiftLeft_ofNat (k := k) (by omega)
        have hpos := Nat.two_pow_pos k
        have hadd : (cursor + (1 : UInt64) <<< UInt64.ofNat k).toNat
            = cursor.toNat + 2 ^ k := by
          rw [UInt64.toNat_add, hsize, Nat.mod_eq_of_lt (by omega)]
        have hlevel : (UInt8.ofNat k).toNat = k := UInt8.toNat_ofNat_of_lt' (by
          show k < 2 ^ 8
          omega)
        obtain ⟨frontier', hcall, htracks', hslots'⟩ := htracks.append_block
          (k := k) (by omega) haligned (by omega) (by omega)
        have hroot : transparencyMerkleFrontierRoot P frontier' ≠ [] := by
          refine frontierRoot_ne_nil P (htracks'.shaped ?_) ?_
          · rw [List.length_take]
            omega
          · rw [List.length_take]
            omega
        set hash := transparencyMerkleRoot P
          ((leafIds.drop cursor.toNat).take (2 ^ k)) with hhash
        have hvalid : validSha256 hash = true := by
          refine validSha256_transparencyMerkleRoot P ?_
          intro hnil
          have hl := congrArg List.length hnil
          rw [List.length_take, List.length_drop, List.length_nil] at hl
          omega
        obtain ⟨rest, hrest, hreach, hcarry, -, hbudget⟩ := ih frontier'
          (cursor + (1 : UInt64) <<< UInt64.ofNat k) (by omega) (by omega)
          (by rw [hadd]; exact htracks')
        refine ⟨{ level := UInt8.ofNat k, hash := hash } :: rest, ?_, ?_, ?_,
          ?_, ?_⟩
        · rw [cursorLoop, dif_pos hlt]
          simp only [← hkdef, hsize, ← hhash, hcall, List.isEmpty_iff, hroot,
            validSha256_ne_nil hvalid, or_self, if_false, hrest]
        · rw [subtreesReach_cons]
          simp only [hlevel]
          refine ⟨⟨by omega, hvalid⟩, haligned, by omega, by omega, ?_⟩
          have hsame : TransparencyMerkleSubtree.size
              { level := UInt8.ofNat k, hash := hash }
              = (1 : UInt64) <<< UInt64.ofNat k := by
            apply UInt64.toNat_inj.mp
            rw [hsize, toNat_size (by rw [hlevel]; omega), hlevel]
          rw [hsame]
          exact hreach
        · rw [← hcarry, hslots']
          simp [blocksOf, carryBlocks, hlevel]
        · simp
        · intro a b ha hb
          rw [List.length_cons]
          refine block_budget hfit haligned hmax ha hb fun a' b' ha' hb' => ?_
          refine hbudget a' b' (by rw [hadd]; exact ha') ?_
          rw [hadd]
          omega
      · rw [UInt64.lt_iff_toNat_lt] at hlt
        exact ih frontier cursor (by omega) hle htracks

-- === the old frontier

/-- Rebuilding the frontier from valid leaves succeeds. -/
theorem rebuildFrontier_spec : ∀ (rest : List Bytes) (frontier : Frontier)
    (before : List Bytes), Tracks P frontier before →
    (∀ l ∈ rest, validSha256 l = true) →
    before.length + rest.length < 2 ^ 64 →
    ∃ frontier', rebuildFrontier P frontier (UInt64.ofNat before.length) rest
        = some frontier'
      ∧ Tracks P frontier' (before ++ rest)
  | [], frontier, before, h, _, _ => ⟨frontier, rfl, by simpa using h⟩
  | leafId :: rest, frontier, before, h, hvalid, hlen => by
      rw [List.length_cons] at hlen
      obtain ⟨frontier₁, hcall, htracks⟩ := h.append_leaf
        (hvalid leafId List.mem_cons_self) (by omega)
      have hroot : transparencyMerkleFrontierRoot P frontier₁ ≠ [] := by
        refine frontierRoot_ne_nil P (htracks.shaped ?_) ?_
        · simp
          omega
        · simp
      have hnext : UInt64.ofNat before.length + 1
          = UInt64.ofNat (before ++ [leafId]).length := by
        rw [List.length_append, List.length_singleton, UInt64.ofNat_add]
        rfl
      obtain ⟨frontier', hrest, htracks'⟩ := rebuildFrontier_spec rest frontier₁
        (before ++ [leafId]) htracks
        (fun l hl => hvalid l (List.mem_cons_of_mem _ hl)) (by simp; omega)
      refine ⟨frontier', ?_, by simpa using htracks'⟩
      rw [rebuildFrontier, hcall]
      simp only [List.isEmpty_iff, hroot, if_false, hnext]
      exact hrest

/-- The entries emitted from `level` up, read back by the verifier. -/
theorem frontierEntries_spec {frontier : Frontier} {n : UInt64}
    (hshape : Shaped n.toNat (slots frontier))
    (hvalid : ∀ k (hk : k < 64), frontier[k] ≠ [] →
      validSha256 frontier[k] = true) (left : Nat) :
    ∀ (level : Nat) (loaded : Frontier), level + left = 64 →
      (slots loaded).drop level = List.replicate left none →
      frontierMatches n left level (frontierEntries frontier left level) = true ∧
      slots (loadFrontier loaded (frontierEntries frontier left level))
        = (slots loaded).take level ++ (slots frontier).drop level ∧
      (frontierEntries frontier left level).map (fun entry => entry.level.toNat)
        = (List.range' level left).filter fun k => n.toNat.testBit k := by
  induction left with
  | zero =>
      intro level loaded hlevel _
      refine ⟨rfl, ?_, rfl⟩
      rw [List.drop_of_length_le (by simp; omega),
        List.take_of_length_le (by simp; omega), List.append_nil]
      rfl
  | succ left ih =>
      intro level loaded hlevel hvacant
      have hlt : level < 64 := by omega
      have hlen : level < (slots frontier).length := by simpa using hlt
      have hgetD : frontier.toList.getD level [] = frontier[level] := by
        rw [List.getD_eq_getElem?_getD]
        simp [hlt]
      have hget := slots_getElem frontier hlt
      have hbit := hshape.getElem?_isSome hget
      rw [slot_isSome] at hbit
      have hdrop : (slots frontier).drop level
          = slot frontier[level] :: (slots frontier).drop (level + 1) := by
        rw [List.drop_eq_getElem_cons hlen]
        congr 1
        rw [List.getElem?_eq_getElem hlen] at hget
        exact Option.some.inj hget
      have htest := bit_test (n := n) hlt
      rw [hdrop, List.range'_succ, List.filter_cons, frontierEntries, hgetD]
      by_cases hempty : frontier[level] = []
      · -- a vacant slot emits nothing
        have hclear : n.toNat.testBit level = false := by
          simpa [hempty] using hbit.symm
        have hzero : (n >>> UInt64.ofNat level) &&& 1 = 0 := by
          rw [htest]
          simpa [Nat.testBit_eq_decide_div_mod_eq] using hclear
        obtain ⟨htake, hrest⟩ := take_succ_of_vacant hvacant
        obtain ⟨hmatch, hload, hmap⟩ := ih (level + 1) loaded (by omega) hrest
        rw [if_pos (by simp [hempty])]
        refine ⟨?_, ?_, ?_⟩
        · simp only [frontierMatches, hzero, if_true]
          exact hmatch
        · rw [hload, htake, hempty, slot_nil, List.append_assoc]
          rfl
        · rw [hmap, hclear]
          rfl
      · -- an occupied slot emits its entry
        have hset : n.toNat.testBit level = true := by
          rw [← hbit]
          simpa using hempty
        have hone : ¬(n >>> UInt64.ofNat level) &&& 1 = 0 := by
          rw [htest]
          have h : n.toNat / 2 ^ level % 2 = 1 := by
            simpa [Nat.testBit_eq_decide_div_mod_eq] using hset
          omega
        have hlevelEq : (UInt8.ofNat level).toNat = level :=
          UInt8.toNat_ofNat_of_lt' (by
            show level < 2 ^ 8
            omega)
        obtain ⟨hlt', htake, hrest⟩ :=
          slots_set_vacant hlevel frontier[level] hvacant
        obtain ⟨hmatch, hload, hmap⟩ := ih (level + 1)
          (loaded.set level frontier[level] hlt') (by omega) hrest
        have hloaded : loadFrontier loaded
            ({ level := UInt8.ofNat level, hash := frontier[level] }
              :: frontierEntries frontier left (level + 1))
            = loadFrontier (loaded.set level frontier[level] hlt')
              (frontierEntries frontier left (level + 1)) := by
          rw [loadFrontier, List.foldl_cons, dif_pos (by rw [hlevelEq]; exact hlt)]
          simp only [hlevelEq]
          rfl
        rw [if_neg (by simpa using hempty)]
        refine ⟨?_, ?_, ?_⟩
        · have hlevel8 : UInt8.ofNat level < 64 := by
            rw [UInt8.lt_iff_toNat_lt, hlevelEq]
            exact hlt
          simp only [frontierMatches, hone, if_false, Bool.and_eq_true,
            beq_iff_eq, TransparencyMerkleSubtree.valid, decide_eq_true_eq]
          exact ⟨⟨hlevelEq, hlevel8, hvalid level hlt hempty⟩, hmatch⟩
        · rw [hloaded, hload, htake, slot_of_ne_nil hempty, List.append_assoc]
          rfl
        · rw [List.map_cons, hmap, hset, hlevelEq]
          rfl

-- === the proof

/-- Occupied slots of a frontier in step with leaves are digests. -/
theorem Tracks.validSlots {frontier : Frontier} {leafIds : List Bytes}
    (h : Tracks P frontier leafIds) (hlen : leafIds.length < 2 ^ 64) :
    ∀ k (hk : k < 64), frontier[k] ≠ [] → validSha256 frontier[k] = true := by
  intro k hk hne
  obtain ⟨hiff, hroot⟩ := h.slot hlen hk
  rw [hroot hne]
  refine validSha256_transparencyMerkleRoot P ?_
  intro hnil
  have hl := length_alignedBlock (hiff.mp hne)
  rw [hnil] at hl
  exact absurd hl.symm (Nat.two_pow_pos k).ne'

/-- The verifier loads the frontier the entries were listed from. -/
theorem Tracks.reload {frontier : Frontier} {leafIds : List Bytes}
    (h : Tracks P frontier leafIds) (hlen : leafIds.length < 2 ^ 64) :
    loadFrontier emptyFrontier (frontierEntries frontier 64 0) = frontier := by
  have hn : (UInt64.ofNat leafIds.length).toNat = leafIds.length :=
    toNat_ofNat_length hlen
  obtain ⟨-, hload, -⟩ := frontierEntries_spec (n := UInt64.ofNat leafIds.length)
    (by rw [hn]; exact h.shaped hlen) (h.validSlots hlen) 64 0 emptyFrontier
    rfl slots_emptyFrontier
  exact slots_inj (by rw [hload]; simp)

/-- What the prover puts into a proof between two checkpoints is accepted
by the verifier. -/
theorem assembled_accepted {identity : TransparencyLogIdentity}
    {leafIds : List Bytes} {old new : TransparencyLogCheckpoint} {m n : UInt64}
    {frontier : Frontier} {subtrees : List TransparencyMerkleSubtree}
    (hidentity : identity.valid P = true)
    (hold : CheckpointOf P identity (leafIds.take m.toNat) old)
    (hnew : CheckpointOf P identity leafIds new)
    (hm : 0 < m.toNat) (hmn : m.toNat < n.toNat)
    (hn : n.toNat = leafIds.length)
    (htracks : Tracks P frontier (leafIds.take m.toNat))
    (hreach : subtreesReach n m subtrees = true)
    (hcarry : carryBlocks (merkleNodeHash P) (slots frontier) (blocksOf subtrees)
      = peaks (merkleNodeHash P) 64 (leafHashes P leafIds))
    (hne : subtrees ≠ []) (hfew : subtrees.length ≤ 128) :
    let proof := assembleCompactProof P identity old new m n frontier subtrees
    proof.valid P = true ∧
      proof.oldFrontier.map (fun entry => entry.level.toNat)
        = (List.range 64).filter (fun k => m.toNat.testBit k) ∧
      verifyTransparencyCompactConsistency P identity old new proof
        = .ok () := by
  intro proof
  have hnlt := n.toNat_lt
  have hlen : (leafIds.take m.toNat).length = m.toNat := by
    rw [List.length_take]
    omega
  have hshape : Shaped m.toNat (slots frontier) := by
    have hs := htracks.shaped (by omega)
    rwa [hlen] at hs
  obtain ⟨hmatch, hload, hlevels⟩ := frontierEntries_spec hshape
    (htracks.validSlots (by omega)) 64 0 emptyFrontier rfl slots_emptyFrontier
  have hloaded := htracks.reload (by omega)
  have hlevels' : (frontierEntries frontier 64 0).map
      (fun entry => entry.level.toNat)
      = (List.range 64).filter fun k => m.toNat.testBit k := by
    rw [hlevels, List.range_eq_range']
  -- the old frontier has an entry, since the old size has a bit
  have hsome : frontierEntries frontier 64 0 ≠ [] := by
    intro hnil
    rw [hnil] at hload
    have hvacant : slots frontier = List.replicate 64 none := by
      rw [List.take_zero, List.nil_append, List.drop_zero] at hload
      rw [← hload]
      exact slots_emptyFrontier
    have hr := frontierRoot_ne_nil P hshape hm
    refine hr ?_
    have he : frontier = emptyFrontier :=
      slots_inj (hvacant.trans slots_emptyFrontier.symm)
    rw [he]
    rfl
  have hcount : (frontierEntries frontier 64 0).length ≤ 64 := by
    have hl := congrArg List.length hlevels'
    rw [List.length_map] at hl
    rw [hl]
    exact (List.length_filter_le _ _).trans (by simp)
  -- checkpoints
  have holdSize : old.treeSize = m := by
    apply UInt64.toNat_inj.mp
    rw [hold.treeSize, hlen]
  have hnewSize : new.treeSize = n := by
    apply UInt64.toNat_inj.mp
    rw [hnew.treeSize, hn]
  have holdRoot : transparencyMerkleFrontierRoot P frontier
      = old.rootHash := by
    rw [hold.rootHash]
    refine htracks.root ?_ (by omega)
    intro hnil
    rw [hnil] at hlen
    simp at hlen
    omega
  have hnewRoot : ∀ {frontier' : Frontier}, slots frontier'
      = peaks (merkleNodeHash P) 64 (leafHashes P leafIds) →
      transparencyMerkleFrontierRoot P frontier' = new.rootHash := by
    intro frontier' hslots
    have htracks' : Tracks P frontier' leafIds := hslots
    have hne' : leafIds ≠ [] := by
      intro hnil
      rw [hnil] at hn
      simp at hn
      omega
    rw [hnew.rootHash]
    exact htracks'.root hne' (by omega)
  obtain ⟨holdId, holdRootValid⟩ := checkpoint_valid hold.valid
  obtain ⟨hnewId, hnewRootValid⟩ := checkpoint_valid hnew.valid
  have hmzero : m ≠ 0 := by
    rintro rfl
    simp at hm
  have hvalid : proof.valid P = true := by
    have hidValid : validSha256 proof.id = true := P.validSha256_digest _
    simp only [TransparencyCompactConsistencyProof.valid, Bool.and_eq_true,
      beq_iff_eq, decide_eq_true_eq]
    refine ⟨⟨⟨⟨⟨⟨⟨⟨⟨⟨⟨⟨⟨⟨⟨rfl, hidValid⟩, identity_valid hidentity⟩, holdId⟩,
      hnewId⟩, hmzero⟩, UInt64.lt_iff_toNat_lt.mpr hmn⟩, holdRootValid⟩,
      hnewRootValid⟩, ?_⟩, hcount⟩, ?_⟩, hfew⟩, rfl⟩, hmatch⟩, hreach⟩
    · show (!(frontierEntries frontier 64 0).isEmpty) = true
      simpa using hsome
    · show (!subtrees.isEmpty) = true
      simpa using hne
  refine ⟨hvalid, hlevels', ?_⟩
  obtain ⟨frontier', happend, hslots'⟩ :=
    appendSubtrees_spec P subtrees frontier m hshape hreach
  rw [hcarry] at hslots'
  rw [holdRoot, hnewRoot hslots'] at happend
  rw [verifyTransparencyCompactConsistency, ite_failure_eq_ok]
  refine ⟨by simp [hidentity, hold.valid, hnew.valid, hvalid], ?_⟩
  rw [hold.verified, hnew.verified, ok_bind, ok_bind, ite_failure_eq_ok]
  have hloaded' : loadFrontier emptyFrontier proof.oldFrontier = frontier :=
    hloaded
  have happend' : appendSubtrees P (loadFrontier emptyFrontier proof.oldFrontier)
      proof.oldTreeSize old.rootHash proof.appendedSubtrees
      = some (new.rootHash, n) := by
    rw [hloaded']
    exact happend
  refine ⟨?_, ite_failure_eq_ok.mpr ⟨?_, ?_⟩⟩
  · simp [holdSize, hnewSize, proof, assembleCompactProof]
  · rw [hloaded', not_not]
    exact holdRoot
  · rw [happend']
    exact ite_failure_eq_ok.mpr ⟨by simp [proof, assembleCompactProof], rfl⟩

/-- **Completeness of the compact prover.** For every valid log of `n`
records and every `0 < m < n` the prover succeeds; its proof is valid,
lists the set bits of `m` in increasing level, covers the gap up to `n`
with at most 128 aligned subtrees, and is accepted against the stored
checkpoints of sizes `m` and `n`. -/
theorem compactConsistencyProof_complete {log : TransparencyLog}
    (hlog : log.valid P = true) {oldTreeSize : UInt64}
    (hpos : 0 < oldTreeSize.toNat)
    (hlt : oldTreeSize.toNat < log.records.length) :
    ∃ proof old new, log.compactConsistencyProof P oldTreeSize = .ok proof ∧
      log.records[oldTreeSize.toNat - 1]? = some old ∧
      log.records.getLast? = some new ∧
      old.checkpoint.treeSize = oldTreeSize ∧
      new.checkpoint.treeSize.toNat = log.records.length ∧
      proof.valid P = true ∧
      proof.oldFrontier.map (fun entry => entry.level.toNat)
        = (List.range 64).filter (fun k => oldTreeSize.toNat.testBit k) ∧
      1 ≤ proof.appendedSubtrees.length ∧
      proof.appendedSubtrees.length ≤ 128 ∧
      Covers oldTreeSize.toNat log.records.length
        (blocksOf proof.appendedSubtrees) ∧
      verifyTransparencyCompactConsistency P log.identity old.checkpoint
        new.checkpoint proof = .ok () := by
  have hvalid := valid_log hlog
  have hids := length_leafIds log
  have hn : (UInt64.ofNat log.records.length).toNat = log.records.length :=
    toNat_ofNat_length hvalid.size
  obtain ⟨old, hold⟩ : ∃ old, log.records[oldTreeSize.toNat - 1]? = some old :=
    ⟨_, List.getElem?_eq_getElem (by omega)⟩
  obtain ⟨new, hlast⟩ : ∃ new, log.records[log.records.length - 1]? = some new :=
    ⟨_, List.getElem?_eq_getElem (by omega)⟩
  have hnew : log.records.getLast? = some new := by
    rw [List.getLast?_eq_getElem?, hlast]
  have htake : (log.leafIds.take oldTreeSize.toNat).length
      = oldTreeSize.toNat := by
    rw [List.length_take]
    omega
  -- the old frontier
  obtain ⟨frontier, hrebuild, htracks⟩ := rebuildFrontier_spec
    (log.leafIds.take oldTreeSize.toNat) emptyFrontier [] (tracks_empty P)
    (fun l hl => hvalid.leafIds l (List.mem_of_mem_take hl))
    (by rw [htake]; simpa using oldTreeSize.toNat_lt)
  rw [List.nil_append] at htracks
  -- the appended subtrees
  have hnIds : (UInt64.ofNat log.records.length).toNat = log.leafIds.length :=
    hn.trans hids.symm
  obtain ⟨subtrees, hloop, hreach, hcarry, hne, hfew⟩ := cursorLoop_spec
    hnIds _ frontier oldTreeSize le_rfl (by omega) htracks
  have hcover := covers_of_subtreesReach hreach
  rw [hn] at hcover
  have hleft : (UInt64.ofNat log.records.length).toNat - oldTreeSize.toNat
      < 2 ^ 64 := by
    have := hvalid.size
    rw [hn]
    omega
  have hold' := hvalid.record hold
  have holdCheckpoint := hold'.checkpointOf (by omega)
  rw [show oldTreeSize.toNat - 1 + 1 = oldTreeSize.toNat from by omega]
    at holdCheckpoint
  have hnewCheckpoint := (hvalid.record hlast).checkpointOf (by omega)
  rw [show log.records.length - 1 + 1 = log.leafIds.length from by omega,
    List.take_length] at hnewCheckpoint
  obtain ⟨hproof, hlevels, hverify⟩ := assembled_accepted hvalid.identity
    holdCheckpoint hnewCheckpoint hpos (by omega) (by rw [hn, hids]) htracks
    hreach hcarry
    (hne (by omega)) (hfew 0 64 (by simp [Nat.mod_one]) hleft)
  refine ⟨_, old, new, ?_, hold, hnew, ?_, ?_, hproof, hlevels, ?_, ?_, hcover,
    hverify⟩
  · have hzero : (oldTreeSize == 0) = false := by
      rw [beq_eq_false_iff_ne]
      rintro rfl
      simp at hpos
    rw [TransparencyLog.compactConsistencyProof, if_neg, hold, hnew]
    · simp only [List.length_nil] at hrebuild
      have hzero' : UInt64.ofNat 0 = 0 := rfl
      rw [hzero'] at hrebuild
      simp only [hrebuild, hloop]
      rw [hverify]
      rfl
    · simp [hlog, hzero]
      omega
  · apply UInt64.toNat_inj.mp
    rw [hold'.treeSize]
    omega
  · have hsize := (hvalid.record hlast).treeSize
    omega
  · exact List.length_pos_iff.mpr (hne (by omega))
  · exact hfew 0 64 (by simp [Nat.mod_one]) hleft

/-- The prover on a log of two anchors. -/
theorem compactConsistencyProof_complete_sample :
    let P := host fun _ _ _ => true
    ∃ proof old new,
      (sampleLog₂ P).compactConsistencyProof P 1 = .ok proof ∧
      (sampleLog₂ P).records[0]? = some old ∧
      (sampleLog₂ P).records.getLast? = some new ∧
      verifyTransparencyCompactConsistency P (sampleLog₂ P).identity
        old.checkpoint new.checkpoint proof = .ok () := by
  intro P
  have hlt : 1 < 2 := by decide
  obtain ⟨proof, old, new, hproof, hold, hnew, -, -, -, -, -, -, -, hverify⟩ :=
    compactConsistencyProof_complete (valid_sampleLog₂ P fun _ _ _ => rfl)
      (show 0 < (1 : UInt64).toNat from by decide) hlt
  exact ⟨proof, old, new, hproof, hold, hnew, hverify⟩

end RbfSafe
