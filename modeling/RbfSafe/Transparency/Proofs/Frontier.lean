/-
The frontier of the code is a binary counter.

# The bridge

`slots` reads a frontier as a list of optional nodes, vacant where the
string is empty. Under it the functions of `Merkle` are those of
`Lib.Forest`: the batch root is `treeRoot` (`slot_merkleRootLoop`), the
frontier root is `foldRoot` (`slot_frontierRoot`), and appending a
subtree to a frontier of the right shape succeeds and is `carryAt`
(`append_subtree_spec`).

# The claim about runs

`appendLeaves` is the run of `transparency_append_merkle_leaf` over a
list of leaf ids. Its induction is on the list from the right end: the
frontier after a prefix is the counter of that prefix (`Tracks`), and
everything else follows from the counter.
-/
import RbfSafe.Core.Host
import RbfSafe.Lib.Path
import RbfSafe.Transparency.Merkle

namespace RbfSafe

open Lib.Forest

/-- A string as an optional node: the empty string is a vacancy. -/
def slot (s : Bytes) : Option Bytes := if s.isEmpty then none else some s

@[simp] theorem slot_nil : slot [] = none := rfl

theorem slot_of_ne_nil {s : Bytes} (h : s ≠ []) : slot s = some s := by
  rw [slot, if_neg (by simpa using h)]

theorem slot_isSome (s : Bytes) : (slot s).isSome = !s.isEmpty := by
  cases s <;> rfl

theorem slot_eq_some {s x : Bytes} (h : slot s = some x) : s = x := by
  cases s with
  | nil => simp at h
  | cons c s =>
      rw [slot_of_ne_nil (by simp)] at h
      exact Option.some.inj h

theorem slot_inj {s t : Bytes} (h : slot s = slot t) : s = t := by
  cases ht : slot t with
  | none =>
      rw [ht] at h
      cases s with
      | nil =>
          cases t with
          | nil => rfl
          | cons d t => simp [slot] at ht
      | cons c s => simp [slot] at h
  | some x =>
      rw [ht] at h
      rw [slot_eq_some h, slot_eq_some ht]

/-- A frontier as a counter. -/
def slots (frontier : Frontier) : List (Option Bytes) :=
  frontier.toList.map slot

@[simp] theorem length_slots (frontier : Frontier) :
    (slots frontier).length = 64 := by
  simp [slots]

theorem slots_inj {f g : Frontier} (h : slots f = slots g) : f = g := by
  have hinj : Function.Injective slot := fun _ _ => slot_inj
  exact Vector.toList_inj.mp (List.map_injective_iff.mpr hinj h)

theorem slots_getElem (frontier : Frontier) {k : Nat} (hk : k < 64) :
    (slots frontier)[k]? = some (slot frontier[k]) := by
  simp [slots, hk]

theorem slots_set (frontier : Frontier) {k : Nat} (hk : k < 64) (s : Bytes) :
    slots (frontier.set k s) = (slots frontier).set k (slot s) := by
  rw [slots, slots, Vector.toList_set, List.map_set]

theorem slots_emptyFrontier : slots emptyFrontier = List.replicate 64 none := by
  simp [slots, emptyFrontier]

section
variable (P : Platform)

/-- Nodes of the tree are digests. -/
theorem validSha256_merkleNodeHash (a b : Bytes) :
    validSha256 (merkleNodeHash P a b) = true :=
  P.validSha256_digest _

theorem merkleNodeHash_ne_nil (a b : Bytes) : merkleNodeHash P a b ≠ [] :=
  validSha256_ne_nil (validSha256_merkleNodeHash P a b)

theorem validSha256_transparencyLeafHash (l : Bytes) :
    validSha256 (transparencyLeafHash P l) = true :=
  P.validSha256_digest _

-- === the batch root

theorem merkleLevelUp_eq : ∀ level : List Bytes,
    merkleLevelUp P level = pairUp (merkleNodeHash P) level
  | [] => rfl
  | [_] => rfl
  | a :: b :: rest => by
      simp only [merkleLevelUp, pairUp, merkleLevelUp_eq rest]

/-- The batch loop computes the root of the level algorithm. -/
theorem treeRoot_eq_merkleRootLoop : ∀ {level : List Bytes}, level ≠ [] →
    treeRoot (merkleNodeHash P) level = some (merkleRootLoop P level) := by
  intro level
  induction hn : level.length using Nat.strong_induction_on
    generalizing level with
  | _ n ih =>
      intro hne
      match level with
      | [] => exact absurd rfl hne
      | [a] => rw [treeRoot_singleton, merkleRootLoop]
      | a :: b :: rest =>
          rw [treeRoot, merkleRootLoop, merkleLevelUp_eq]
          refine ih _ (hn ▸ length_pairUp_lt _ a b rest) rfl ?_
          simp [pairUp]

/-- Leaf ids as leaves of the tree. -/
abbrev leafHashes (leafIds : List Bytes) : List Bytes :=
  leafIds.map (transparencyLeafHash P)

theorem leafHashes_take (leafIds : List Bytes) (n : Nat) :
    leafHashes P (leafIds.take n) = (leafHashes P leafIds).take n :=
  List.map_take

theorem leafHashes_drop (leafIds : List Bytes) (n : Nat) :
    leafHashes P (leafIds.drop n) = (leafHashes P leafIds).drop n :=
  List.map_drop

theorem treeRoot_leafHashes {leafIds : List Bytes} (h : leafIds ≠ []) :
    treeRoot (merkleNodeHash P) (leafHashes P leafIds)
      = some (transparencyMerkleRoot P leafIds) :=
  treeRoot_eq_merkleRootLoop P (by simpa using h)

/-- What holds of every digest holds of a root. -/
theorem validSha256_treeRoot : ∀ {level : List Bytes} {r : Bytes},
    (∀ x ∈ level, validSha256 x = true) →
    treeRoot (merkleNodeHash P) level = some r → validSha256 r = true := by
  intro level
  induction hn : level.length using Nat.strong_induction_on
    generalizing level with
  | _ n ih =>
      intro r hall hr
      match level with
      | [] => simp at hr
      | [a] =>
          rw [treeRoot_singleton, Option.some.injEq] at hr
          exact hr ▸ hall a List.mem_cons_self
      | a :: b :: rest =>
          rw [treeRoot] at hr
          exact ih _ (hn ▸ length_pairUp_lt _ a b rest) rfl
            (forall_mem_pairUp _ hall fun p _ => validSha256_merkleNodeHash P p.1 p.2)
            hr

theorem validSha256_leafHashes (leafIds : List Bytes) :
    ∀ x ∈ leafHashes P leafIds, validSha256 x = true := by
  intro x hx
  obtain ⟨l, -, rfl⟩ := List.mem_map.mp hx
  exact validSha256_transparencyLeafHash P l

theorem validSha256_transparencyMerkleRoot {leafIds : List Bytes}
    (h : leafIds ≠ []) :
    validSha256 (transparencyMerkleRoot P leafIds) = true :=
  validSha256_treeRoot P (validSha256_leafHashes P leafIds)
    (treeRoot_leafHashes P h)

-- === the frontier root

/-- One round of the frontier fold absorbs one slot. -/
theorem slot_foldl (l : List Bytes) : ∀ root : Bytes,
    slot (l.foldl (fun root subtree =>
      if subtree.isEmpty then root
      else if root.isEmpty then subtree
      else merkleNodeHash P subtree root) root)
      = foldRoot (merkleNodeHash P) (l.map slot) (slot root) := by
  induction l with
  | nil => intro root; rfl
  | cons s l ih =>
      intro root
      rw [List.foldl_cons, ih, List.map_cons, foldRoot]
      congr 1
      cases s with
      | nil => rfl
      | cons c s =>
          cases root with
          | nil => rfl
          | cons d root => exact slot_of_ne_nil (merkleNodeHash_ne_nil P _ _)

theorem slot_frontierRoot (frontier : Frontier) :
    slot (transparencyMerkleFrontierRoot P frontier)
      = foldRoot (merkleNodeHash P) (slots frontier) none :=
  slot_foldl P frontier.toList []

-- === appending

/-- The carry loop on a frontier whose slots from `level` up hold the
bits of `occupied`, with room above: it succeeds and carries. -/
theorem appendCarry_spec (left : Nat) : ∀ (frontier : Frontier)
    (subtree : Bytes) (level : Nat) (occupied : UInt64), level + left = 64 →
    subtree ≠ [] → Shaped occupied.toNat ((slots frontier).drop level) →
    occupied.toNat + 1 < 2 ^ left →
    ∃ frontier', appendCarry P frontier subtree level occupied
        = (transparencyMerkleFrontierRoot P frontier', frontier')
      ∧ slots frontier' = (slots frontier).take level
        ++ carry (merkleNodeHash P) subtree ((slots frontier).drop level) := by
  induction left with
  | zero =>
      intro frontier subtree level occupied _ _ _ hroom
      simp at hroom
  | succ left ih =>
      intro frontier subtree level occupied hlevel hne hshape hroom
      have hlt : level < 64 := by omega
      have hlen : level < (slots frontier).length := by simpa using hlt
      have hget : (slots frontier)[level] = slot frontier[level] :=
        Option.some.inj (by
          rw [← List.getElem?_eq_getElem hlen, slots_getElem frontier hlt])
      have hdrop : (slots frontier).drop level
          = slot frontier[level] :: (slots frontier).drop (level + 1) := by
        rw [List.drop_eq_getElem_cons hlen, hget]
      rw [hdrop] at hshape ⊢
      obtain ⟨hbit, hrest⟩ := hshape
      rw [slot_isSome] at hbit
      have hand : (occupied &&& 1).toNat = occupied.toNat % 2 := by
        rw [UInt64.toNat_and, UInt64.toNat_one, Nat.and_one_is_mod]
      rw [appendCarry]
      rcases Nat.mod_two_eq_zero_or_one occupied.toNat with heven | hodd
      · -- a vacant slot takes the subtree
        have hzero : occupied &&& 1 = 0 := by
          apply UInt64.toNat_inj.mp
          rw [hand, heven]
          rfl
        have hempty : frontier[level].isEmpty = true := by
          simpa [heven] using hbit
        have hslot : slot frontier[level] = none := by
          rw [slot, if_pos hempty]
        refine ⟨frontier.set level subtree, ?_, ?_⟩
        · rw [if_neg (by simp [hzero]), dif_pos hlt, if_neg (by simp [hempty])]
        · rw [slots_set frontier hlt, slot_of_ne_nil hne, hslot, carry,
            List.set_eq_take_append_cons_drop, if_pos hlen]
      · -- an occupied slot is joined and cleared
        have hone : occupied &&& 1 ≠ 0 := by
          intro h
          rw [h] at hand
          simp [hodd] at hand
        have hfull : frontier[level].isEmpty = false := by
          simpa [hodd] using hbit
        have hshr : (occupied >>> 1).toNat = occupied.toNat / 2 := by
          rw [UInt64.toNat_shiftRight]
          simp [Nat.shiftRight_eq_div_pow]
        have hcleared : slots (frontier.set level [])
            = (slots frontier).take level ++ none
              :: (slots frontier).drop (level + 1) := by
          rw [slots_set frontier hlt, slot_nil,
            List.set_eq_take_append_cons_drop, if_pos hlen]
        have htake : ((slots frontier).take level).length = level := by
          rw [List.length_take, length_slots]
          omega
        have hdrop' : (slots (frontier.set level [])).drop (level + 1)
            = (slots frontier).drop (level + 1) := by
          rw [hcleared, List.drop_append, htake]
          simp
        have htake' : (slots (frontier.set level [])).take (level + 1)
            = (slots frontier).take level ++ [none] := by
          rw [hcleared, List.take_append, htake]
          simp
        obtain ⟨frontier', hcall, hslots⟩ := ih (frontier.set level [])
          (merkleNodeHash P frontier[level] subtree) (level + 1)
          (occupied >>> 1) (by omega) (merkleNodeHash_ne_nil P _ _)
          (by rw [hdrop', hshr]; exact hrest)
          (by rw [hshr]; rw [pow_succ] at hroom; omega)
        refine ⟨frontier', ?_, ?_⟩
        · rw [if_pos hone, dif_pos hlt, if_neg (by simp [hfull]), hcall]
        · have hslot : slot frontier[level] = some frontier[level] :=
            slot_of_ne_nil (by
              intro h
              rw [h] at hfull
              simp at hfull)
          rw [hslots, htake', hdrop', hslot, carry, List.append_assoc]
          rfl

theorem toNat_levelSize {level : UInt8} (h : level.toNat < 64) :
    ((1 : UInt64) <<< level.toUInt64).toNat = 2 ^ level.toNat := by
  have hlt : 2 ^ level.toNat < 2 ^ 64 := Nat.pow_lt_pow_right (by omega) h
  rw [UInt64.toNat_shiftLeft, UInt8.toNat_toUInt64, Nat.mod_eq_of_lt h,
    UInt64.toNat_one, Nat.shiftLeft_eq, one_mul, Nat.mod_eq_of_lt hlt]

/-- The source's alignment test is divisibility. -/
theorem aligned_iff {n size : UInt64} {k : Nat} (h : size.toNat = 2 ^ k) :
    n &&& (size - 1) = 0 ↔ n.toNat % 2 ^ k = 0 := by
  have hpos : 0 < 2 ^ k := Nat.two_pow_pos k
  have hmask : (size - 1).toNat = 2 ^ k - 1 := by
    rw [UInt64.toNat_sub_of_le _ _ (by
      rw [UInt64.le_iff_toNat_le, h, UInt64.toNat_one]; omega), h,
      UInt64.toNat_one]
  rw [← UInt64.toNat_inj, UInt64.toNat_and, hmask, Nat.and_two_pow_sub_one_eq_mod]
  rfl

/-- The source's overflow test is the bound on the sum. -/
theorem overflow_iff {n size : UInt64} {k : Nat} (h : size.toNat = 2 ^ k) :
    n > 0xffffffffffffffff - size ↔ 2 ^ 64 ≤ n.toNat + 2 ^ k := by
  have hlt := size.toNat_lt
  have hmax : (0xffffffffffffffff : UInt64).toNat = 2 ^ 64 - 1 := rfl
  rw [gt_iff_lt, UInt64.lt_iff_toNat_lt, UInt64.toNat_sub_of_le _ _ (by
    rw [UInt64.le_iff_toNat_le, hmax]; omega), h, hmax]
  rw [h] at hlt
  have := n.toNat_lt
  omega

/-- Appending an aligned subtree to a frontier of the right shape
succeeds and carries. -/
theorem append_subtree_spec {frontier : Frontier} {hash : Bytes}
    {level : UInt8} {n : UInt64} (hhash : validSha256 hash = true)
    (hlevel : level.toNat < 64) (hshape : Shaped n.toNat (slots frontier))
    (haligned : n.toNat % 2 ^ level.toNat = 0)
    (hroom : n.toNat + 2 ^ level.toNat < 2 ^ 64) :
    ∃ frontier', transparencyAppendMerkleSubtree P frontier hash level n
        = (transparencyMerkleFrontierRoot P frontier', frontier')
      ∧ slots frontier'
        = carryAt (merkleNodeHash P) level.toNat hash (slots frontier) := by
  have hshr : (n >>> level.toUInt64).toNat = n.toNat / 2 ^ level.toNat := by
    rw [UInt64.toNat_shiftRight, UInt8.toNat_toUInt64, Nat.mod_eq_of_lt hlevel,
      Nat.shiftRight_eq_div_pow]
  have hspace : n.toNat / 2 ^ level.toNat + 1 < 2 ^ (64 - level.toNat) := by
    have hsplit : 2 ^ 64 = 2 ^ (64 - level.toNat) * 2 ^ level.toNat := by
      rw [← pow_add]
      congr 1
      omega
    have hmul : (n.toNat / 2 ^ level.toNat + 1) * 2 ^ level.toNat
        = n.toNat + 2 ^ level.toNat := by
      rw [Nat.add_mul, Nat.div_mul_cancel (Nat.dvd_of_mod_eq_zero haligned),
        Nat.one_mul]
    refine Nat.lt_of_mul_lt_mul_right (a := 2 ^ level.toNat) ?_
    rw [hmul, ← hsplit]
    exact hroom
  obtain ⟨frontier', hcall, hslots⟩ := appendCarry_spec P (64 - level.toNat)
    frontier hash level.toNat (n >>> level.toUInt64) (by omega)
    (validSha256_ne_nil hhash) (by rw [hshr]; exact hshape.drop _)
    (by rw [hshr]; exact hspace)
  refine ⟨frontier', ?_, ?_⟩
  · rw [transparencyAppendMerkleSubtree, if_neg (by simp [hhash]; omega),
      if_neg]
    · exact hcall
    · rw [not_or, not_not, aligned_iff (toNat_levelSize hlevel),
        overflow_iff (toNat_levelSize hlevel)]
      exact ⟨haligned, by omega⟩
  · rw [hslots, carryAt_eq]

-- === the run over leaves

/-- The frontier is the counter of the leaves appended so far. -/
def Tracks (frontier : Frontier) (leafIds : List Bytes) : Prop :=
  slots frontier = peaks (merkleNodeHash P) 64 (leafHashes P leafIds)

theorem tracks_empty : Tracks P emptyFrontier [] :=
  slots_emptyFrontier

variable {P} {frontier : Frontier} {leafIds : List Bytes}

theorem Tracks.shaped (h : Tracks P frontier leafIds)
    (hlen : leafIds.length < 2 ^ 64) :
    Shaped leafIds.length (slots frontier) := by
  have hs := shaped_peaks (merkleNodeHash P) 64 (leafHashes P leafIds)
    (by simpa using hlen)
  rw [h]
  simpa using hs

/-- The frontier root is the batch root. -/
theorem Tracks.root (h : Tracks P frontier leafIds) (hne : leafIds ≠ [])
    (hlen : leafIds.length < 2 ^ 64) :
    transparencyMerkleFrontierRoot P frontier
      = transparencyMerkleRoot P leafIds := by
  refine slot_eq_some ?_
  rw [slot_frontierRoot, h, ← treeRoot_eq_foldRoot _ (by simpa using hlen),
    treeRoot_leafHashes P hne]

/-- The aligned block of `2 ^ k` leaves that bit `k` of the size stands
for. -/
def alignedBlock (leafIds : List Bytes) (k : Nat) : List Bytes :=
  (leafIds.drop (leafIds.length / 2 ^ (k + 1) * 2 ^ (k + 1))).take (2 ^ k)

theorem length_alignedBlock {k : Nat} (h : leafIds.length.testBit k = true) :
    (alignedBlock leafIds k).length = 2 ^ k := by
  have hfits := block_fits h
  rw [alignedBlock, List.length_take, List.length_drop]
  omega

/-- An occupied slot holds the root of its block. -/
theorem Tracks.slot (h : Tracks P frontier leafIds)
    (hlen : leafIds.length < 2 ^ 64) {k : Nat} (hk : k < 64) :
    (frontier[k] ≠ [] ↔ leafIds.length.testBit k = true) ∧
      (frontier[k] ≠ [] →
        frontier[k] = transparencyMerkleRoot P (alignedBlock leafIds k)) := by
  have hget : (slots frontier)[k]? = some (RbfSafe.slot frontier[k]) :=
    slots_getElem frontier hk
  have hbit := (h.shaped hlen).getElem?_isSome hget
  have hiff : frontier[k] ≠ [] ↔ leafIds.length.testBit k = true := by
    rw [← hbit, slot_isSome]
    simp
  refine ⟨hiff, fun hne => ?_⟩
  have hset := hiff.mp hne
  have hpeak := peaks_getElem? (merkleNodeHash P) 64 (leafHashes P leafIds) k hk
  rw [← h, hget, List.length_map, if_pos hset, Option.some.injEq] at hpeak
  have hblock : alignedBlock leafIds k ≠ [] := by
    intro hnil
    have hl := length_alignedBlock hset
    rw [hnil] at hl
    exact absurd hl.symm (Nat.two_pow_pos k).ne'
  refine slot_eq_some ?_
  rw [hpeak, ← treeRoot_leafHashes P hblock, alignedBlock, leafHashes_take,
    leafHashes_drop]

theorem toNat_ofNat_length {α : Type} {l : List α} (h : l.length < 2 ^ 64) :
    (UInt64.ofNat l.length).toNat = l.length :=
  UInt64.toNat_ofNat_of_lt' h

/-- One more valid leaf is appended, and the counter stays in step. -/
theorem Tracks.append_leaf (h : Tracks P frontier leafIds) {leafId : Bytes}
    (hvalid : validSha256 leafId = true) (hlen : leafIds.length + 1 < 2 ^ 64) :
    ∃ frontier', transparencyAppendMerkleLeaf P frontier leafId
        (UInt64.ofNat leafIds.length)
        = (transparencyMerkleFrontierRoot P frontier', frontier')
      ∧ Tracks P frontier' (leafIds ++ [leafId]) := by
  have hn : (UInt64.ofNat leafIds.length).toNat = leafIds.length :=
    toNat_ofNat_length (by omega)
  have hshape : Shaped (UInt64.ofNat leafIds.length).toNat (slots frontier) := by
    rw [hn]
    exact h.shaped (by omega)
  have hlevel : (0 : UInt8).toNat < 64 := by decide
  obtain ⟨frontier', hcall, hslots⟩ := append_subtree_spec P
    (validSha256_transparencyLeafHash P leafId) hlevel hshape
    (by simp [Nat.mod_one]) (by rw [hn]; simpa using hlen)
  refine ⟨frontier', ?_, ?_⟩
  · rw [transparencyAppendMerkleLeaf, if_neg (by simp [hvalid]), hcall]
  · have hsnoc : leafHashes P (leafIds ++ [leafId])
        = leafHashes P leafIds ++ [transparencyLeafHash P leafId] := by
      simp [leafHashes]
    rw [Tracks, hslots, h, hsnoc, peaks_snoc]
    rfl

variable (P)

/-- What the calls of `transparency_append_merkle_leaf` return, one after
the other. -/
def appendCalls (frontier : Frontier) (next : UInt64) :
    List Bytes → List (Bytes × Frontier)
  | [] => []
  | leafId :: rest =>
      let result := transparencyAppendMerkleLeaf P frontier leafId next
      result :: appendCalls result.2 (next + 1) rest

/-- From any frontier in step with the leaves before it, every call of a
run returns the root of its own frontier, in step with its own leaves. -/
theorem appendCalls_tracks : ∀ (rest : List Bytes) (frontier : Frontier)
    (leafIds : List Bytes), Tracks P frontier leafIds →
    (∀ l ∈ rest, validSha256 l = true) →
    leafIds.length + rest.length < 2 ^ 64 → ∀ {i : Nat}, i < rest.length →
    ∃ frontier', (appendCalls P frontier (UInt64.ofNat leafIds.length) rest)[i]?
        = some (transparencyMerkleFrontierRoot P frontier', frontier')
      ∧ Tracks P frontier' (leafIds ++ rest.take (i + 1))
  | [], _, _, _, _, _, i, hi => by simp at hi
  | leafId :: rest, frontier, leafIds, h, hvalid, hlen, i, hi => by
      rw [List.length_cons] at hlen hi
      obtain ⟨frontier', hcall, htracks⟩ := h.append_leaf
        (hvalid leafId List.mem_cons_self) (by omega)
      rw [appendCalls, hcall]
      cases i with
      | zero => exact ⟨frontier', rfl, by simpa using htracks⟩
      | succ i =>
          have hnext : UInt64.ofNat leafIds.length + 1
              = UInt64.ofNat (leafIds ++ [leafId]).length := by
            rw [List.length_append, List.length_singleton, UInt64.ofNat_add]
            rfl
          obtain ⟨frontier'', hget, htracks'⟩ := appendCalls_tracks rest
            frontier' (leafIds ++ [leafId]) htracks
            (fun l hl => hvalid l (List.mem_cons_of_mem _ hl))
            (by simp; omega) (i := i) (by omega)
          refine ⟨frontier'', ?_, ?_⟩
          · rw [List.getElem?_cons_succ, hnext]
            exact hget
          · rw [List.take_succ_cons]
            simpa using htracks'

/-- **The incremental frontier agrees with the batch root.** Appending
leaf after leaf from the empty frontier, no call fails; after call `i`
slot `k` is occupied exactly when bit `k` of `i + 1` is set, it then
holds the batch root of its aligned block, and the root returned is the
batch root of the leaves so far. -/
theorem appendCalls_agree_with_batch (leafIds : List Bytes)
    (hvalid : ∀ l ∈ leafIds, validSha256 l = true)
    (hlen : leafIds.length < 2 ^ 64) {i : Nat} (hi : i < leafIds.length) :
    ∃ root frontier, (appendCalls P emptyFrontier 0 leafIds)[i]?
        = some (root, frontier)
      ∧ root ≠ []
      ∧ root = transparencyMerkleRoot P (leafIds.take (i + 1))
      ∧ ∀ k (hk : k < 64),
          (frontier[k] ≠ [] ↔ (i + 1).testBit k = true) ∧
          (frontier[k] ≠ [] → frontier[k]
            = transparencyMerkleRoot P
                (alignedBlock (leafIds.take (i + 1)) k)) := by
  obtain ⟨frontier, hget, htracks⟩ := appendCalls_tracks P leafIds
    emptyFrontier [] (tracks_empty P) hvalid (by simpa using hlen) hi
  rw [List.nil_append] at htracks
  have htake : (leafIds.take (i + 1)).length = i + 1 := by
    rw [List.length_take]
    omega
  have hne : leafIds.take (i + 1) ≠ [] := by
    intro h
    rw [h] at htake
    simp at htake
  have hroot := htracks.root hne (by omega)
  refine ⟨_, frontier, hget, ?_, hroot, fun k hk => ?_⟩
  · rw [hroot]
    exact validSha256_ne_nil (validSha256_transparencyMerkleRoot P hne)
  · have hslot := htracks.slot (by omega) hk
    rwa [htake] at hslot

/-- A run of three leaves. -/
theorem appendCalls_agree_with_batch_three :
    let P := host fun _ _ _ => true
    let leafIds := List.replicate 3 (P.sha256 [])
    ∃ root frontier, (appendCalls P emptyFrontier 0 leafIds)[2]?
        = some (root, frontier)
      ∧ root = transparencyMerkleRoot P leafIds := by
  intro P leafIds
  obtain ⟨root, frontier, hcall, -, hroot, -⟩ := appendCalls_agree_with_batch P
    leafIds (fun l hl => by
      rw [List.eq_of_mem_replicate hl]
      exact P.validSha256_digest _)
    (by simp [leafIds]) (i := 2) (by simp [leafIds])
  exact ⟨root, frontier, hcall, hroot⟩

end

end RbfSafe
