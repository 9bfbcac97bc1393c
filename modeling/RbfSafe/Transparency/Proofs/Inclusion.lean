/-
Inclusion proofs are exact, short of one tree size.

# The two loops

The prover's loop over materialised levels is `Lib.Forest.siblings`
(`siblingLoop_eq`) and the verifier's loop over `(index, width)` is
`Lib.Forest.climb` (`inclusionLoop_eq`), so the two directions of
exactness are `climb_siblings` and `climb_inj`.

# The size that wraps

The verifier rounds the width up with `(width + 1U) / 2U`, which wraps
to zero for the width `2 ^ 64 - 1` alone: its loop then ends after one
round (`inclusionLoop_wrap`). At that size the honest path of an honest
leaf is rejected, and that is the only departure from exactness:
`inclusion_exact_iff` states it for every leaf list, checkpoint and
leaf.
-/
import RbfSafe.Transparency.Proofs.Spine

namespace RbfSafe

open Lib.Forest

/-- The one tree size at which the verifier's width wraps. -/
def wrappingTreeSize : Nat := 2 ^ 64 - 1

section
variable (P : Platform)

-- === the prover's loop

theorem and_one_ne_zero {n : UInt64} : n &&& 1 ≠ 0 ↔ n.toNat % 2 = 1 := by
  rw [Ne, ← UInt64.toNat_inj, UInt64.toNat_and, UInt64.toNat_one,
    Nat.and_one_is_mod]
  show ¬n.toNat % 2 = 0 ↔ _
  omega

theorem toNat_half (n : UInt64) : (n / 2).toNat = n.toNat / 2 := by
  rw [UInt64.toNat_div]
  rfl

/-- The prover's loop emits the path of its entry. -/
theorem siblingLoop_eq : ∀ {level : List Bytes} {index : UInt64},
    index.toNat < level.length →
    siblingLoop P level index
      = siblings (merkleNodeHash P) level index.toNat := by
  intro level
  induction hn : level.length using Nat.strong_induction_on
    generalizing level with
  | _ n ih =>
      intro index hlt
      match level with
      | [] => rw [siblingLoop, siblings]
      | [a] => rw [siblingLoop, siblings]
      | a :: b :: rest =>
          subst hn
          have hup := length_pairUp (merkleNodeHash P) (a :: b :: rest)
          rw [siblingLoop, siblings_cons, merkleLevelUp_eq,
            ih _ (length_pairUp_lt _ a b rest) rfl (by
              rw [toNat_half, hup]
              omega), toNat_half]
          congr 1
          by_cases hodd : index.toNat % 2 = 1
          · have hget : index.toNat - 1 < (a :: b :: rest).length := by omega
            rw [if_pos (and_one_ne_zero.mpr hodd), sibling?, if_pos hodd,
              List.getElem?_eq_getElem hget, List.getD_eq_getElem?_getD,
              List.getElem?_eq_getElem hget]
            rfl
          · rw [if_neg (fun h => hodd (and_one_ne_zero.mp h)), sibling?,
              if_neg hodd]
            by_cases hright : index.toNat + 1 < (a :: b :: rest).length
            · rw [if_pos hright, List.getElem?_eq_getElem hright,
                List.getD_eq_getElem?_getD, List.getElem?_eq_getElem hright]
              rfl
            · rw [if_neg hright, List.getElem?_eq_none (by omega)]
              rfl

theorem emittedSiblings_eq {leafIds : List Bytes} {index : UInt64}
    (h : index.toNat < leafIds.length) :
    emittedSiblings P leafIds index
      = siblings (merkleNodeHash P) (leafHashes P leafIds) index.toNat :=
  siblingLoop_eq P (by simpa using h)

-- === the verifier's loop

/-- Below the wrapping size the verifier's loop is the climb. -/
theorem inclusionLoop_eq : ∀ {width index : UInt64} {hash : Bytes}
    {path : List Bytes}, index.toNat < width.toNat →
    width.toNat ≠ wrappingTreeSize →
    inclusionLoop P index width hash path
      = climb (merkleNodeHash P) width.toNat index.toNat hash path := by
  intro width
  induction hn : width.toNat using Nat.strong_induction_on
    generalizing width with
  | _ n ih =>
      intro index hash path hindex hsize
      subst hn
      have hlt := width.toNat_lt
      have hone : (1 : UInt64).toNat = 1 := rfl
      rw [inclusionLoop.eq_def, climb.eq_def]
      by_cases hwidth : width > 1
      · have hwidth' : 1 < width.toNat := UInt64.lt_iff_toNat_lt.mp hwidth
        have hup : ((width + 1) / 2).toNat = (width.toNat + 1) / 2 := by
          have hroom : width.toNat + 1 < 2 ^ 64 := by
            unfold wrappingTreeSize at hsize
            omega
          rw [toNat_half, UInt64.toNat_add, hone, Nat.mod_eq_of_lt hroom]
        have hnext : ∀ (hash : Bytes) (path : List Bytes),
            inclusionLoop P (index / 2) ((width + 1) / 2) hash path
              = climb (merkleNodeHash P) ((width.toNat + 1) / 2)
                (index.toNat / 2) hash path := by
          intro hash path
          rw [ih ((width + 1) / 2).toNat (by rw [hup]; omega) rfl
            (by rw [hup, toNat_half]; omega)
            (by rw [hup]; unfold wrappingTreeSize at hsize ⊢; omega), hup,
            toNat_half]
        have hright : index + 1 < width ↔ index.toNat + 1 < width.toNat := by
          rw [UInt64.lt_iff_toNat_lt, UInt64.toNat_add, hone,
            Nat.mod_eq_of_lt (by omega)]
        rw [dif_pos hwidth, if_neg (show ¬width.toNat ≤ 1 by omega)]
        simp only [and_one_ne_zero, hright]
        split
        · cases path with
          | nil => rfl
          | cons s path => exact hnext _ _
        · split
          · cases path with
            | nil => rfl
            | cons s path => exact hnext _ _
          · exact hnext _ _
      · have hwidth' : ¬1 < width.toNat := fun h =>
          hwidth (UInt64.lt_iff_toNat_lt.mpr h)
        rw [dif_neg hwidth, if_pos (by omega)]

/-- What one round leaves at the wrapping size: the width is zero and the
loop is over. -/
theorem inclusionLoop_wrap {width index : UInt64} {hash : Bytes}
    {path : List Bytes} (hsize : width.toNat = wrappingTreeSize)
    (hindex : index.toNat < width.toNat) :
    inclusionLoop P index width hash path
      = if index.toNat % 2 = 1 then
          path.head?.map fun s => (merkleNodeHash P s hash, path.tail)
        else if index.toNat + 1 < width.toNat then
          path.head?.map fun s => (merkleNodeHash P hash s, path.tail)
        else some (hash, path) := by
  unfold wrappingTreeSize at hsize
  have hone : (1 : UInt64).toNat = 1 := rfl
  have hwidth : width > 1 := UInt64.lt_iff_toNat_lt.mpr (by rw [hone]; omega)
  have hzero : (width + 1) / 2 = 0 := by
    apply UInt64.toNat_inj.mp
    rw [toNat_half, UInt64.toNat_add, hone, hsize]
    rfl
  have hend : ∀ (index : UInt64) (hash : Bytes) (path : List Bytes),
      inclusionLoop P index 0 hash path = some (hash, path) := by
    intro index hash path
    rw [inclusionLoop.eq_def, dif_neg (by decide)]
  have hright : index + 1 < width ↔ index.toNat + 1 < width.toNat := by
    rw [UInt64.lt_iff_toNat_lt, UInt64.toNat_add, hone,
      Nat.mod_eq_of_lt (by omega)]
  rw [inclusionLoop.eq_def, dif_pos hwidth]
  simp only [and_one_ne_zero, hright, hzero, hend]
  cases path <;> rfl

-- === what is verified

/-- A proof bound to a log, a checkpoint and a leaf. -/
structure InclusionBound (identity : TransparencyLogIdentity)
    (checkpoint : TransparencyLogCheckpoint) (leaf : TransparencyLogLeaf)
    (proof : TransparencyInclusionProof) : Prop where
  leafLog : leaf.logId = identity.id
  proofLog : proof.logId = identity.id
  checkpointId : proof.checkpointId = checkpoint.id
  leafId : proof.leafId = leaf.id
  leafIndex : proof.leafIndex = leaf.index
  treeSize : proof.treeSize = checkpoint.treeSize
  rootHash : proof.rootHash = checkpoint.rootHash

/-- Of a valid bound proof the verifier asks that the climb ends at the
root and uses up the path. -/
theorem verifyInclusion_iff {identity : TransparencyLogIdentity}
    {checkpoint : TransparencyLogCheckpoint} {leaf : TransparencyLogLeaf}
    {proof : TransparencyInclusionProof}
    (hidentity : identity.valid P = true)
    (hcheckpoint : checkpoint.valid P = true)
    (hverified : verifyTransparencyLogCheckpoint P identity checkpoint = .ok ())
    (hleaf : leaf.valid P = true) (hproof : proof.valid P = true)
    (hbound : InclusionBound identity checkpoint leaf proof) :
    verifyTransparencyInclusion P identity checkpoint leaf proof = .ok ()
      ↔ inclusionLoop P leaf.index checkpoint.treeSize
          (transparencyLeafHash P leaf.id) proof.siblingHashes
        = some (checkpoint.rootHash, []) := by
  rw [verifyTransparencyInclusion,
    if_neg (by simp [hidentity, hcheckpoint, hleaf, hproof]), hverified,
    ok_bind, if_neg (by
      simp [hbound.leafLog, hbound.proofLog, hbound.checkpointId, hbound.leafId,
        hbound.leafIndex, hbound.treeSize, hbound.rootHash]),
    hbound.leafIndex, hbound.treeSize]
  cases inclusionLoop P leaf.index checkpoint.treeSize
      (transparencyLeafHash P leaf.id) proof.siblingHashes with
  | none => simp
  | some result =>
      obtain ⟨hash, rest⟩ := result
      simp only [ite_failure_eq_ok, Option.some.injEq, Prod.mk.injEq, not_or,
        Bool.not_eq_true', Bool.not_eq_false, List.isEmpty_iff, not_not,
        and_true]
      exact and_comm

-- === exactness

/-- The pairs hashed for the tree and by the verifier. -/
def inclusionPairs (leafIds : List Bytes) (leaf : TransparencyLogLeaf)
    (proof : TransparencyInclusionProof) : List (Bytes × Bytes) :=
  treePairs (merkleNodeHash P) (leafHashes P leafIds)
    ++ climbPairs (merkleNodeHash P) leafIds.length leaf.index.toNat
      (transparencyLeafHash P leaf.id) proof.siblingHashes

/-- The claimed leaf and path are those of the leaf list. -/
def HonestInclusion (leafIds : List Bytes) (leaf : TransparencyLogLeaf)
    (proof : TransparencyInclusionProof) : Prop :=
  leafIds[leaf.index.toNat]? = some leaf.id ∧
    proof.siblingHashes = emittedSiblings P leafIds leaf.index

/-- The root a checkpoint of a leaf list carries. -/
theorem treeRoot_checkpoint {leafIds : List Bytes} {i : Nat}
    (hi : i < leafIds.length) :
    treeRoot (merkleNodeHash P) (leafHashes P leafIds)
      = some (transparencyMerkleRoot P leafIds) := by
  refine treeRoot_leafHashes P ?_
  rintro rfl
  simp at hi

/-- The honest path climbs to the root. -/
theorem climb_honest {leafIds : List Bytes} {leaf : TransparencyLogLeaf}
    {proof : TransparencyInclusionProof}
    (hi : leaf.index.toNat < leafIds.length)
    (hhonest : HonestInclusion P leafIds leaf proof) :
    climb (merkleNodeHash P) leafIds.length leaf.index.toNat
      (transparencyLeafHash P leaf.id) proof.siblingHashes
      = some (transparencyMerkleRoot P leafIds, []) := by
  have hentry : (leafHashes P leafIds)[leaf.index.toNat]?
      = some (transparencyLeafHash P leaf.id) := by
    rw [List.getElem?_map, hhonest.1]
    rfl
  obtain ⟨r, hr, hclimb⟩ := climb_siblings (merkleNodeHash P) hentry
  rw [treeRoot_checkpoint P hi, Option.some.injEq] at hr
  rw [List.length_map, ← hr] at hclimb
  rw [hhonest.2, emittedSiblings_eq P hi]
  exact hclimb

/-- The verifier joins no pair on the honest path that is not of the
tree. -/
theorem inclusionPairs_honest {leafIds : List Bytes}
    {leaf : TransparencyLogLeaf} {proof : TransparencyInclusionProof}
    (hi : leaf.index.toNat < leafIds.length)
    (hhonest : HonestInclusion P leafIds leaf proof) :
    inclusionPairs P leafIds leaf proof
      ⊆ treePairs (merkleNodeHash P) (leafHashes P leafIds) := by
  have hentry : (leafHashes P leafIds)[leaf.index.toNat]?
      = some (transparencyLeafHash P leaf.id) := by
    rw [List.getElem?_map, hhonest.1]
    rfl
  have hclimb := climbPairs_siblings_subset (merkleNodeHash P) hentry
  rw [List.length_map, ← emittedSiblings_eq P hi, ← hhonest.2] at hclimb
  exact List.append_subset.mpr ⟨List.Subset.refl _, hclimb⟩

/-- Below the wrapping size the climb is exact. -/
theorem climb_exact {leafIds : List Bytes} {leaf : TransparencyLogLeaf}
    {proof : TransparencyInclusionProof}
    (hi : leaf.index.toNat < leafIds.length)
    (hleafInj : Set.InjOn (transparencyLeafHash P)
      {l | l ∈ leafIds ∨ l = leaf.id})
    (hnode : NodeInj (merkleNodeHash P)
      {p | p ∈ inclusionPairs P leafIds leaf proof}) :
    climb (merkleNodeHash P) leafIds.length leaf.index.toNat
        (transparencyLeafHash P leaf.id) proof.siblingHashes
        = some (transparencyMerkleRoot P leafIds, [])
      ↔ HonestInclusion P leafIds leaf proof := by
  have hentry : (leafHashes P leafIds)[leaf.index.toNat]?
      = some (transparencyLeafHash P leafIds[leaf.index.toNat]) := by
    rw [List.getElem?_map, List.getElem?_eq_getElem hi]
    rfl
  have hlen : (leafHashes P leafIds).length = leafIds.length := by simp
  rw [HonestInclusion, emittedSiblings_eq P hi, List.getElem?_eq_getElem hi,
    Option.some.injEq]
  constructor
  · intro h
    rw [← hlen] at h
    obtain ⟨hhash, hpath⟩ := climb_inj (merkleNodeHash P) hnode hentry
      (treeRoot_checkpoint P hi)
      (fun p hp => List.mem_append_left _ hp)
      (fun p hp => List.mem_append_right _ (by rwa [hlen] at hp)) h
    exact ⟨(hleafInj (Or.inr rfl) (Or.inl (List.getElem_mem hi)) hhash).symm,
      hpath⟩
  · rintro ⟨hid, hpath⟩
    refine climb_honest P hi ⟨?_, ?_⟩
    · rw [List.getElem?_eq_getElem hi, hid]
    · rw [hpath, emittedSiblings_eq P hi]

/-- At the wrapping size the honest path is too long for one round. -/
theorem wrap_rejects_honest {leafIds : List Bytes} {leaf : TransparencyLogLeaf}
    {proof : TransparencyInclusionProof} {width : UInt64}
    (hwidth : width.toNat = leafIds.length)
    (hi : leaf.index.toNat < leafIds.length)
    (hsize : leafIds.length = wrappingTreeSize)
    (hhonest : HonestInclusion P leafIds leaf proof) (hash root : Bytes) :
    inclusionLoop P leaf.index width hash proof.siblingHashes
      ≠ some (root, []) := by
  have hlen : (leafHashes P leafIds).length = leafIds.length := by simp
  unfold wrappingTreeSize at hsize
  match hl : leafHashes P leafIds with
  | [] =>
      rw [hl] at hlen
      simp at hlen
      omega
  | [_] =>
      rw [hl] at hlen
      simp at hlen
      omega
  | a :: b :: rest =>
      rw [hl] at hlen
      have hup := length_pairUp (merkleNodeHash P) (a :: b :: rest)
      have hentry : ∃ x, (a :: b :: rest)[leaf.index.toNat]? = some x :=
        ⟨_, List.getElem?_eq_getElem (by omega)⟩
      obtain ⟨x, hx⟩ := hentry
      have hpath : proof.siblingHashes
          = (sibling? (a :: b :: rest) leaf.index.toNat).toList
            ++ siblings (merkleNodeHash P)
              (pairUp (merkleNodeHash P) (a :: b :: rest))
              (leaf.index.toNat / 2) := by
        rw [hhonest.2, emittedSiblings_eq P hi, hl, siblings_cons]
      have habove : siblings (merkleNodeHash P)
          (pairUp (merkleNodeHash P) (a :: b :: rest))
          (leaf.index.toNat / 2) ≠ [] :=
        siblings_ne_nil _ (by omega) (by omega)
      rw [inclusionLoop_wrap P (by rw [hwidth, hsize]; rfl) (by omega), hwidth,
        ← hlen, hpath]
      rcases entry_cases (merkleNodeHash P) hx with
        ⟨hodd, s, hs, -⟩ | ⟨heven, hright, s, hs, -⟩ | ⟨heven, hright, hs, -⟩
      · rw [if_pos hodd, hs]
        intro h
        exact habove (Prod.mk.inj (Option.some.inj h)).2
      · rw [if_neg (by omega), if_pos hright, hs]
        intro h
        exact habove (Prod.mk.inj (Option.some.inj h)).2
      · rw [if_neg (by omega), if_neg hright, hs]
        intro h
        exact habove (Prod.mk.inj (Option.some.inj h)).2

/-- A node above the leaves of a list. -/
def IsTreeNode (leafIds : List Bytes) (x : Bytes) : Prop :=
  ∃ p ∈ treePairs (merkleNodeHash P) (leafHashes P leafIds),
    x = merkleNodeHash P p.1 p.2

/-- At the wrapping size the leaves are at least two levels below the
children of the root. -/
theorem root_children_are_nodes {leafIds : List Bytes}
    (hsize : leafIds.length = wrappingTreeSize) :
    ∃ p ∈ treePairs (merkleNodeHash P) (leafHashes P leafIds),
      treeRoot (merkleNodeHash P) (leafHashes P leafIds)
        = some (merkleNodeHash P p.1 p.2) ∧
      IsTreeNode P leafIds p.1 ∧ IsTreeNode P leafIds p.2 := by
  let level₀ := leafHashes P leafIds
  let level₁ := pairUp (merkleNodeHash P) level₀
  let level₂ := pairUp (merkleNodeHash P) level₁
  have hlen₀ : level₀.length = 2 ^ 64 - 1 := by
    rw [← show wrappingTreeSize = 2 ^ 64 - 1 from rfl, ← hsize]
    simp [level₀]
  have hlen₁ : level₁.length = 2 ^ 63 := by
    rw [length_pairUp, hlen₀]
    rfl
  have hlen₂ : level₂.length = 2 ^ 62 := by
    rw [length_pairUp, hlen₁]
    rfl
  have hsub₁ : treePairs (merkleNodeHash P) level₁
      ⊆ treePairs (merkleNodeHash P) level₀ :=
    treePairs_pairUp_subset _ _
  have hsub₂ : treePairs (merkleNodeHash P) level₂
      ⊆ treePairs (merkleNodeHash P) level₀ :=
    List.Subset.trans (treePairs_pairUp_subset _ _) hsub₁
  obtain ⟨p, hp, hroot, hchildren⟩ := treeRoot_children (merkleNodeHash P)
    (Q := IsTreeNode P leafIds) (l := level₂) (by rw [hlen₂]; decide)
    (fun x hx => by
      obtain ⟨q, hq, hxq⟩ := mem_pairUp_of_even (merkleNodeHash P)
        (by rw [hlen₁]; decide) x hx
      exact ⟨q, hsub₁ (levelPairs_subset_treePairs _ _ hq), hxq⟩)
    (fun q hq => ⟨q, hsub₂ hq, rfl⟩)
  refine ⟨p, hsub₂ hp, ?_, hchildren⟩
  rw [← hroot, treeRoot_pairUp, treeRoot_pairUp]

/-- At the wrapping size nothing but the honest leaf could be reached in
one round, unless a leaf hash is a node hash. -/
theorem wrap_rejects_dishonest {leafIds : List Bytes}
    {leaf : TransparencyLogLeaf} {proof : TransparencyInclusionProof}
    {width : UInt64} (hwidth : width.toNat = leafIds.length)
    (hi : leaf.index.toNat < leafIds.length)
    (hsize : leafIds.length = wrappingTreeSize)
    (hnode : NodeInj (merkleNodeHash P)
      {p | p ∈ inclusionPairs P leafIds leaf proof})
    (hdisjoint : ∀ p ∈ treePairs (merkleNodeHash P) (leafHashes P leafIds),
      transparencyLeafHash P leaf.id ≠ merkleNodeHash P p.1 p.2) :
    inclusionLoop P leaf.index width (transparencyLeafHash P leaf.id)
      proof.siblingHashes ≠ some (transparencyMerkleRoot P leafIds, []) := by
  have hlen : (leafHashes P leafIds).length = leafIds.length := by simp
  obtain ⟨p, hp, hroot, hleft, hright⟩ := root_children_are_nodes P hsize
  rw [treeRoot_checkpoint P hi, Option.some.injEq] at hroot
  have hchild : ∀ {x : Bytes}, IsTreeNode P leafIds x →
      transparencyLeafHash P leaf.id ≠ x := by
    rintro x ⟨q, hq, rfl⟩
    exact hdisjoint q hq
  have htree : p ∈ inclusionPairs P leafIds leaf proof :=
    List.mem_append_left _ hp
  have hwidthWrap : width.toNat = wrappingTreeSize := hwidth.trans hsize
  have hmany : ¬leafIds.length ≤ 1 := by
    rw [hsize]
    decide
  rw [inclusionLoop_wrap P hwidthWrap (hwidth ▸ hi), hroot]
  split
  · next hodd =>
      cases hpath : proof.siblingHashes with
      | nil => simp
      | cons s path =>
          intro h
          have hjoin := (Prod.mk.inj (Option.some.inj h)).1
          have hmem : (s, transparencyLeafHash P leaf.id)
              ∈ inclusionPairs P leafIds leaf proof := by
            refine List.mem_append_right _ ?_
            rw [hpath, climbPairs.eq_def, if_neg hmany, if_pos hodd]
            exact List.mem_cons_self
          exact hchild hright (hnode.eq _ hmem htree hjoin).2
  · next heven =>
      split
      · next hsucc =>
          rw [hwidth] at hsucc
          cases hpath : proof.siblingHashes with
          | nil => simp
          | cons s path =>
              intro h
              have hjoin := (Prod.mk.inj (Option.some.inj h)).1
              have hmem : (transparencyLeafHash P leaf.id, s)
                  ∈ inclusionPairs P leafIds leaf proof := by
                refine List.mem_append_right _ ?_
                rw [hpath, climbPairs.eq_def, if_neg hmany, if_neg heven,
                  if_pos hsucc]
                exact List.mem_cons_self
              exact hchild hleft (hnode.eq _ hmem htree hjoin).1
      · intro h
        exact hdisjoint p hp (Prod.mk.inj (Option.some.inj h)).1

-- === the honest proof

/-- What the prover fills in is a valid proof. -/
theorem valid_assembleInclusionProof {leafIds : List Bytes}
    {logId checkpointId leafId : Bytes} {treeSize index : UInt64}
    (hlogId : validSha256 logId = true)
    (hcheckpointId : validSha256 checkpointId = true)
    (hleafId : validSha256 leafId = true)
    (hsize : treeSize.toNat = leafIds.length)
    (hi : index.toNat < leafIds.length) :
    (assembleInclusionProof P logId checkpointId
      (transparencyMerkleRoot P leafIds) treeSize leafIds leafId index).valid P
      = true := by
  have hne : leafIds ≠ [] := by
    rintro rfl
    simp at hi
  have hpositive : treeSize ≠ 0 := by
    rintro rfl
    have hzero : (0 : UInt64).toNat = 0 := rfl
    omega
  have hlt : index < treeSize := by
    rw [UInt64.lt_iff_toNat_lt, hsize]
    exact hi
  have hpath := emittedSiblings_eq P hi
  have hshort : (emittedSiblings P leafIds index).length ≤ 64 := by
    rw [hpath]
    refine length_siblings_le (merkleNodeHash P) 64 _ ?_
    have := treeSize.toNat_lt
    rw [List.length_map]
    omega
  have hdigests : (emittedSiblings P leafIds index).all validSha256 = true := by
    rw [hpath, List.all_eq_true]
    refine mem_siblings (merkleNodeHash P) (validSha256_merkleNodeHash P) _ ?_
    intro x hx
    obtain ⟨l, -, rfl⟩ := List.mem_map.mp hx
    exact validSha256_transparencyLeafHash P l
  simp only [TransparencyInclusionProof.valid, Bool.and_eq_true, beq_iff_eq,
    decide_eq_true_eq]
  exact ⟨⟨⟨⟨⟨⟨⟨⟨⟨⟨rfl, P.validSha256_digest _⟩, hlogId⟩, hcheckpointId⟩, hleafId⟩,
    hpositive⟩, hlt⟩, validSha256_transparencyMerkleRoot P hne⟩, hshort⟩, rfl⟩,
    hdigests⟩

/-- **The honest proof** is accepted at every size but one. -/
theorem honest_accepted_iff {identity : TransparencyLogIdentity}
    {checkpoint : TransparencyLogCheckpoint} {leaf : TransparencyLogLeaf}
    {leafIds : List Bytes} {proof : TransparencyInclusionProof}
    (hidentity : identity.valid P = true)
    (hcheckpoint : CheckpointOf P identity leafIds checkpoint)
    (hleaf : leaf.valid P = true) (hi : leaf.index.toNat < leafIds.length)
    (hproof : proof.valid P = true)
    (hbound : InclusionBound identity checkpoint leaf proof)
    (hhonest : HonestInclusion P leafIds leaf proof) :
    verifyTransparencyInclusion P identity checkpoint leaf proof = .ok ()
      ↔ leafIds.length ≠ wrappingTreeSize := by
  have hsize := hcheckpoint.treeSize
  rw [verifyInclusion_iff P hidentity hcheckpoint.valid hcheckpoint.verified
    hleaf hproof hbound]
  constructor
  · intro hloop hwrap
    exact wrap_rejects_honest P hsize hi hwrap hhonest _ _ hloop
  · intro hwrap
    rw [inclusionLoop_eq P (hsize ▸ hi) (hsize ▸ hwrap), hsize,
      hcheckpoint.rootHash]
    exact climb_honest P hi hhonest

/-- The honest proof exists, is valid and joins pairs of the tree only. -/
theorem exists_honest_proof {identity : TransparencyLogIdentity}
    {checkpoint : TransparencyLogCheckpoint} {leaf : TransparencyLogLeaf}
    {leafIds : List Bytes} (hidentity : identity.valid P = true)
    (hcheckpoint : CheckpointOf P identity leafIds checkpoint)
    (hleaf : leaf.valid P = true) (hlogId : leaf.logId = identity.id)
    (hi : leaf.index.toNat < leafIds.length)
    (hentry : leafIds[leaf.index.toNat]? = some leaf.id) :
    ∃ proof : TransparencyInclusionProof, proof.valid P = true ∧
      InclusionBound identity checkpoint leaf proof ∧
      HonestInclusion P leafIds leaf proof ∧
      inclusionPairs P leafIds leaf proof
        ⊆ treePairs (merkleNodeHash P) (leafHashes P leafIds) := by
  let proof := assembleInclusionProof P identity.id checkpoint.id
    (transparencyMerkleRoot P leafIds) checkpoint.treeSize leafIds leaf.id
    leaf.index
  have hhonest : HonestInclusion P leafIds leaf proof := ⟨hentry, rfl⟩
  refine ⟨proof, ?_, ?_, hhonest, inclusionPairs_honest P hi hhonest⟩
  · exact valid_assembleInclusionProof P (identity_valid hidentity)
      (checkpoint_valid hcheckpoint.valid).1 (leaf_valid hleaf)
      hcheckpoint.treeSize hi
  · exact
      { leafLog := hlogId
        proofLog := rfl
        checkpointId := rfl
        leafId := rfl
        leafIndex := rfl
        treeSize := rfl
        rootHash := hcheckpoint.rootHash.symm }

/-- What `TransparencyLog::inclusion_proof` returns for a record of a
valid log: its own proof, unless the verification it ends with fails. -/
theorem inclusionProof_succeeds_iff {log : TransparencyLog}
    (hlog : log.valid P = true) {index : UInt64}
    (hindex : index.toNat < log.records.length) :
    Succeeds (log.inclusionProof P index)
      ↔ log.records.length ≠ wrappingTreeSize := by
  have hvalid := valid_log hlog
  have hids := length_leafIds log
  have hn : (UInt64.ofNat log.records.length).toNat = log.records.length :=
    toNat_ofNat_length hvalid.size
  obtain ⟨record, hrecord⟩ : ∃ record, log.records[index.toNat]? = some record :=
    ⟨_, List.getElem?_eq_getElem hindex⟩
  obtain ⟨last, hlast⟩ : ∃ last, log.records[log.records.length - 1]? = some last :=
    ⟨_, List.getElem?_eq_getElem (by omega)⟩
  have hgetLast : log.records.getLast? = some last := by
    rw [List.getLast?_eq_getElem?, hlast]
  have hcheckpoint := (hvalid.record hlast).checkpointOf (by omega)
  rw [show log.records.length - 1 + 1 = log.leafIds.length from by omega,
    List.take_length] at hcheckpoint
  obtain ⟨hleaf, -, hleafIndex, hleafLog, -⟩ :=
    record_valid (hvalid.record hrecord).valid
  have hindexEq : record.leaf.index = index := by
    apply UInt64.toNat_inj.mp
    rw [hleafIndex, (hvalid.record hrecord).sequence]
  have hentry : log.leafIds[index.toNat]? = some record.leaf.id := by
    rw [TransparencyLog.leafIds, List.getElem?_map, hrecord]
    rfl
  have hhead := hvalid.head hgetLast
  have hsize : UInt64.ofNat log.records.length = last.checkpoint.treeSize := by
    apply UInt64.toNat_inj.mp
    rw [hn, hcheckpoint.treeSize, hids]
  let proof := assembleInclusionProof P log.identity.id
    log.currentCheckpointId log.currentRootHash
    (UInt64.ofNat log.records.length) log.leafIds record.leaf.id index
  have hcall : log.inclusionProof P index = (do
      let _ ← verifyTransparencyInclusion P log.identity last.checkpoint
        record.leaf proof
      return proof) := by
    rw [TransparencyLog.inclusionProof, if_neg, hrecord, hgetLast]
    simp [hlog]
    omega
  have hproof : proof.valid P = true := by
    show (assembleInclusionProof P log.identity.id log.currentCheckpointId
      log.currentRootHash _ log.leafIds record.leaf.id index).valid P = true
    rw [hhead.1, hhead.2, hcheckpoint.rootHash]
    exact valid_assembleInclusionProof P (identity_valid hvalid.identity)
      (checkpoint_valid hcheckpoint.valid).1
      (hvalid.leafIds _ (List.mem_of_getElem? hentry)) (hn.trans hids.symm)
      (by omega)
  have hbound : InclusionBound log.identity last.checkpoint record.leaf proof :=
    { leafLog := hleafLog.trans (hvalid.record hrecord).logId
      proofLog := rfl
      checkpointId := hhead.1
      leafId := rfl
      leafIndex := hindexEq.symm
      treeSize := hsize
      rootHash := hhead.2 }
  have hhonest : HonestInclusion P log.leafIds record.leaf proof := by
    rw [HonestInclusion, hindexEq]
    exact ⟨hentry, rfl⟩
  rw [hcall, ← hids, ← honest_accepted_iff P hvalid.identity hcheckpoint hleaf
    (by rw [hindexEq]; omega) hproof hbound hhonest]
  constructor
  · rintro ⟨result, hresult⟩
    obtain ⟨_, hverify, -⟩ := bind_eq_ok.mp hresult
    exact hverify
  · intro hverify
    exact ⟨proof, by rw [hverify]; rfl⟩

-- === exactness

/-- Exactness of the verifier for one checkpoint and leaf: of the valid
bound proofs it accepts the honest one alone, unless two of the inputs
that were hashed collide. -/
def InclusionExact (identity : TransparencyLogIdentity)
    (checkpoint : TransparencyLogCheckpoint) (leaf : TransparencyLogLeaf)
    (leafIds : List Bytes) : Prop :=
  ∀ proof : TransparencyInclusionProof, proof.valid P = true →
    InclusionBound identity checkpoint leaf proof →
    NodeInj (merkleNodeHash P) {p | p ∈ inclusionPairs P leafIds leaf proof} →
    (verifyTransparencyInclusion P identity checkpoint leaf proof = .ok ()
      ↔ HonestInclusion P leafIds leaf proof)

/-- At the wrapping size the verifier is not exact for a leaf in its
place. -/
theorem not_exact_of_wrapping {identity : TransparencyLogIdentity}
    {checkpoint : TransparencyLogCheckpoint} {leaf : TransparencyLogLeaf}
    {leafIds : List Bytes} (hidentity : identity.valid P = true)
    (hcheckpoint : CheckpointOf P identity leafIds checkpoint)
    (hleaf : leaf.valid P = true) (hlogId : leaf.logId = identity.id)
    (hi : leaf.index.toNat < leafIds.length)
    (hnode : NodeInj (merkleNodeHash P)
      {p | p ∈ treePairs (merkleNodeHash P) (leafHashes P leafIds)})
    (hentry : leafIds[leaf.index.toNat]? = some leaf.id)
    (hwrap : leafIds.length = wrappingTreeSize) :
    ¬InclusionExact P identity checkpoint leaf leafIds := by
  intro hexact
  obtain ⟨proof, hproof, hbound, hhonest, hpairs⟩ :=
    exists_honest_proof P hidentity hcheckpoint hleaf hlogId hi hentry
  have haccept := (hexact proof hproof hbound (hnode.mono hpairs)).mpr hhonest
  exact (honest_accepted_iff P hidentity hcheckpoint hleaf hi hproof hbound
    hhonest).mp haccept hwrap

/-- **Inclusion proofs are exact** for every leaf list, every checkpoint
of it and every leaf, unless the list has the wrapping size and the leaf
is in its place; and the prover succeeds on every valid log but one of
that size. -/
theorem inclusion_exact_iff {identity : TransparencyLogIdentity}
    {checkpoint : TransparencyLogCheckpoint} {leaf : TransparencyLogLeaf}
    {leafIds : List Bytes} (hidentity : identity.valid P = true)
    (hcheckpoint : CheckpointOf P identity leafIds checkpoint)
    (hleaf : leaf.valid P = true) (hlogId : leaf.logId = identity.id)
    (hi : leaf.index.toNat < leafIds.length)
    (hleafInj : Set.InjOn (transparencyLeafHash P)
      {l | l ∈ leafIds ∨ l = leaf.id})
    (hnode : NodeInj (merkleNodeHash P)
      {p | p ∈ treePairs (merkleNodeHash P) (leafHashes P leafIds)})
    (hdisjoint : ∀ p ∈ treePairs (merkleNodeHash P) (leafHashes P leafIds),
      transparencyLeafHash P leaf.id ≠ merkleNodeHash P p.1 p.2) :
    (InclusionExact P identity checkpoint leaf leafIds
      ↔ leafIds.length ≠ wrappingTreeSize ∨
        leafIds[leaf.index.toNat]? ≠ some leaf.id) ∧
    ∀ log : TransparencyLog, log.valid P = true →
      ∀ index : UInt64, index.toNat < log.records.length →
        (Succeeds (log.inclusionProof P index)
          ↔ log.records.length ≠ wrappingTreeSize) := by
  refine ⟨⟨fun hexact => ?_, fun hcondition => ?_⟩,
    fun log hlog index hindex => inclusionProof_succeeds_iff P hlog hindex⟩
  · by_contra hcondition
    rw [not_or, not_not, not_not] at hcondition
    obtain ⟨hwrap, hentry⟩ := hcondition
    exact not_exact_of_wrapping P hidentity hcheckpoint hleaf hlogId hi hnode
      hentry hwrap hexact
  · intro proof hproof hbound hinj
    have hsize := hcheckpoint.treeSize
    rw [verifyInclusion_iff P hidentity hcheckpoint.valid hcheckpoint.verified
      hleaf hproof hbound, hcheckpoint.rootHash]
    by_cases hwrap : leafIds.length = wrappingTreeSize
    · have hother : leafIds[leaf.index.toNat]? ≠ some leaf.id :=
        hcondition.resolve_left fun h => h hwrap
      refine iff_of_false ?_ fun hhonest => hother hhonest.1
      exact wrap_rejects_dishonest P hsize hi hwrap hinj hdisjoint
    · rw [inclusionLoop_eq P (hsize ▸ hi) (hsize ▸ hwrap), hsize]
      exact climb_exact P hi hleafInj hinj

theorem inclusion_exact_iff_sample :
    let P := host fun _ _ _ => true
    InclusionExact P (sampleIdentity P) (sampleRecord₁ P).checkpoint
      (sampleRecord₁ P).leaf (List.replicate 1 (sampleRecord₁ P).leaf.id) := by
  intro P
  have hempty : ∀ p, p ∉ treePairs (merkleNodeHash P)
      (leafHashes P (List.replicate 1 (sampleRecord₁ P).leaf.id)) := by
    intro p hp
    rw [leafHashes, List.map_replicate] at hp
    simp [treePairs] at hp
  have hindex := index_sampleLeaf P
  exact (inclusion_exact_iff P (valid_sampleIdentity P)
    (checkpointOf_sample₁ P fun _ _ _ => rfl)
    (valid_sampleLeaf P fun _ _ _ => rfl) (logId_sampleLeaf P)
    (hindex ▸ Nat.zero_lt_one) (injOn_replicate _ 1 _)
    (fun p hp => absurd hp (hempty p))
    (fun p hp => absurd hp (hempty p))).1.mpr (Or.inl (by
      rw [List.length_singleton]
      decide))

/-- A checkpoint of one leaf, repeated up to the wrapping size, before it
is signed. -/
def unsignedWrapping : TransparencyLogCheckpoint :=
  { logId := (sampleIdentity P).id
    treeSize := 0xffffffffffffffff
    rootHash := transparencyMerkleRoot P
      (List.replicate wrappingTreeSize (sampleRecord₁ P).leaf.id)
    previousCheckpointId := P.sha256 (ascii "previous")
    signerServiceId := (sampleIdentity P).signerServiceId
    signerKeyId := (sampleIdentity P).signerKeyId }

theorem checkpointOf_wrapping (hcheck : ∀ signature key message,
    P.ed25519Check signature key message = true) :
    CheckpointOf P (sampleIdentity P)
      (List.replicate wrappingTreeSize (sampleRecord₁ P).leaf.id)
      (signedCheckpoint P (unsignedWrapping P) sampleSignature₁) := by
  have hne : List.replicate wrappingTreeSize (sampleRecord₁ P).leaf.id ≠ [] := by
    rw [Ne, List.replicate_eq_nil_iff]
    decide
  have hsize : (unsignedWrapping P).treeSize > 0 :=
    show (0xffffffffffffffff : UInt64) > 0 from by decide
  have hlogId : (unsignedWrapping P).logId = (sampleIdentity P).id := rfl
  have hsignature : sampleSignature₁.length = kEd25519SignatureBytes := by
    decide
  obtain ⟨hvalid, hverified⟩ := valid_signed (valid_sampleIdentity P) rfl rfl
    hlogId rfl rfl hsize (validSha256_transparencyMerkleRoot P hne)
    (P.validSha256_digest _) hsignature (fun _ => hcheck _ _ _)
  refine ⟨hvalid, hverified, ?_, rfl⟩
  rw [List.length_replicate]
  rfl

/-- The tree of equal leaves at the wrapping size, under the digest of
heights. -/
theorem wrapping_heightPair {leafId : Bytes} (hid : validSha256 leafId = true)
    {p : Bytes × Bytes}
    (hp : p ∈ treePairs (merkleNodeHash heightPlatform)
      (leafHashes heightPlatform (List.replicate wrappingTreeSize leafId))) :
    HeightPair p := by
  rw [validSha256, Bool.and_eq_true, beq_iff_eq] at hid
  rw [leafHashes, List.map_replicate, transparencyLeafHash_height hid.1] at hp
  exact equal_leaves_heightPair (m := 63) (by decide) hp

/-- The log of `2 ^ 64 - 1` equal leaves, under a digest that joins no two
pairs of its tree into one node: the verifier is not exact. -/
theorem inclusion_not_exact_at_wrapping_size :
    let P := heightPlatform
    let leaf := (sampleRecord₁ P).leaf
    let leafIds := List.replicate wrappingTreeSize leaf.id
    let checkpoint := signedCheckpoint P (unsignedWrapping P) sampleSignature₁
    (sampleIdentity P).valid P = true ∧
      CheckpointOf P (sampleIdentity P) leafIds checkpoint ∧
      leaf.valid P = true ∧ leaf.logId = (sampleIdentity P).id ∧
      leaf.index.toNat < leafIds.length ∧
      Set.InjOn (transparencyLeafHash P) {l | l ∈ leafIds ∨ l = leaf.id} ∧
      NodeInj (merkleNodeHash P)
        {p | p ∈ treePairs (merkleNodeHash P) (leafHashes P leafIds)} ∧
      (∀ p ∈ treePairs (merkleNodeHash P) (leafHashes P leafIds),
        transparencyLeafHash P leaf.id ≠ merkleNodeHash P p.1 p.2) ∧
      ¬InclusionExact P (sampleIdentity P) checkpoint leaf leafIds := by
  intro P leaf leafIds checkpoint
  have hcheckpoint := checkpointOf_wrapping P fun _ _ _ => rfl
  have hleaf := valid_sampleLeaf P fun _ _ _ => rfl
  have hlen : leafIds.length = wrappingTreeSize := List.length_replicate
  have hi : leaf.index.toNat < leafIds.length := by
    rw [hlen, index_sampleLeaf]
    decide
  have hid := leaf_valid hleaf
  have hnode : NodeInj (merkleNodeHash P)
      {p | p ∈ treePairs (merkleNodeHash P) (leafHashes P leafIds)} :=
    heightInj.mono fun p hp => wrapping_heightPair hid hp
  have hentry : leafIds[leaf.index.toNat]? = some leaf.id := by
    rw [List.getElem?_replicate, if_pos (hlen ▸ hi)]
  refine ⟨valid_sampleIdentity P, hcheckpoint, hleaf, logId_sampleLeaf P, hi,
    injOn_replicate _ _ _, hnode, fun p hp => ?_,
    not_exact_of_wrapping P (valid_sampleIdentity P) hcheckpoint hleaf
      (logId_sampleLeaf P) hi hnode hentry hlen⟩
  exact leafHash_ne_node hid (wrapping_heightPair hid hp)

end

end RbfSafe
