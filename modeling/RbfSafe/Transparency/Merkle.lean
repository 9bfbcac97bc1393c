/-
The Merkle functions of the log, as the code computes them: the batch
root, the frontier root, and appending a leaf or an aligned subtree to
a frontier of 64 slots.

An empty string is a vacant slot, and an empty string returned is a
failure; the frontier is passed by reference, so every append returns
it as well, also when it fails.
-/
import RbfSafe.Transparency.Types

namespace RbfSafe

/-- `std::array<std::string, 64>`. -/
abbrev Frontier := Vector Bytes 64

/-- `std::array<std::string, 64> frontier{}`. -/
def emptyFrontier : Frontier := Vector.replicate 64 []

section
variable (P : Platform)

/-- `transparency_leaf_hash`. -/
def transparencyLeafHash (leafId : Bytes) : Bytes :=
  P.sha256 (ascii "rbfsafe-transparency-merkle-leaf-v1\n" ++ leafId)

/-- `merkle_node_hash`. -/
def merkleNodeHash (left right : Bytes) : Bytes :=
  P.sha256 (ascii "rbfsafe-transparency-merkle-node-v1\n" ++ left ++ right)

/-- One round of the loop of `transparency_merkle_root`. -/
def merkleLevelUp : List Bytes → List Bytes
  | left :: right :: level => merkleNodeHash P left right :: merkleLevelUp level
  | level => level

theorem length_merkleLevelUp : ∀ level : List Bytes,
    (merkleLevelUp P level).length = (level.length + 1) / 2
  | [] => by simp [merkleLevelUp]
  | [_] => by simp [merkleLevelUp]
  | a :: b :: rest => by
      simp only [merkleLevelUp, List.length_cons, length_merkleLevelUp rest]
      omega

/-- The loop of `transparency_merkle_root`. -/
def merkleRootLoop : List Bytes → Bytes
  | [] => []
  | [root] => root
  | left :: right :: level => merkleRootLoop (merkleLevelUp P (left :: right :: level))
termination_by level => level.length
decreasing_by
  rw [length_merkleLevelUp]
  simp only [List.length_cons]
  omega

/-- `transparency_merkle_root`. -/
def transparencyMerkleRoot (orderedLeafIds : List Bytes) : Bytes :=
  merkleRootLoop P (orderedLeafIds.map (transparencyLeafHash P))

/-- `transparency_merkle_frontier_root`. -/
def transparencyMerkleFrontierRoot (frontier : Frontier) : Bytes :=
  frontier.toList.foldl (fun root subtree =>
    if subtree.isEmpty then root
    else if root.isEmpty then subtree
    else merkleNodeHash P subtree root) []

/-- The carry loop of `transparency_append_merkle_subtree`, and the
placement after it. -/
def appendCarry (frontier : Frontier) (subtree : Bytes) (level : Nat)
    (occupied : UInt64) : Bytes × Frontier :=
  if occupied &&& 1 ≠ 0 then
    if h : level < 64 then
      if frontier[level].isEmpty then ([], frontier)
      else
        appendCarry (frontier.set level []) (merkleNodeHash P frontier[level] subtree)
          (level + 1) (occupied >>> 1)
    else ([], frontier)
  else
    if h : level < 64 then
      if !frontier[level].isEmpty then ([], frontier)
      else
        let frontier := frontier.set level subtree
        (transparencyMerkleFrontierRoot P frontier, frontier)
    else ([], frontier)
termination_by 64 - level

/-- `transparency_append_merkle_subtree`. -/
def transparencyAppendMerkleSubtree (frontier : Frontier) (subtreeHash : Bytes)
    (subtreeLevel : UInt8) (previousTreeSize : UInt64) : Bytes × Frontier :=
  if !validSha256 subtreeHash || decide (subtreeLevel.toNat ≥ 64) then
    ([], frontier)
  else
    let subtreeSize : UInt64 := 1 <<< subtreeLevel.toUInt64
    if previousTreeSize &&& (subtreeSize - 1) ≠ 0
        ∨ previousTreeSize > 0xffffffffffffffff - subtreeSize then
      ([], frontier)
    else
      appendCarry P frontier subtreeHash subtreeLevel.toNat
        (previousTreeSize >>> subtreeLevel.toUInt64)

/-- `transparency_append_merkle_leaf`. -/
def transparencyAppendMerkleLeaf (frontier : Frontier) (leafId : Bytes)
    (previousTreeSize : UInt64) : Bytes × Frontier :=
  if !validSha256 leafId then ([], frontier)
  else
    transparencyAppendMerkleSubtree P frontier (transparencyLeafHash P leafId) 0
      previousTreeSize

end

end RbfSafe
