/-
The rows of a table by their keys, and what halving a leaf does to them.

`node` answers with the row of a key. `split` of a leaf fails and leaves
the table as it is, or makes the row of the leaf a branch and adds its
two halves as leaves; every other row stays.
-/
import RbfSafe.Lect.Proofs.Split

namespace RbfSafe.LectTree

variable {α : Type} [Scalar α] {tree : LectTree α}

/-- `node` answers with the row of the key. -/
theorem Checked.node_eq_ok (h : tree.Checked) {key : LectNodeKey}
    {node : LectNode α} :
    tree.node key = .ok node ↔ node ∈ tree.nodes ∧ node.key = key := by
  unfold LectTree.node
  rw [bind_eq_ok]
  constructor
  · rintro ⟨index, hindex, hnode⟩
    obtain ⟨row, hrow, hkey⟩ := h.indexOf_eq_ok.mp hindex
    rw [hrow] at hnode
    cases hnode
    exact ⟨List.mem_of_getElem? hrow, hkey⟩
  · rintro ⟨hmem, rfl⟩
    obtain ⟨index, hindex, hrow⟩ := h.indexOf_node hmem
    refine ⟨index, hindex, ?_⟩
    rw [hrow]

/-- What halving a leaf does to the rows. -/
structure Halves (tree : LectTree α) (leaf : LectNode α) (dimension : Nat)
    (halved : LectTree α) : Prop where
  wellFormed : halved.WellFormed
  length : halved.nodes.length = tree.nodes.length + 2
  rows : ∀ row, row ∈ halved.nodes
    ↔ row = LectNode.unsplit leaf.key.leftChild (leaf.box.lowerHalf dimension)
      ∨ row = LectNode.unsplit leaf.key.rightChild
        (leaf.box.upperHalf dimension)
      ∨ row = branchRow leaf dimension ∨ (row ∈ tree.nodes ∧ row ≠ leaf)

/-- `split` of a leaf fails, or halves it. -/
theorem WellFormed.split_leaf [LawfulScalar α] (h : tree.WellFormed)
    {leaf : LectNode α} (hmem : leaf ∈ tree.nodes)
    (hleaf : leaf.leaf = true) :
    (∃ e, tree.split leaf.key = (.error e, tree)) ∨
      ∃ dimension halved, tree.split leaf.key
          = (.ok (leaf.key.leftChild, leaf.key.rightChild), halved)
        ∧ tree.Halves leaf dimension halved := by
  rcases h.split_cases leaf.key with hsame | ⟨index, node, axis, hnode,
    hkey, -, haxis, hlower, hupper, hsplit⟩
  · refine .inl ?_
    -- a leaf is not answered for from the table
    obtain ⟨index, hindex, hrow⟩ := h.indexOf_node hmem
    unfold LectTree.split at hsame ⊢
    rw [hindex] at hsame ⊢
    dsimp only at hsame ⊢
    rw [hrow] at hsame ⊢
    dsimp only at hsame ⊢
    rw [if_neg (by simp [hleaf])] at hsame ⊢
    revert hsame
    generalize leaf.box.axes[tree.chooseSplitDimension leaf.box]? = first
    generalize tree.root.axes[tree.chooseSplitDimension leaf.box]? = second
    cases first with
    | none => exact fun _ => ⟨_, rfl⟩
    | some axis =>
        cases second with
        | none => exact fun _ => ⟨_, rfl⟩
        | some rootAxis =>
            dsimp only
            split
            · exact fun _ => ⟨_, rfl⟩
            · split
              · exact fun _ => ⟨_, rfl⟩
              · intro hnodes
                have hlength := congrArg (fun t => t.nodes.length) hnodes
                simp [LectTree.splitNodes] at hlength
  · have hsame := h.node_eq (List.mem_of_getElem? hnode) hmem hkey
    subst hsame
    refine .inr ⟨tree.chooseSplitDimension node.box, _, hsplit,
      h.splitNodes hnode hleaf haxis hlower hupper, ?_,
      h.mem_splitNodes hnode haxis⟩
    rw [splitNodes_nodes hnode haxis]
    simp

namespace Halves

variable {halved : LectTree α} {leaf : LectNode α} {dimension : Nat}

/-- Another row stays. -/
theorem keeps (h : tree.Halves leaf dimension halved) {row : LectNode α}
    (hrow : row ∈ tree.nodes) (hne : row ≠ leaf) : row ∈ halved.nodes :=
  (h.rows row).mpr (.inr (.inr (.inr ⟨hrow, hne⟩)))

theorem left_mem (h : tree.Halves leaf dimension halved) :
    LectNode.unsplit leaf.key.leftChild (leaf.box.lowerHalf dimension)
      ∈ halved.nodes :=
  (h.rows _).mpr (.inl rfl)

theorem right_mem (h : tree.Halves leaf dimension halved) :
    LectNode.unsplit leaf.key.rightChild (leaf.box.upperHalf dimension)
      ∈ halved.nodes :=
  (h.rows _).mpr (.inr (.inl rfl))

theorem branch_mem (h : tree.Halves leaf dimension halved) :
    branchRow leaf dimension ∈ halved.nodes :=
  (h.rows _).mpr (.inr (.inr (.inl rfl)))

end Halves

end RbfSafe.LectTree
