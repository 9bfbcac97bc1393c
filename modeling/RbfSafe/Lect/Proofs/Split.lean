/-
`create` and `split` keep the table a partition.

`split_cases` says once what a call does: it answers from the table, it
fails and leaves the table as it is, or it halves a leaf at the center of
an axis, the center strictly inside. The last case turns one row into a
branch and appends its two halves, whose keys are new because nothing
lay below the leaf. Any sequence of calls then keeps `WellFormed`, and
`Partitions` reads off it what a partition is.
-/
import RbfSafe.Lect.Proofs.Partition

namespace RbfSafe

open Lib.Words

variable {α : Type} [Scalar α]

namespace LectTree

variable {tree : LectTree α}

-- === what is done

/-- A call leaves the table as it is, or halves a leaf. -/
theorem Checked.split_cases (h : tree.Checked) (key : LectNodeKey) :
    (tree.split key).2 = tree ∨
      ∃ index node axis, tree.nodes[index]? = some node ∧ node.key = key ∧
        node.leaf = true ∧
        node.box.axes[tree.chooseSplitDimension node.box]? = some axis ∧
        Scalar.lt axis.lower axis.center = true ∧
        Scalar.lt axis.center axis.upper = true ∧
        tree.split key = (.ok (key.leftChild, key.rightChild),
          tree.splitNodes key index node
            (tree.chooseSplitDimension node.box) axis.center) := by
  unfold split
  cases hindex : tree.indexOf key with
  | error e => exact .inl rfl
  | ok index =>
      obtain ⟨node, hnode, hkey⟩ := h.indexOf_eq_ok.mp hindex
      dsimp only
      rw [hnode]
      dsimp only
      by_cases hleaf : node.leaf = false
      · rw [if_pos hleaf]
        exact .inl rfl
      rw [if_neg hleaf]
      cases haxis : node.box.axes[tree.chooseSplitDimension node.box]? with
      | none => exact .inl rfl
      | some axis =>
          cases hroot :
              tree.root.axes[tree.chooseSplitDimension node.box]? with
          | none => exact .inl rfl
          | some rootAxis =>
              by_cases hwidth : Scalar.le
                  (Scalar.div axis.width rootAxis.width)
                  tree.policy.minimumNormalizedWidth = true
              · simp only [if_pos hwidth]
                exact .inl trivial
              simp only [if_neg hwidth]
              by_cases hcenter : (Scalar.lt axis.lower axis.center
                  && Scalar.lt axis.center axis.upper) = true
              · rw [hcenter]
                rw [Bool.and_eq_true] at hcenter
                exact .inr ⟨index, node, axis, hnode, hkey,
                  by simpa using hleaf, haxis, hcenter.1, hcenter.2, rfl⟩
              · rw [Bool.not_eq_true] at hcenter
                rw [hcenter]
                exact .inl rfl

-- === a halved leaf

/-- The row of a leaf that has been halved. -/
def branchRow (node : LectNode α) (dimension : Nat) : LectNode α :=
  { node with leaf := false, splitDimension := dimension,
              left := node.key.leftChild, right := node.key.rightChild }

omit [Scalar α] in
/-- Only the entry of the axis is looked at. -/
theorem modify_center {axes : List (Interval α)} {d : Nat}
    {axis : Interval α} (haxis : axes[d]? = some axis)
    {f g : Interval α → Interval α} (hfg : f axis = g axis) :
    axes.modify d f = axes.modify d g := by
  apply List.ext_getElem?
  intro i
  rw [List.getElem?_modify, List.getElem?_modify]
  by_cases hd : d = i
  · subst hd
    simp [haxis, hfg]
  · simp [hd]

/-- The table of `split`: one row made a branch, its halves appended. -/
theorem splitNodes_nodes {index : Nat} {node : LectNode α}
    (hnode : tree.nodes[index]? = some node) {d : Nat}
    {axis : Interval α} (haxis : node.box.axes[d]? = some axis) :
    (tree.splitNodes node.key index node d axis.center).nodes
      = tree.nodes.set index (branchRow node d)
        ++ [LectNode.unsplit node.key.leftChild (node.box.lowerHalf d),
          LectNode.unsplit node.key.rightChild (node.box.upperHalf d)] := by
  have hlt : index < tree.nodes.length := (List.getElem?_eq_some_iff.mp hnode).1
  have hlower : (⟨node.box.axes.modify d fun a => { a with upper := axis.center }⟩
      : CspaceAabb α) = node.box.lowerHalf d :=
    congrArg CspaceAabb.mk (modify_center haxis rfl)
  have hupper : (⟨node.box.axes.modify d fun a => { a with lower := axis.center }⟩
      : CspaceAabb α) = node.box.upperHalf d :=
    congrArg CspaceAabb.mk (modify_center haxis rfl)
  unfold splitNodes
  rw [hlower, hupper]
  dsimp only
  rw [List.append_assoc, List.singleton_append, List.set_append_left _ _ hlt]
  rfl

/-- The rows of the halved table: the two halves, the branch, and the
other rows as they were. -/
theorem Checked.mem_splitNodes (h : tree.Checked) {index : Nat}
    {node : LectNode α} (hnode : tree.nodes[index]? = some node) {d : Nat}
    {axis : Interval α} (haxis : node.box.axes[d]? = some axis)
    (row : LectNode α) :
    row ∈ (tree.splitNodes node.key index node d axis.center).nodes
      ↔ row = LectNode.unsplit node.key.leftChild (node.box.lowerHalf d)
        ∨ row = LectNode.unsplit node.key.rightChild (node.box.upperHalf d)
        ∨ row = branchRow node d ∨ (row ∈ tree.nodes ∧ row ≠ node) := by
  have hlt : index < tree.nodes.length := (List.getElem?_eq_some_iff.mp hnode).1
  have hset : row ∈ tree.nodes.set index (branchRow node d)
      ↔ row = branchRow node d ∨ (row ∈ tree.nodes ∧ row ≠ node) := by
    rw [List.mem_iff_getElem?]
    constructor
    · rintro ⟨i, hi⟩
      rw [List.getElem?_set] at hi
      by_cases hii : index = i
      · rw [if_pos hii, if_pos hlt, Option.some_inj] at hi
        exact .inl hi.symm
      · rw [if_neg hii] at hi
        refine .inr ⟨List.mem_of_getElem? hi, ?_⟩
        rintro rfl
        exact hii (h.index_eq hnode hi rfl)
    · rintro (rfl | ⟨hmem, hne⟩)
      · exact ⟨index, by rw [List.getElem?_set, if_pos rfl, if_pos hlt]⟩
      · obtain ⟨i, hi⟩ := List.mem_iff_getElem?.mp hmem
        refine ⟨i, ?_⟩
        rw [List.getElem?_set, if_neg]
        · exact hi
        · rintro rfl
          rw [hnode, Option.some_inj] at hi
          exact hne hi.symm
  rw [splitNodes_nodes hnode haxis, List.mem_append, hset, List.mem_cons,
    List.mem_singleton]
  tauto

theorem splitNodes_paths {index : Nat} {node : LectNode α}
    (hnode : tree.nodes[index]? = some node) {d : Nat}
    {axis : Interval α} (haxis : node.box.axes[d]? = some axis) :
    (tree.splitNodes node.key index node d axis.center).paths
      = tree.paths ++ [node.key.path ++ [48], node.key.path ++ [49]] := by
  obtain ⟨hlt, hget⟩ := List.getElem?_eq_some_iff.mp hnode
  have hkeep : (tree.nodes.map fun n => n.key.path).set index node.key.path
      = tree.nodes.map fun n => n.key.path := by
    have hlt' : index < (tree.nodes.map fun n => n.key.path).length := by
      rwa [List.length_map]
    conv_rhs => rw [← List.set_getElem_self hlt']
    rw [List.getElem_map, hget]
  unfold paths
  rw [splitNodes_nodes hnode haxis, List.map_append, List.map_set]
  exact congrArg₂ (· ++ ·) hkeep rfl

/-- The keys of the two halves are new. -/
theorem WellFormed.child_new (h : tree.WellFormed) {node : LectNode α}
    (hnode : node ∈ tree.nodes) (hleaf : node.leaf = true) (c : UInt8) :
    node.key.path ++ [c] ∉ tree.paths := by
  intro hmem
  obtain ⟨row, hrow, hkey⟩ := List.mem_map.mp hmem
  have hsame := h.leaf_childless hnode hleaf hrow ⟨[c], hkey.symm⟩
  rw [hsame] at hkey
  have hlen := congrArg List.length hkey
  rw [List.length_append, List.length_singleton] at hlen
  omega

omit [Scalar α] in
theorem emplaceIndex_new {indices : List (Bytes × Nat)} {path : Bytes}
    {index : Nat} (hnew : path ∉ indices.map Prod.fst) :
    emplaceIndex indices path index = indices ++ [(path, index)] := by
  unfold emplaceIndex
  rw [if_neg]
  intro hany
  obtain ⟨entry, hentry, hpath⟩ := List.any_eq_true.mp hany
  exact hnew (List.mem_map.mpr ⟨entry, hentry, by simpa using hpath⟩)

theorem WellFormed.splitNodes_indices (h : tree.WellFormed) {index : Nat}
    {node : LectNode α} (hnode : tree.nodes[index]? = some node)
    (hleaf : node.leaf = true) (d : Nat) {axis : Interval α}
    (haxis : node.box.axes[d]? = some axis) :
    (tree.splitNodes node.key index node d axis.center).indices
      = (tree.splitNodes node.key index node d axis.center).paths.zipIdx := by
  have hmem := List.mem_of_getElem? hnode
  have hfst : tree.paths.zipIdx.map Prod.fst = tree.paths :=
    List.zipIdx_map_fst 0 tree.paths
  rw [splitNodes_paths hnode haxis]
  have hleft : node.key.path ++ [48] ∉ tree.indices.map Prod.fst := by
    rw [h.indexed, hfst]
    exact h.child_new hmem hleaf 48
  have hright : node.key.path ++ [49] ∉ (tree.indices
      ++ [(node.key.path ++ [48], tree.nodes.length)]).map Prod.fst := by
    rw [h.indexed, List.map_append, hfst, List.mem_append]
    rintro (hold | hnew)
    · exact h.child_new hmem hleaf 49 hold
    · simp at hnew
  have hlen : tree.nodes.length = tree.paths.length := by
    rw [paths, List.length_map]
  unfold splitNodes LectNodeKey.leftChild LectNodeKey.rightChild
  dsimp only
  rw [emplaceIndex_new hleft, emplaceIndex_new hright, h.indexed,
    List.zipIdx_append, hlen]
  simp [List.zipIdx]

/-- A half of a valid box is valid where the center lies inside. -/
theorem half_valid [LawfulScalar α] {box : CspaceAabb α}
    (hvalid : box.valid = true) {d : Nat} {axis : Interval α}
    (haxis : box.axes[d]? = some axis)
    (hlower : Scalar.lt axis.lower axis.center = true)
    (hupper : Scalar.lt axis.center axis.upper = true) :
    (box.lowerHalf d).valid = true ∧ (box.upperHalf d).valid = true := by
  obtain ⟨hfl, hfu, -⟩ := CspaceAabb.valid_axis hvalid haxis
  have hle := LawfulScalar.le_of_lt hlower
  have hle' := LawfulScalar.le_of_lt hupper
  have hcenter := LawfulScalar.finite_between hfl hfu hle hle'
  rw [CspaceAabb.valid_iff] at hvalid
  constructor
  · rw [CspaceAabb.valid_iff]
    refine ⟨?_, ?_⟩
    · simpa [CspaceAabb.lowerHalf] using hvalid.1
    · intro half hhalf
      obtain ⟨i, hi⟩ := List.mem_iff_getElem?.mp hhalf
      rw [CspaceAabb.axis_lowerHalf, Option.map_eq_some_iff] at hi
      obtain ⟨old, hold, rfl⟩ := hi
      by_cases hd : d = i
      · subst hd
        rw [haxis, Option.some_inj] at hold
        subst hold
        rw [if_pos rfl]
        exact ⟨hfl, hcenter, hle⟩
      · rw [if_neg hd]
        exact hvalid.2 old (List.mem_of_getElem? hold)
  · rw [CspaceAabb.valid_iff]
    refine ⟨?_, ?_⟩
    · simpa [CspaceAabb.upperHalf] using hvalid.1
    · intro half hhalf
      obtain ⟨i, hi⟩ := List.mem_iff_getElem?.mp hhalf
      rw [CspaceAabb.axis_upperHalf, Option.map_eq_some_iff] at hi
      obtain ⟨old, hold, rfl⟩ := hi
      by_cases hd : d = i
      · subst hd
        rw [haxis, Option.some_inj] at hold
        subst hold
        rw [if_pos rfl]
        exact ⟨hcenter, hfu, hle'⟩
      · rw [if_neg hd]
        exact hvalid.2 old (List.mem_of_getElem? hold)

omit [Scalar α] in
theorem valid_child {key : LectNodeKey} (h : key.valid = true) :
    key.leftChild.valid = true ∧ key.rightChild.valid = true := by
  unfold LectNodeKey.valid at h ⊢
  simp [LectNodeKey.leftChild, LectNodeKey.rightChild, List.all_append, h]

/-- Halving a leaf keeps the table well formed. -/
theorem WellFormed.splitNodes [LawfulScalar α] (h : tree.WellFormed)
    {index : Nat} {node : LectNode α}
    (hnode : tree.nodes[index]? = some node) (hleaf : node.leaf = true)
    {d : Nat} {axis : Interval α} (haxis : node.box.axes[d]? = some axis)
    (hlower : Scalar.lt axis.lower axis.center = true)
    (hupper : Scalar.lt axis.center axis.upper = true) :
    (tree.splitNodes node.key index node d axis.center).WellFormed := by
  have hmem := List.mem_of_getElem? hnode
  have hrows := h.mem_splitNodes hnode haxis
  obtain ⟨hkeyvalid, hboxvalid, hboxdim⟩ := h.rows node hmem
  obtain ⟨hlv, hrv⟩ := half_valid hboxvalid haxis hlower hupper
  obtain ⟨hlk, hrk⟩ := valid_child hkeyvalid
  -- a row keeps its key, also the one that becomes a branch
  have hkept : ∀ row ∈ tree.nodes, ∃ row' ∈
      (tree.splitNodes node.key index node d axis.center).nodes,
      row'.key = row.key := by
    intro row hrow
    by_cases hrn : row = node
    · exact ⟨branchRow node d, (hrows _).mpr (.inr (.inr (.inl rfl))),
        by rw [hrn]; rfl⟩
    · exact ⟨row, (hrows _).mpr (.inr (.inr (.inr ⟨hrow, hrn⟩))), rfl⟩
  refine
    { root_valid := h.root_valid
      rooted := ?rooted
      rows := ?rows
      links := ?links
      keys := ?keys
      indexed := h.splitNodes_indices hnode hleaf d haxis
      branches := ?branches
      parents := ?parents }
  case rooted =>
    obtain ⟨front, hfront, hkey, heq⟩ := h.rooted
    have hlt := (List.getElem?_eq_some_iff.mp hfront).1
    rw [splitNodes_nodes hnode haxis, List.getElem?_append_left
      (by rwa [List.length_set])]
    by_cases hzero : index = 0
    · subst hzero
      rw [hfront, Option.some_inj] at hnode
      subst hnode
      exact ⟨branchRow front d, by rw [List.getElem?_set_self hlt], hkey, heq⟩
    · exact ⟨front, by rw [List.getElem?_set_ne hzero, hfront], hkey, heq⟩
  case rows =>
    intro row hrow
    rcases (hrows row).mp hrow with rfl | rfl | rfl | ⟨hold, -⟩
    · exact ⟨hlk, hlv, (node.box.dimension_lowerHalf d).trans hboxdim⟩
    · exact ⟨hrk, hrv, (node.box.dimension_upperHalf d).trans hboxdim⟩
    · exact h.rows node hmem
    · exact h.rows row hold
  case links =>
    intro row hrow
    rcases (hrows row).mp hrow with rfl | rfl | rfl | ⟨hold, -⟩
    · exact ⟨rfl, rfl⟩
    · exact ⟨rfl, rfl⟩
    · exact ⟨rfl, rfl⟩
    · exact h.links row hold
  case keys =>
    rw [splitNodes_paths hnode haxis, List.nodup_append]
    refine ⟨h.keys, by simp, ?_⟩
    intro path hpath new hnew
    simp only [List.mem_cons, List.not_mem_nil, or_false] at hnew
    rintro rfl
    rcases hnew with rfl | rfl
    · exact h.child_new hmem hleaf 48 hpath
    · exact h.child_new hmem hleaf 49 hpath
  case branches =>
    intro row hrow hbranch
    rcases (hrows row).mp hrow with rfl | rfl | rfl | ⟨hold, -⟩
    · cases hbranch
    · cases hbranch
    · refine ⟨?_, ⟨_, (hrows _).mpr (.inl rfl), rfl⟩,
        _, (hrows _).mpr (.inr (.inl rfl)), rfl⟩
      have hlt := (List.getElem?_eq_some_iff.mp haxis).1
      exact hboxdim ▸ hlt
    · obtain ⟨hd, ⟨left, hleft, hlkey⟩, right, hright, hrkey⟩ :=
        h.branches row hold hbranch
      obtain ⟨left', hleft', hlkey'⟩ := hkept left hleft
      obtain ⟨right', hright', hrkey'⟩ := hkept right hright
      exact ⟨hd, ⟨left', hleft', hlkey'.trans hlkey⟩,
        right', hright', hrkey'.trans hrkey⟩
  case parents =>
    -- a branch row is not the leaf that is halved, so it stays as it was
    have hold : ∀ row ∈ tree.nodes, row.key = .root ∨ ∃ parent ∈
        (tree.splitNodes node.key index node d axis.center).nodes,
        parent.leaf = false ∧ row.ChildOf parent := by
      intro row hrow
      rcases h.parents row hrow with hroot | ⟨parent, hparent, hpleaf, hchild⟩
      · exact .inl hroot
      · refine .inr ⟨parent, (hrows _).mpr (.inr (.inr (.inr ⟨hparent, ?_⟩))),
          hpleaf, hchild⟩
        rintro rfl
        rw [hleaf] at hpleaf
        cases hpleaf
    intro row hrow
    rcases (hrows row).mp hrow with rfl | rfl | rfl | ⟨hrow', -⟩
    · exact .inr ⟨branchRow node d, (hrows _).mpr (.inr (.inr (.inl rfl))),
        rfl, .inl ⟨rfl, rfl⟩⟩
    · exact .inr ⟨branchRow node d, (hrows _).mpr (.inr (.inr (.inl rfl))),
        rfl, .inr ⟨rfl, rfl⟩⟩
    · exact hold node hmem
    · exact hold row hrow'

/-- A call of `split`, successful or not, keeps the table well formed. -/
theorem WellFormed.split [LawfulScalar α] (h : tree.WellFormed)
    (key : LectNodeKey) : (tree.split key).2.WellFormed := by
  rcases h.split_cases key with hsame | ⟨index, node, axis, hnode, hkey,
    hleaf, haxis, hlower, hupper, hsplit⟩
  · rw [hsame]
    exact h
  · rw [hsplit, ← hkey]
    exact h.splitNodes hnode hleaf haxis hlower hupper

/-- The tree of `create` is its root. -/
theorem create_eq_ok {root : CspaceAabb α} {policy : SplitPolicy α}
    (hcreate : create root policy = .ok tree) :
    root.valid = true ∧ root.dimension ≤ kMaximumDimension ∧
      validatePolicy policy = .ok () ∧
      (root.axes.any fun axis => Scalar.le axis.width Scalar.zero) = false ∧
      tree = { root := root
               policy := policy
               nodes := [LectNode.unsplit .root root]
               indices := [([], 0)] } := by
  unfold create at hcreate
  rw [ite_failure_eq_ok, check_eq_ok, ite_failure_eq_ok] at hcreate
  obtain ⟨hroot, hpolicy, hwidth, htree⟩ := hcreate
  push Not at hroot
  exact ⟨by simpa using hroot.1, hroot.2, hpolicy, by simpa using hwidth,
    (Except.ok.inj htree).symm⟩

theorem create_wellFormed [LawfulScalar α] {root : CspaceAabb α}
    {policy : SplitPolicy α} (hcreate : create root policy = .ok tree) :
    tree.WellFormed := by
  obtain ⟨hvalid, -, -, -, rfl⟩ := create_eq_ok hcreate
  have haxes : ∀ axis ∈ root.axes, axis.valid = true := by
    simp only [CspaceAabb.valid, Bool.and_eq_true, List.all_eq_true] at hvalid
    exact hvalid.2
  refine
    { root_valid := hvalid
      rooted := ⟨_, rfl, rfl, axesEq_refl haxes⟩
      rows := ?_
      links := ?_
      keys := List.nodup_singleton _
      indexed := rfl
      branches := ?_
      parents := ?_ }
  all_goals
    intro row hrow
    rw [List.mem_singleton.mp hrow]
  · exact ⟨rfl, hvalid, rfl⟩
  · exact ⟨rfl, rfl⟩
  · intro hbranch
    cases hbranch
  · exact .inl rfl

/-- Any sequence of calls keeps the table well formed. -/
theorem WellFormed.run [LawfulScalar α] : ∀ (keys : List LectNodeKey)
    {tree : LectTree α}, tree.WellFormed → (tree.run keys).WellFormed
  | [], _, h => h
  | key :: keys, _, h => WellFormed.run keys (h.split key)

-- === partitions

/-- The node table partitions the root box: its keys form a binary tree,
each branch is halved by its children, the leaves share no interior and
make up the root, the index has every key, and `locate` finds the leaf of
every configuration. -/
structure Partitions (tree : LectTree α) : Prop where
  keys_unique : tree.paths.Nodup
  keys_closed : ∀ (u : Bytes) (c : UInt8), u ++ [c] ∈ tree.paths →
    u ∈ tree.paths ∧ (c = 48 ∨ c = 49)
  parents_branch : ∀ node ∈ tree.nodes, ∀ (u : Bytes) (c : UInt8),
    node.key.path = u ++ [c] →
      ∃ parent ∈ tree.nodes, parent.key.path = u ∧ parent.leaf = false
  leaves_childless : ∀ leaf ∈ tree.nodes, leaf.leaf = true →
    ∀ node ∈ tree.nodes, leaf.key.path <+: node.key.path → node = leaf
  children : ∀ node ∈ tree.nodes, node.leaf = false →
    node.splitDimension < node.box.dimension ∧
      node.left = node.key.leftChild ∧ node.right = node.key.rightChild ∧
      (∃ left ∈ tree.nodes, left.key = node.left ∧
        left.box = node.box.lowerHalf node.splitDimension) ∧
      ∃ right ∈ tree.nodes, right.key = node.right ∧
        right.box = node.box.upperHalf node.splitDimension
  disjoint : ∀ leaf ∈ tree.nodes, leaf.leaf = true →
    ∀ other ∈ tree.nodes, other.leaf = true → leaf ≠ other →
      ∀ q, ¬(leaf.box.Inside q ∧ other.box.Inside q)
  cover : ∀ q, tree.root.Holds q ↔
    ∃ leaf ∈ tree.nodes, leaf.leaf = true ∧ leaf.box.Holds q
  indexed : ∀ (path : Bytes) (index : Nat), (path, index) ∈ tree.indices ↔
    ∃ node, tree.nodes[index]? = some node ∧ node.key.path = path
  located : ∀ q, tree.root.Holds q → ∃ leaf ∈ tree.nodes,
    leaf.leaf = true ∧ leaf.box.Holds q ∧
      tree.locate q = some (.ok leaf.key)

theorem WellFormed.partitions [ToleratedScalar α] (h : tree.WellFormed) :
    tree.Partitions where
  keys_unique := h.keys
  keys_closed u c hmem := by
    refine ⟨h.prefixClosed u c hmem, ?_⟩
    obtain ⟨node, hnode, hkey⟩ := List.mem_map.mp hmem
    obtain ⟨parent, -, -, -, hc⟩ := h.parent hnode hkey
    exact hc.imp And.left And.left
  parents_branch node hnode u c hkey := by
    obtain ⟨parent, hparent, hbranch, hpkey, -⟩ := h.parent hnode hkey
    exact ⟨parent, hparent, hpkey, hbranch⟩
  leaves_childless leaf hleaf hflag node hnode hbelow :=
    h.leaf_childless hleaf hflag hnode hbelow
  children node hnode hbranch := by
    obtain ⟨hll, hlr⟩ := h.links node hnode
    obtain ⟨⟨left, hleft, hlkey, hlbox⟩, right, hright, hrkey, hrbox⟩ :=
      h.halves hnode hbranch
    refine ⟨?_, hll, hlr, ⟨left, hleft, hlkey.trans hll.symm, hlbox⟩,
      right, hright, hrkey.trans hlr.symm, hrbox⟩
    rw [(h.rows node hnode).2.2]
    exact (h.branches node hnode hbranch).1
  disjoint leaf hleaf hflag other hother hoflag hne q :=
    h.leaves_disjoint hleaf hother hflag hoflag hne q
  cover q := by
    constructor
    · intro hq
      obtain ⟨leaf, hleaf, hflag, hlq, -⟩ := h.locate hq
      exact ⟨leaf, hleaf, hflag, hlq⟩
    · rintro ⟨leaf, hleaf, -, hlq⟩
      exact h.holds_root hleaf hlq
  indexed path index := by
    rw [h.indexed, List.mk_mem_zipIdx_iff_getElem?, paths,
      List.getElem?_map, Option.map_eq_some_iff]
  located q hq := h.locate hq

/-- From `create`, any sequence of `split` calls, successful or failing,
leaves a partition. -/
theorem split_run_partitions [ToleratedScalar α] {root : CspaceAabb α}
    {policy : SplitPolicy α} (hcreate : create root policy = .ok tree)
    (keys : List LectNodeKey) : (tree.run keys).Partitions :=
  (WellFormed.run keys (create_wellFormed hcreate)).partitions

/-- A box of two axes and the default policy. -/
def sampleRoot : CspaceAabb ℚ := ⟨[⟨-1, 1⟩, ⟨-2, 2⟩]⟩

def samplePolicy : SplitPolicy ℚ := ⟨.normalizedLongestAxis, 1 / 1000⟩

/-- The tree of its creation. -/
def sampleTree : LectTree ℚ where
  root := sampleRoot
  policy := samplePolicy
  nodes := [LectNode.unsplit .root sampleRoot]
  indices := [([], 0)]

/-- Three calls, the last of which fails. -/
theorem split_run_partitions_sample :
    (sampleTree.run [⟨[]⟩, ⟨[48]⟩, ⟨[50]⟩]).Partitions :=
  @split_run_partitions ℚ _ sampleTree _ sampleRoot samplePolicy
    (by decide +kernel) _

example : (sampleTree.run [⟨[]⟩, ⟨[48]⟩, ⟨[50]⟩]).paths
    = [[], [48], [49], [48, 48], [48, 49]] := by decide +kernel

end LectTree

end RbfSafe
