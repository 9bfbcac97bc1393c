/-
The partition a node table stands for.

# Invariant

`Checked` is what `restore` looks at: every row by itself, the keys, the
index, and that the children of a branch are present. `WellFormed` adds
the one thing that ties the boxes together: a row other than the root is
a half of a branch row. Every tree of `create` and `split` is well
formed, and so is exactly every restored table whose rows are such
halves.

# What follows

A well-formed table is a partition. Keys are prefix-closed, nothing lies
below a leaf, and of two leaves one lies on each side of the branch where
their keys part ways (`exists_divergence`). `locate` keeps the
configuration in the box of the node it stands at and goes one letter
down with each step, and no key is as long as the table.
-/
import RbfSafe.Lect.Tree
import RbfSafe.Lib.Words

namespace RbfSafe

open Lib.Words

variable {α : Type} [Scalar α]

/-- The row is a half of a branch row. -/
def LectNode.ChildOf (child parent : LectNode α) : Prop :=
  (child.key = parent.key.leftChild
      ∧ child.box = parent.box.lowerHalf parent.splitDimension)
    ∨ (child.key = parent.key.rightChild
      ∧ child.box = parent.box.upperHalf parent.splitDimension)

namespace LectTree

/-- The paths of the node table, in its order. -/
def paths (tree : LectTree α) : List Bytes :=
  tree.nodes.map fun node => node.key.path

/-- What `restore` establishes. -/
structure Checked (tree : LectTree α) : Prop where
  root_valid : tree.root.valid = true
  rooted : ∃ node, tree.nodes[0]? = some node ∧ node.key = .root ∧
    axesEq node.box.axes tree.root.axes = true
  rows : ∀ node ∈ tree.nodes, node.key.valid = true ∧
    node.box.valid = true ∧ node.box.dimension = tree.root.dimension
  links : ∀ node ∈ tree.nodes, node.left = node.key.leftChild ∧
    node.right = node.key.rightChild
  keys : tree.paths.Nodup
  indexed : tree.indices = tree.paths.zipIdx
  branches : ∀ node ∈ tree.nodes, node.leaf = false →
    node.splitDimension < tree.root.dimension ∧
      (∃ left ∈ tree.nodes, left.key = node.key.leftChild) ∧
      ∃ right ∈ tree.nodes, right.key = node.key.rightChild

/-- Every row but the root is a half of a branch row. -/
structure WellFormed (tree : LectTree α) : Prop extends Checked tree where
  parents : ∀ node ∈ tree.nodes, node.key = .root ∨
    ∃ parent ∈ tree.nodes, parent.leaf = false ∧ node.ChildOf parent

variable {tree : LectTree α}

-- === the index

omit [Scalar α] in
theorem path_mem {node : LectNode α} (h : node ∈ tree.nodes) :
    node.key.path ∈ tree.paths :=
  List.mem_map.mpr ⟨node, h, rfl⟩

/-- A key has one row. -/
theorem Checked.node_eq (h : tree.Checked) {node other : LectNode α}
    (hnode : node ∈ tree.nodes) (hother : other ∈ tree.nodes)
    (hkey : node.key = other.key) : node = other :=
  List.inj_on_of_nodup_map h.keys hnode hother (by rw [hkey])

/-- A key has one position. -/
theorem Checked.index_eq (h : tree.Checked) {i j : Nat}
    {node other : LectNode α} (hi : tree.nodes[i]? = some node)
    (hj : tree.nodes[j]? = some other) (hkey : node.key = other.key) :
    i = j := by
  have hpi : tree.paths[i]? = some node.key.path := by
    rw [paths, List.getElem?_map, hi, Option.map_some]
  have hpj : tree.paths[j]? = some node.key.path := by
    rw [paths, List.getElem?_map, hj, Option.map_some, hkey]
  have hlt : i < tree.paths.length := (List.getElem?_eq_some_iff.mp hpi).1
  exact (List.getElem?_inj hlt h.keys).mp (hpi.trans hpj.symm)

/-- `index_of` answers with the position of the key's row. -/
theorem Checked.indexOf_eq_ok (h : tree.Checked) {key : LectNodeKey}
    {index : Nat} :
    tree.indexOf key = .ok index
      ↔ ∃ node, tree.nodes[index]? = some node ∧ node.key = key := by
  unfold indexOf
  rw [ite_failure_eq_ok]
  constructor
  · rintro ⟨-, hfind⟩
    cases hentry : tree.indices.find? fun entry => entry.1 == key.path with
    | none =>
        rw [hentry] at hfind
        cases hfind
    | some entry =>
        rw [hentry] at hfind
        have hindex : entry.2 = index := Except.ok.inj hfind
        have hkey := List.find?_some hentry
        have hmem := List.mem_of_find?_eq_some hentry
        rw [h.indexed] at hmem
        obtain ⟨path, position⟩ := entry
        rw [List.mk_mem_zipIdx_iff_getElem?, paths, List.getElem?_map,
          Option.map_eq_some_iff] at hmem
        obtain ⟨node, hnode, rfl⟩ := hmem
        subst hindex
        rw [beq_iff_eq] at hkey
        exact ⟨node, hnode, LectNodeKey.ext hkey⟩
  · rintro ⟨node, hnode, rfl⟩
    have hmem := List.mem_of_getElem? hnode
    refine ⟨by simp [(h.rows node hmem).1], ?_⟩
    have hentry : (node.key.path, index) ∈ tree.indices := by
      rw [h.indexed, List.mk_mem_zipIdx_iff_getElem?, paths,
        List.getElem?_map, hnode, Option.map_some]
    cases hfind : tree.indices.find? fun entry =>
        entry.1 == node.key.path with
    | none =>
        have hnone := List.find?_eq_none.mp hfind _ hentry
        simp at hnone
    | some entry =>
        have hkey := List.find?_some hfind
        have hmem' := List.mem_of_find?_eq_some hfind
        rw [h.indexed] at hmem'
        obtain ⟨path, position⟩ := entry
        rw [List.mk_mem_zipIdx_iff_getElem?, paths, List.getElem?_map,
          Option.map_eq_some_iff] at hmem'
        obtain ⟨other, hother, rfl⟩ := hmem'
        rw [beq_iff_eq] at hkey
        rw [h.index_eq hother hnode (LectNodeKey.ext hkey)]

theorem Checked.indexOf_node (h : tree.Checked) {node : LectNode α}
    (hnode : node ∈ tree.nodes) :
    ∃ index, tree.indexOf node.key = .ok index ∧
      tree.nodes[index]? = some node := by
  obtain ⟨index, hindex⟩ := List.mem_iff_getElem?.mp hnode
  exact ⟨index, h.indexOf_eq_ok.mpr ⟨node, hindex, rfl⟩, hindex⟩

/-- An entry of the index is looked up by its path. -/
theorem hasKey_iff {indices : List (Bytes × Nat)} {key : LectNodeKey} :
    hasKey indices key = true ↔ key.path ∈ indices.map Prod.fst := by
  unfold hasKey
  rw [List.any_eq_true, List.mem_map]
  constructor
  · rintro ⟨entry, hentry, hkey⟩
    exact ⟨entry, hentry, by simpa using hkey⟩
  · rintro ⟨entry, hentry, hkey⟩
    exact ⟨entry, hentry, by simpa using hkey⟩

-- === the branches

/-- The last letter of a key names the half of the row above. -/
theorem WellFormed.parent (h : tree.WellFormed) {node : LectNode α}
    (hnode : node ∈ tree.nodes) {u : Bytes} {c : UInt8}
    (hkey : node.key.path = u ++ [c]) :
    ∃ parent ∈ tree.nodes, parent.leaf = false ∧ parent.key.path = u ∧
      ((c = 48 ∧ node.box = parent.box.lowerHalf parent.splitDimension) ∨
        (c = 49 ∧ node.box = parent.box.upperHalf parent.splitDimension)) := by
  rcases h.parents node hnode with hroot | ⟨parent, hparent, hbranch, hchild⟩
  · rw [hroot] at hkey
    simp [LectNodeKey.root] at hkey
  · refine ⟨parent, hparent, hbranch, ?_⟩
    rcases hchild with ⟨hleft, hbox⟩ | ⟨hright, hbox⟩
    · rw [hleft, LectNodeKey.leftChild] at hkey
      obtain ⟨hu, hc⟩ := List.append_inj' hkey rfl
      simp only [List.cons.injEq, and_true] at hc
      exact ⟨hu, .inl ⟨hc.symm, hbox⟩⟩
    · rw [hright, LectNodeKey.rightChild] at hkey
      obtain ⟨hu, hc⟩ := List.append_inj' hkey rfl
      simp only [List.cons.injEq, and_true] at hc
      exact ⟨hu, .inr ⟨hc.symm, hbox⟩⟩

/-- With a key every key above it is present. -/
theorem WellFormed.prefixClosed (h : tree.WellFormed) :
    PrefixClosed tree.paths := by
  intro u c hmem
  obtain ⟨node, hnode, hkey⟩ := List.mem_map.mp hmem
  obtain ⟨parent, hparent, -, hu, -⟩ := h.parent hnode hkey
  exact hu ▸ path_mem hparent

/-- The rows below a branch hold its two halves. -/
theorem WellFormed.halves (h : tree.WellFormed) {node : LectNode α}
    (hnode : node ∈ tree.nodes) (hbranch : node.leaf = false) :
    (∃ left ∈ tree.nodes, left.key = node.key.leftChild ∧
        left.box = node.box.lowerHalf node.splitDimension) ∧
      ∃ right ∈ tree.nodes, right.key = node.key.rightChild ∧
        right.box = node.box.upperHalf node.splitDimension := by
  obtain ⟨-, ⟨left, hleft, hlkey⟩, right, hright, hrkey⟩ :=
    h.branches node hnode hbranch
  constructor
  · refine ⟨left, hleft, hlkey, ?_⟩
    have hpath : left.key.path = node.key.path ++ [48] := by
      rw [hlkey, LectNodeKey.leftChild]
    obtain ⟨parent, hparent, -, hpkey, hbox⟩ := h.parent hleft hpath
    have hsame : parent = node := h.node_eq hparent hnode (LectNodeKey.ext hpkey)
    subst hsame
    rcases hbox with ⟨-, hbox⟩ | ⟨habsurd, -⟩
    · exact hbox
    · cases habsurd
  · refine ⟨right, hright, hrkey, ?_⟩
    have hpath : right.key.path = node.key.path ++ [49] := by
      rw [hrkey, LectNodeKey.rightChild]
    obtain ⟨parent, hparent, -, hpkey, hbox⟩ := h.parent hright hpath
    have hsame : parent = node := h.node_eq hparent hnode (LectNodeKey.ext hpkey)
    subst hsame
    rcases hbox with ⟨habsurd, -⟩ | ⟨-, hbox⟩
    · cases habsurd
    · exact hbox

theorem WellFormed.halves_valid (h : tree.WellFormed) {node : LectNode α}
    (hnode : node ∈ tree.nodes) (hbranch : node.leaf = false) :
    (node.box.lowerHalf node.splitDimension).valid = true ∧
      (node.box.upperHalf node.splitDimension).valid = true := by
  obtain ⟨⟨left, hleft, -, hlbox⟩, right, hright, -, hrbox⟩ :=
    h.halves hnode hbranch
  exact ⟨hlbox ▸ (h.rows left hleft).2.1, hrbox ▸ (h.rows right hright).2.1⟩

/-- The box of a row lies in the box of every row above it, and so does
its interior. -/
theorem WellFormed.box_above [LawfulScalar α] (h : tree.WellFormed)
    {above : LectNode α} (habove : above ∈ tree.nodes) {q : List α} :
    ∀ (s : Bytes) {node : LectNode α}, node ∈ tree.nodes →
      node.key.path = above.key.path ++ s →
      (node.box.Holds q → above.box.Holds q) ∧
        (node.box.Inside q → above.box.Inside q) := by
  intro s
  induction s using List.reverseRecOn with
  | nil =>
      intro node hnode hkey
      rw [List.append_nil] at hkey
      rw [h.node_eq hnode habove (LectNodeKey.ext hkey)]
      exact ⟨id, id⟩
  | append_singleton s c ih =>
      intro node hnode hkey
      rw [← List.append_assoc] at hkey
      obtain ⟨parent, hparent, hbranch, hpkey, hbox⟩ := h.parent hnode hkey
      obtain ⟨hlower, hupper⟩ := h.halves_valid hparent hbranch
      have hvalid := (h.rows parent hparent).2.1
      obtain ⟨ihholds, ihinside⟩ := ih hparent hpkey
      rcases hbox with ⟨-, hbox⟩ | ⟨-, hbox⟩
      · rw [hbox]
        exact ⟨fun hq => ihholds (hq.of_lowerHalf hupper),
          fun hq => ihinside (hq.of_lowerHalf hvalid hlower hupper)⟩
      · rw [hbox]
        exact ⟨fun hq => ihholds (hq.of_upperHalf hlower),
          fun hq => ihinside (hq.of_upperHalf hvalid hlower hupper)⟩

/-- The row on the way from a row to one further down. -/
theorem WellFormed.next_below (h : tree.WellFormed) {node : LectNode α}
    (hnode : node ∈ tree.nodes) {u t : Bytes} {c : UInt8}
    (hkey : node.key.path = u ++ c :: t) :
    ∃ next ∈ tree.nodes, next.key.path = u ++ [c] := by
  have hmem : (u ++ [c]) ++ t ∈ tree.paths := by
    rw [List.append_assoc, List.singleton_append, ← hkey]
    exact path_mem hnode
  obtain ⟨next, hnext, hnkey⟩ :=
    List.mem_map.mp (h.prefixClosed.mem hmem)
  exact ⟨next, hnext, hnkey⟩

/-- Nothing lies below a leaf. -/
theorem WellFormed.leaf_childless (h : tree.WellFormed)
    {leaf node : LectNode α} (hleaf : leaf ∈ tree.nodes)
    (hflag : leaf.leaf = true) (hnode : node ∈ tree.nodes)
    (hbelow : leaf.key.path <+: node.key.path) : node = leaf := by
  obtain ⟨s, hs⟩ := hbelow
  cases s with
  | nil =>
      rw [List.append_nil] at hs
      exact h.node_eq hnode hleaf (LectNodeKey.ext hs.symm)
  | cons c t =>
      obtain ⟨next, hnext, hnkey⟩ := h.next_below hnode hs.symm
      obtain ⟨parent, hparent, hbranch, hpkey, -⟩ := h.parent hnext hnkey
      rw [h.node_eq hparent hleaf (LectNodeKey.ext hpkey), hflag] at hbranch
      cases hbranch

/-- Two leaves lie on two sides of the branch where their keys part. -/
theorem WellFormed.leaves_disjoint [LawfulScalar α] (h : tree.WellFormed)
    {leaf other : LectNode α} (hleaf : leaf ∈ tree.nodes)
    (hother : other ∈ tree.nodes) (hflag : leaf.leaf = true)
    (hoflag : other.leaf = true) (hne : leaf ≠ other) (q : List α) :
    ¬(leaf.box.Inside q ∧ other.box.Inside q) := by
  rintro ⟨hq, hq'⟩
  have hnot : ¬leaf.key.path <+: other.key.path :=
    fun hbelow => hne (h.leaf_childless hleaf hflag hother hbelow).symm
  have hnot' : ¬other.key.path <+: leaf.key.path :=
    fun hbelow => hne (h.leaf_childless hother hoflag hleaf hbelow)
  obtain ⟨u, a, b, s, t, hab, hkey, hokey⟩ := exists_divergence hnot hnot'
  obtain ⟨next, hnext, hnkey⟩ := h.next_below hleaf hkey
  obtain ⟨onext, honext, honkey⟩ := h.next_below hother hokey
  obtain ⟨parent, hparent, hbranch, hpkey, hbox⟩ := h.parent hnext hnkey
  obtain ⟨oparent, hoparent, -, hopkey, hobox⟩ := h.parent honext honkey
  have hsame : oparent = parent :=
    h.node_eq hoparent hparent (LectNodeKey.ext (hopkey.trans hpkey.symm))
  subst hsame
  have hin := (h.box_above hnext s hleaf (by
    rw [hkey, hnkey, List.append_assoc, List.singleton_append])).2 hq
  have hin' := (h.box_above honext t hother (by
    rw [hokey, honkey, List.append_assoc, List.singleton_append])).2 hq'
  obtain ⟨hlower, -⟩ := h.halves_valid hparent hbranch
  have hd := (h.branches oparent hparent hbranch).1
  rw [← (h.rows oparent hparent).2.2] at hd
  rcases hbox with ⟨rfl, hbox⟩ | ⟨rfl, hbox⟩ <;>
    rcases hobox with ⟨rfl, hobox⟩ | ⟨rfl, hobox⟩
  · exact hab rfl
  · rw [hbox] at hin
    rw [hobox] at hin'
    exact CspaceAabb.halves_disjoint hlower hd hin hin'
  · rw [hbox] at hin
    rw [hobox] at hin'
    exact CspaceAabb.halves_disjoint hlower hd hin' hin
  · exact hab rfl

-- === location

/-- The box of every row lies in the root box. -/
theorem WellFormed.holds_root [LawfulScalar α] (h : tree.WellFormed)
    {node : LectNode α} (hnode : node ∈ tree.nodes) {q : List α}
    (hq : node.box.Holds q) : tree.root.Holds q := by
  obtain ⟨front, hfront, hkey, heq⟩ := h.rooted
  have hmem := List.mem_of_getElem? hfront
  have hvalid := (h.rows front hmem).2.1
  have hin := (h.box_above hmem node.key.path hnode (by
    rw [hkey]
    rfl)).1 hq
  refine hin.of_axesEq h.root_valid hvalid (axesEq_symm ?_ ?_ heq)
  · intro axis haxis
    simp only [CspaceAabb.valid, Bool.and_eq_true, List.all_eq_true] at hvalid
    exact hvalid.2 axis haxis
  · intro axis haxis
    have hroot := h.root_valid
    simp only [CspaceAabb.valid, Bool.and_eq_true, List.all_eq_true] at hroot
    exact hroot.2 axis haxis

/-- One step down: the child `locate` moves to holds the configuration. -/
theorem WellFormed.descend [LawfulScalar α] (h : tree.WellFormed)
    {node : LectNode α} (hnode : node ∈ tree.nodes)
    (hbranch : node.leaf = false) {q : List α} (hq : node.box.Holds q)
    {axis : Interval α} {value : α}
    (haxis : node.box.axes[node.splitDimension]? = some axis)
    (hvalue : q[node.splitDimension]? = some value) :
    ∃ next ∈ tree.nodes, next.key = (if Scalar.le value axis.center
        then node.left else node.right) ∧
      next.key.path.length = node.key.path.length + 1 ∧ next.box.Holds q := by
  obtain ⟨⟨left, hleft, hlkey, hlbox⟩, right, hright, hrkey, hrbox⟩ :=
    h.halves hnode hbranch
  obtain ⟨hlower, hupper⟩ := h.halves_valid hnode hbranch
  obtain ⟨hll, hlr⟩ := h.links node hnode
  by_cases hle : Scalar.le value axis.center = true
  · refine ⟨left, hleft, ?_, ?_, ?_⟩
    · rw [if_pos hle, hlkey, hll]
    · rw [hlkey]
      simp [LectNodeKey.leftChild]
    · rw [hlbox]
      exact hq.mem_lowerHalf haxis hvalue hle
  · refine ⟨right, hright, ?_, ?_, ?_⟩
    · rw [if_neg hle, hrkey, hlr]
    · rw [hrkey]
      simp [LectNodeKey.rightChild]
    · rw [hrbox]
      exact hq.mem_upperHalf (h.rows node hnode).2.1 hupper haxis hvalue
        (by simpa using hle)

/-- The loop of `locate` ends at a leaf that holds the configuration. -/
theorem WellFormed.locateFrom [LawfulScalar α] (h : tree.WellFormed)
    {q : List α} : ∀ (fuel : Nat) {index : Nat} {node : LectNode α},
      tree.nodes[index]? = some node → node.box.Holds q →
      tree.nodes.length ≤ fuel + node.key.path.length →
      ∃ leaf ∈ tree.nodes, leaf.leaf = true ∧ leaf.box.Holds q ∧
        tree.locateFrom q fuel index = some (.ok leaf.key) := by
  intro fuel
  induction fuel with
  | zero =>
      intro index node hindex hq hfuel
      have hlen := h.prefixClosed.length_lt
        (path_mem (List.mem_of_getElem? hindex))
      rw [paths, List.length_map] at hlen
      omega
  | succ fuel ih =>
      intro index node hindex hq hfuel
      have hnode := List.mem_of_getElem? hindex
      by_cases hflag : node.leaf = true
      · refine ⟨node, hnode, hflag, hq, ?_⟩
        simp only [LectTree.locateFrom, hindex, hflag, if_true]
      have hbranch : node.leaf = false := by simpa using hflag
      have hd : node.splitDimension < node.box.axes.length := by
        have hd := (h.branches node hnode hbranch).1
        rwa [← (h.rows node hnode).2.2] at hd
      have haxis := List.getElem?_eq_getElem hd
      have hdq : node.splitDimension < q.length := by
        rw [hq.1]
        exact hd
      have hvalue := List.getElem?_eq_getElem hdq
      obtain ⟨next, hnext, hnkey, hnlen, hnq⟩ :=
        h.descend hnode hbranch hq haxis hvalue
      obtain ⟨position, hposition, hrow⟩ := h.indexOf_node hnext
      obtain ⟨leaf, hleaf, hlflag, hlq, hloc⟩ := ih hrow hnq (by omega)
      refine ⟨leaf, hleaf, hlflag, hlq, ?_⟩
      rw [hnkey] at hposition
      simp only [LectTree.locateFrom, hindex, hflag, haxis, hvalue,
        hposition]
      exact hloc

/-- A configuration of the root box passes the checks of `locate`. -/
theorem Checked.admits [ToleratedScalar α] (h : tree.Checked)
    {q : List α} (hq : tree.root.Holds q) :
    validateConfiguration q tree.root.dimension (ascii "configuration")
        = .ok () ∧
      tree.root.contains q Scalar.tolerance = true := by
  constructor
  · have hfinite : q.all Scalar.isFinite = true := by
      rw [List.all_eq_true]
      intro value hmem
      obtain ⟨i, hi⟩ := List.mem_iff_getElem?.mp hmem
      exact hq.finite h.root_valid hi
    unfold validateConfiguration
    rw [if_neg fun hne => hne hq.1, if_neg (by simp [hfinite])]
  · unfold CspaceAabb.contains Interval.contains
    rw [Bool.and_eq_true, beq_iff_eq, List.all_eq_true]
    refine ⟨hq.1, ?_⟩
    rintro ⟨axis, value⟩ hmem
    obtain ⟨i, hi⟩ := List.mem_iff_getElem?.mp hmem
    rw [List.getElem?_zip_eq_some] at hi
    obtain ⟨hlower, hupper⟩ := hq.2 i axis value hi.1 hi.2
    obtain ⟨hfl, hfu, -⟩ := CspaceAabb.valid_axis h.root_valid hi.1
    rw [Bool.and_eq_true]
    exact ⟨LawfulScalar.le_trans (ToleratedScalar.sub_tolerance_le hfl)
        hlower,
      LawfulScalar.le_trans hupper (ToleratedScalar.le_add_tolerance hfu)⟩

/-- `locate` answers every configuration of the root box. -/
theorem WellFormed.locate [ToleratedScalar α] (h : tree.WellFormed)
    {q : List α} (hq : tree.root.Holds q) :
    ∃ leaf ∈ tree.nodes, leaf.leaf = true ∧ leaf.box.Holds q ∧
      tree.locate q = some (.ok leaf.key) := by
  obtain ⟨hvalid, hcontains⟩ := h.admits hq
  obtain ⟨front, hfront, hkey, heq⟩ := h.rooted
  have hmem := List.mem_of_getElem? hfront
  have hholds : front.box.Holds q :=
    hq.of_axesEq (h.rows front hmem).2.1 h.root_valid heq
  obtain ⟨leaf, hleaf, hflag, hlq, hloc⟩ :=
    h.locateFrom tree.nodes.length hfront hholds (by omega)
  refine ⟨leaf, hleaf, hflag, hlq, ?_⟩
  unfold LectTree.locate
  rw [hvalid]
  simp only [hcontains, Bool.true_eq_false, if_false]
  exact hloc

end LectTree

end RbfSafe
