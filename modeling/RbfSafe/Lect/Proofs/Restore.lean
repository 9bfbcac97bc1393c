/-
What `restore` admits.

`restore_eq_ok` is the list of its checks: each row by itself, keys that
differ, the root row against the root domain and children that are
present. Nothing ties a row to the row above it. A table may hold rows
under a leaf, rows without a parent, and boxes that have nothing to do
with the box they are said to halve; the tree it becomes is a partition
exactly where the missing check passes on every row.
-/
import RbfSafe.Lect.Proofs.Split

namespace RbfSafe

variable {α : Type} [Scalar α]

namespace LectTree

/-- What `restore` makes of a row: its children are named again. -/
def relink (node : LectNode α) : LectNode α :=
  { node with left := node.key.leftChild, right := node.key.rightChild }

/-- The checks of a row by itself. -/
def RowChecked (dimension : Nat) (node : LectNode α) : Prop :=
  node.key.valid = true ∧ node.box.valid = true ∧
    node.box.dimension = dimension ∧
    (node.leaf = false → node.splitDimension < dimension)

/-- The paths of a list of rows. -/
def rowPaths (nodes : List (LectNode α)) : List Bytes :=
  nodes.map fun node => node.key.path

/-- The loop over the rows checks each of them and that no key occurs
twice, and enters the keys in order. -/
theorem restoreRows_eq_ok {dimension : Nat} :
    ∀ {nodes : List (LectNode α)} {index : Nat}
      {indices : List (Bytes × Nat)}
      {table : List (LectNode α) × List (Bytes × Nat)},
      restoreRows dimension nodes index indices = .ok table
        ↔ (∀ node ∈ nodes, RowChecked dimension node) ∧
          (rowPaths nodes).Nodup ∧
          (∀ path ∈ rowPaths nodes, path ∉ indices.map Prod.fst) ∧
          table = (nodes.map relink,
            indices ++ (rowPaths nodes).zipIdx index) := by
  intro nodes
  induction nodes with
  | nil =>
      intro index indices table
      simp [restoreRows, rowPaths, eq_comm]
  | cons node nodes ih =>
      intro index indices table
      unfold restoreRows
      rw [ite_failure_eq_ok, ite_failure_eq_ok, ite_failure_eq_ok,
        bind_eq_ok]
      have hkey : ((indices.any fun entry => entry.1 == node.key.path) = true)
          ↔ node.key.path ∈ indices.map Prod.fst := hasKey_iff
      rw [hkey]
      constructor
      · rintro ⟨hrow, hnew, hsplit, rest, hrest, htable⟩
        rw [emplaceIndex_new hnew, ih] at hrest
        obtain ⟨hrows, hnodup, hfresh, rfl⟩ := hrest
        push Not at hrow hsplit
        refine ⟨?_, ?_, ?_, ?_⟩
        · rintro row (_ | ⟨_, hmem⟩)
          · exact ⟨by simpa using hrow.1, by simpa using hrow.2.1,
              hrow.2.2, hsplit⟩
          · exact hrows row hmem
        · rw [rowPaths, List.map_cons, List.nodup_cons]
          refine ⟨?_, hnodup⟩
          intro hmem
          exact hfresh _ hmem (by simp)
        · intro path hpath
          rw [rowPaths, List.map_cons, List.mem_cons] at hpath
          rcases hpath with rfl | hpath
          · exact hnew
          · intro hold
            refine hfresh path hpath ?_
            rw [List.map_append, List.mem_append]
            exact .inl hold
        · rw [← Except.ok.inj htable]
          simp [rowPaths, relink, List.zipIdx_cons]
      · rintro ⟨hrows, hnodup, hfresh, rfl⟩
        rw [rowPaths, List.map_cons, List.nodup_cons] at hnodup
        obtain ⟨hvalid, hbox, hdim, hsplit⟩ :=
          hrows node List.mem_cons_self
        have hnew : node.key.path ∉ indices.map Prod.fst :=
          hfresh _ (by simp [rowPaths])
        refine ⟨?_, hnew, ?_, (nodes.map relink, indices
          ++ [(node.key.path, index)] ++ (rowPaths nodes).zipIdx (index + 1)),
          ?_, ?_⟩
        · simp [hvalid, hbox, hdim]
        · push Not
          exact hsplit
        · rw [emplaceIndex_new hnew, ih]
          refine ⟨fun row hmem => hrows row (List.mem_cons_of_mem _ hmem),
            hnodup.2, ?_, rfl⟩
          intro path hpath hold
          rw [List.map_append, List.mem_append] at hold
          rcases hold with hold | hold
          · exact hfresh path (List.mem_cons_of_mem _ hpath) hold
          · simp only [List.map_cons, List.map_nil, List.mem_singleton] at hold
            exact hnodup.1 (hold ▸ hpath)
        · simp [rowPaths, relink, List.zipIdx_cons]

omit [Scalar α] in
/-- The last loop asks that the children of a branch are in the index. -/
theorem checkChildren_eq_ok {indices : List (Bytes × Nat)} :
    ∀ {nodes : List (LectNode α)},
      checkChildren indices nodes = .ok () ↔ ∀ node ∈ nodes,
        node.leaf = false → hasKey indices node.left = true ∧
          hasKey indices node.right = true := by
  intro nodes
  induction nodes with
  | nil => simp [checkChildren]
  | cons node nodes ih =>
      unfold checkChildren
      rw [ite_failure_eq_ok, ih, List.forall_mem_cons]
      refine and_congr_left fun _ => ?_
      push Not
      simp

/-- The rows of a table that `restore` looks at one by one. -/
structure TableChecked (root : CspaceAabb α) (nodes : List (LectNode α)) :
    Prop where
  rooted : ∃ front, nodes[0]? = some front ∧ front.key = .root ∧
    axesEq front.box.axes root.axes = true
  rows : ∀ node ∈ nodes, RowChecked root.dimension node
  keys : (rowPaths nodes).Nodup
  branches : ∀ node ∈ nodes, node.leaf = false →
    node.key.leftChild.path ∈ rowPaths nodes ∧
      node.key.rightChild.path ∈ rowPaths nodes

/-- `restore` succeeds on a checked table over a domain that `create`
takes, and keeps the table as it is. -/
theorem restore_eq_ok {root : CspaceAabb α} {policy : SplitPolicy α}
    {nodes : List (LectNode α)} {tree : LectTree α} :
    restore root policy nodes = .ok tree
      ↔ Succeeds (create root policy) ∧ TableChecked root nodes ∧
        tree = { root := root
                 policy := policy
                 nodes := nodes.map relink
                 indices := (rowPaths nodes).zipIdx } := by
  have hchildren : checkChildren ((rowPaths nodes).zipIdx) (nodes.map relink)
        = .ok ()
      ↔ ∀ node ∈ nodes, node.leaf = false →
        node.key.leftChild.path ∈ rowPaths nodes ∧
          node.key.rightChild.path ∈ rowPaths nodes := by
    rw [checkChildren_eq_ok, List.forall_mem_map]
    simp only [hasKey_iff, List.zipIdx_map_fst]
    rfl
  unfold restore
  rw [bind_eq_ok]
  cases nodes with
  | nil =>
      constructor
      · rintro ⟨created, -, habsurd⟩
        cases habsurd
      · rintro ⟨-, htable, -⟩
        obtain ⟨front, hfront, -⟩ := htable.rooted
        cases hfront
  | cons front rest =>
      simp only [ite_failure_eq_ok, bind_eq_ok, restoreRows_eq_ok]
      constructor
      · rintro ⟨created, hcreate, hkey, table, ⟨hrows, hnodup, -, rfl⟩,
          haxes, ⟨⟩, hcheck, htree⟩
        obtain ⟨-, -, -, -, rfl⟩ := create_eq_ok hcreate
        rw [List.nil_append] at hcheck htree
        exact ⟨⟨_, hcreate⟩, ⟨⟨front, rfl, not_not.mp hkey, by simpa using haxes⟩,
          hrows, hnodup, hchildren.mp hcheck⟩, (Except.ok.inj htree).symm⟩
      · rintro ⟨⟨created, hcreate⟩, htable, rfl⟩
        refine ⟨created, hcreate, ?_⟩
        obtain ⟨-, -, -, -, rfl⟩ := create_eq_ok hcreate
        obtain ⟨front', hfront, hkey, haxes⟩ := htable.rooted
        cases hfront
        refine ⟨not_not.mpr hkey, _, ⟨htable.rows, htable.keys, ?_, rfl⟩, ?_,
          (), ?_, ?_⟩
        · simp
        · simp [haxes]
        · rw [List.nil_append]
          exact hchildren.mpr htable.branches
        · rw [List.nil_append]

-- === what is missing

/-- The check `restore` leaves out: every row but the root halves a branch
row of the table. -/
def RowsHalveParents (nodes : List (LectNode α)) : Prop :=
  ∀ node ∈ nodes, node.key = .root ∨
    ∃ parent ∈ nodes, parent.leaf = false ∧ node.ChildOf parent

instance [DecidableEq α] (nodes : List (LectNode α)) :
    Decidable (RowsHalveParents nodes) := by
  unfold RowsHalveParents LectNode.ChildOf
  infer_instance

variable {root : CspaceAabb α} {policy : SplitPolicy α}
  {nodes : List (LectNode α)} {tree : LectTree α}

theorem restore_checked (h : restore root policy nodes = .ok tree) :
    tree.Checked := by
  obtain ⟨⟨created, hcreate⟩, htable, rfl⟩ := restore_eq_ok.mp h
  have hpaths : rowPaths (nodes.map relink) = rowPaths nodes := by
    unfold rowPaths
    rw [List.map_map]
    rfl
  obtain ⟨front, hfront, hkey, haxes⟩ := htable.rooted
  refine
    { root_valid := (create_eq_ok hcreate).1
      rooted := ⟨relink front, ?_, hkey, haxes⟩
      rows := ?_
      links := ?_
      keys := hpaths ▸ htable.keys
      indexed := congrArg List.zipIdx hpaths.symm
      branches := ?_ }
  · rw [List.getElem?_map, hfront, Option.map_some]
  all_goals
    intro row hrow
    obtain ⟨node, hnode, rfl⟩ := List.mem_map.mp hrow
  · obtain ⟨hvalid, hbox, hdim, -⟩ := htable.rows node hnode
    exact ⟨hvalid, hbox, hdim⟩
  · exact ⟨rfl, rfl⟩
  · intro hbranch
    obtain ⟨hleft, hright⟩ := htable.branches node hnode hbranch
    obtain ⟨left, hlmem, hlkey⟩ := List.mem_map.mp hleft
    obtain ⟨right, hrmem, hrkey⟩ := List.mem_map.mp hright
    exact ⟨(htable.rows node hnode).2.2.2 hbranch,
      ⟨relink left, List.mem_map_of_mem hlmem, LectNodeKey.ext hlkey⟩,
      relink right, List.mem_map_of_mem hrmem, LectNodeKey.ext hrkey⟩

/-- With the missing check a restored table is well formed. -/
theorem restore_wellFormed (h : restore root policy nodes = .ok tree)
    (hrows : RowsHalveParents nodes) : tree.WellFormed := by
  refine { toChecked := restore_checked h, parents := ?_ }
  obtain ⟨-, -, rfl⟩ := restore_eq_ok.mp h
  intro row hrow
  obtain ⟨node, hnode, rfl⟩ := List.mem_map.mp hrow
  rcases hrows node hnode with hroot | ⟨parent, hparent, hbranch, hchild⟩
  · exact .inl hroot
  · exact .inr ⟨relink parent, List.mem_map_of_mem hparent, hbranch, hchild⟩

/-- In a partition every row but the root halves the branch above it. -/
theorem Partitions.rowsHalveParents (h : restore root policy nodes = .ok tree)
    (hpartition : tree.Partitions) : RowsHalveParents nodes := by
  have hchecked := restore_checked h
  obtain ⟨-, -, rfl⟩ := restore_eq_ok.mp h
  intro node hnode
  have hrow : relink node ∈ nodes.map relink := List.mem_map_of_mem hnode
  rcases List.eq_nil_or_concat node.key.path with hnil | ⟨u, c, hkey⟩
  · exact .inl (LectNodeKey.ext hnil)
  · right
    rw [List.concat_eq_append] at hkey
    obtain ⟨row, hprow, hpkey, hbranch⟩ :=
      hpartition.parents_branch _ hrow u c hkey
    obtain ⟨-, hll, hlr, ⟨left, hleft, hlkey, hlbox⟩, right, hright, hrkey,
      hrbox⟩ := hpartition.children row hprow hbranch
    obtain ⟨parent, hparent, rfl⟩ := List.mem_map.mp hprow
    have hmem : (relink node).key.path ∈ paths
        ⟨root, policy, nodes.map relink, (rowPaths nodes).zipIdx⟩ :=
      path_mem hrow
    have hpath : (relink node).key.path = u ++ [c] := hkey
    rw [hpath] at hmem
    refine ⟨parent, hparent, hbranch, ?_⟩
    have hpu : parent.key.path = u := hpkey
    rcases (hpartition.keys_closed u c hmem).2 with rfl | rfl
    · have hsame : left = relink node := by
        refine hchecked.node_eq hleft hrow (LectNodeKey.ext ?_)
        rw [hlkey, hll, hpath, ← hpu]
        rfl
      refine .inl ⟨LectNodeKey.ext ?_, ?_⟩
      · rw [hkey, ← hpu]
        rfl
      · rw [hsame] at hlbox
        exact hlbox
    · have hsame : right = relink node := by
        refine hchecked.node_eq hright hrow (LectNodeKey.ext ?_)
        rw [hrkey, hlr, hpath, ← hpu]
        rfl
      refine .inr ⟨LectNodeKey.ext ?_, ?_⟩
      · rw [hkey, ← hpu]
        rfl
      · rw [hsame] at hrbox
        exact hrbox

/-- The table of a tree that was split once. -/
def sampleRows : List (LectNode ℚ) := (sampleTree.run [⟨[]⟩]).nodes

/-- A restored tree is a partition, and stays one under `split`, exactly
where every row but the root halves a branch row of the table. -/
theorem restore_partitions_iff [ToleratedScalar α]
    (h : restore root policy nodes = .ok tree) :
    (tree.Partitions ∧ ∀ key, (tree.split key).2.Partitions)
      ↔ RowsHalveParents nodes := by
  constructor
  · rintro ⟨hpartition, -⟩
    exact hpartition.rowsHalveParents h
  · intro hrows
    have hwell := restore_wellFormed h hrows
    exact ⟨hwell.partitions, fun key => (hwell.split key).partitions⟩

theorem restore_partitions_iff_sample :
    ((sampleTree.run [⟨[]⟩]).Partitions ∧
        ∀ key, ((sampleTree.run [⟨[]⟩]).split key).2.Partitions)
      ↔ RowsHalveParents sampleRows :=
  @restore_partitions_iff ℚ _ sampleRoot samplePolicy sampleRows
    (sampleTree.run [⟨[]⟩]) _ (by decide +kernel)

example : RowsHalveParents sampleRows := by decide +kernel

-- === a table with a gap

/-- The unit interval, said to be halved into its first and its last
tenth. -/
def gapRoot : CspaceAabb Float := ⟨[⟨0.0, 1.0⟩]⟩

def gapRows : List (LectNode Float) :=
  [branchRow (LectNode.unsplit .root gapRoot) 0,
    LectNode.unsplit ⟨[48]⟩ ⟨[⟨0.0, 0.1⟩]⟩,
    LectNode.unsplit ⟨[49]⟩ ⟨[⟨0.9, 1.0⟩]⟩]

def gapPolicy : SplitPolicy Float := ⟨.normalizedLongestAxis, 0.001⟩

def gapTree : LectTree Float where
  root := gapRoot
  policy := gapPolicy
  nodes := gapRows
  indices := [([], 0), ([48], 1), ([49], 2)]

theorem restore_gap : restore gapRoot gapPolicy gapRows = .ok gapTree := by
  decide

/-- The table is admitted, and no leaf holds the middle. -/
theorem restore_admits_gap :
    ¬∀ (root : CspaceAabb Float) (policy : SplitPolicy Float)
        (nodes : List (LectNode Float)) (tree : LectTree Float),
      restore root policy nodes = .ok tree →
        tree.Partitions ∧ ∀ key, (tree.split key).2.Partitions := by
  intro hclaim
  obtain ⟨hpartition, -⟩ := hclaim _ _ _ _ restore_gap
  have hrows := hpartition.rowsHalveParents restore_gap
  revert hrows
  decide

end LectTree

end RbfSafe
