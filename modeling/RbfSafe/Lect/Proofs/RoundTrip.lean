/-
When a saved tree can be read again.

A tree of `create` and `split` within the stored node count is read back
exactly where no key is longer than the reader's limit. Such keys exist:
with the least width at zero, a box of 64 unit axes can be split along
its lower corner 4097 times, each axis in turn, its bounds still doubles
of full precision.
-/
import RbfSafe.Lect.Proofs.Codec

namespace RbfSafe

namespace LectTree

-- === round trip

/-- The decoder gives back the root, the policy and the rows. -/
def RoundTrips (tree : LectTree Float) : Prop :=
  ∃ decoded, decodeLectTree (encodeLectTree tree) = .ok decoded ∧
    decoded.root = tree.root ∧ decoded.policy = tree.policy ∧
      decoded.nodes = tree.nodes

/-- The payload is one of the tree, its leaf bytes standing for the leaf
flags. -/
def PayloadOf (data : Bytes) (tree : LectTree Float) : Prop :=
  ∃ flags, List.Forall₂ (fun flag (node : LectNode Float) =>
      node.leaf = (flag != 0)) flags tree.nodes ∧
    data = encodeWith flags tree

theorem payload_of_decode {data : Bytes} {tree : LectTree Float}
    (h : decodeLectTree data = .ok tree) : PayloadOf data tree := by
  obtain ⟨-, -, flags, hflags, hdata⟩ := decode_eq_ok.mp h
  exact ⟨flags, hflags.imp fun _ _ hrow => hrow.leaf, hdata⟩

/-- A key that was read is within the limit. -/
theorem path_of_read {dimension : Nat} {flags : List UInt8}
    {nodes : List (LectNode Float)}
    (h : List.Forall₂ (RowRead dimension) flags nodes)
    {node : LectNode Float} (hnode : node ∈ nodes) :
    node.key.path.length ≤ kMaximumPathBytes := by
  induction h with
  | nil => cases hnode
  | cons hrow _ ih =>
      rcases List.mem_cons.mp hnode with rfl | hmem
      · exact hrow.path
      · exact ih hmem

/-- A tree of `split` is read back exactly where its keys fit, and what is
read can be written again. -/
theorem codec_round_trip_iff {root : CspaceAabb Float}
    {policy : SplitPolicy Float} {tree : LectTree Float}
    (hcreate : create root policy = .ok tree) (keys : List LectNodeKey)
    (hcount : (tree.run keys).nodes.length ≤ kMaximumStoredNodes) :
    (RoundTrips (tree.run keys) ↔ ∀ node ∈ (tree.run keys).nodes,
        node.key.path.length ≤ kMaximumPathBytes) ∧
      ∀ (data : Bytes) (decoded : LectTree Float),
        decodeLectTree data = .ok decoded → PayloadOf data decoded := by
  refine ⟨⟨?_, ?_⟩, fun _ _ => payload_of_decode⟩
  · rintro ⟨decoded, hdecode, -, -, hnodes⟩ node hnode
    obtain ⟨-, -, flags, hflags, -⟩ := decode_eq_ok.mp hdecode
    rw [hnodes] at hflags
    exact path_of_read hflags hnode
  · intro hkeys
    refine ⟨tree.run keys, ?_, rfl, rfl, rfl⟩
    rw [decode_eq_ok]
    have hwell := WellFormed.run keys (create_wellFormed hcreate)
    have hrestore := restore_run hcreate keys
    refine ⟨hrestore, hcount, (tree.run keys).nodes.map leafByte, ?_, rfl⟩
    obtain ⟨⟨created, hcreated⟩, htable, -⟩ := restore_eq_ok.mp hrestore
    have hbound : AxesBounded (tree.run keys) := by
      obtain ⟨hvalid, -, -, -, rfl⟩ := create_eq_ok hcreate
      refine (run_frame keys (create_wellFormed hcreate) ?_).1
      intro node hnode
      rw [List.mem_singleton.mp hnode]
      exact List.length_pos_iff.mpr (CspaceAabb.valid_iff.mp hvalid).1
    rw [List.forall₂_map_left_iff, List.forall₂_same]
    intro node hnode
    obtain ⟨hleft, hright⟩ := hwell.links node hnode
    have hdmax := (create_eq_ok hcreated).2.1
    have hmax : kMaximumDimension < 2 ^ 32 := by decide
    refine
      { leaf := ?_
        path := hkeys node hnode
        axis := by
          have := hbound node hnode
          omega
        box := (hwell.rows node hnode).2.2
        left := hleft
        right := hright }
    unfold leafByte
    cases node.leaf <;> rfl

/-- The unit interval, not split. -/
def unitTree : LectTree Float where
  root := gapRoot
  policy := gapPolicy
  nodes := [LectNode.unsplit .root gapRoot]
  indices := [([], 0)]

theorem codec_round_trip_iff_sample :
    (RoundTrips (unitTree.run [⟨[]⟩]) ↔
        ∀ node ∈ (unitTree.run [⟨[]⟩]).nodes,
          node.key.path.length ≤ kMaximumPathBytes) ∧
      ∀ (data : Bytes) (decoded : LectTree Float),
        decodeLectTree data = .ok decoded → PayloadOf data decoded :=
  @codec_round_trip_iff gapRoot gapPolicy unitTree (by decide +kernel)
    [⟨[]⟩] (by decide +kernel)

-- === a deep corner

/-- A leaf whose chosen axis is wide enough and has a center inside is
halved. -/
theorem split_succeeds {α : Type} [Scalar α] {tree : LectTree α} (h : tree.Checked)
    {node : LectNode α} (hnode : node ∈ tree.nodes) (hleaf : node.leaf = true)
    {d : Nat} (hd : tree.chooseSplitDimension node.box = d)
    {axis rootAxis : Interval α} (haxis : node.box.axes[d]? = some axis)
    (hroot : tree.root.axes[d]? = some rootAxis)
    (hwide : Scalar.le (Scalar.div axis.width rootAxis.width)
      tree.policy.minimumNormalizedWidth = false)
    (hlower : Scalar.lt axis.lower axis.center = true)
    (hupper : Scalar.lt axis.center axis.upper = true) :
    ∃ index, tree.nodes[index]? = some node ∧
      tree.split node.key = (.ok (node.key.leftChild, node.key.rightChild),
        tree.splitNodes node.key index node d axis.center) := by
  obtain ⟨index, hindex, hrow⟩ := h.indexOf_node hnode
  refine ⟨index, hrow, ?_⟩
  subst hd
  unfold split
  rw [hindex]
  dsimp only
  rw [hrow]
  dsimp only
  rw [if_neg (by simp [hleaf]), haxis, hroot]
  dsimp only
  rw [if_neg (by simp [hwide]), hlower, hupper]
  rfl

/-- Axes that do not exceed the width so far are passed over. -/
theorem chooseLoop_skip {α : Type} [Scalar α] {selected : Nat} {width : α}
    {rest : List (Interval α × Interval α)} :
    ∀ {pairs : List (Interval α × Interval α)} {dimension : Nat},
      (∀ p ∈ pairs, Scalar.lt width
        (Scalar.div p.1.width p.2.width) = false) →
      chooseLoop (pairs ++ rest) dimension selected width
        = chooseLoop rest (dimension + pairs.length) selected width
  | [], dimension, _ => rfl
  | (axis, rootAxis) :: pairs, dimension, h => by
      have hfirst := h _ List.mem_cons_self
      rw [List.cons_append, chooseLoop]
      dsimp only at hfirst ⊢
      rw [if_neg (by simp [hfirst]),
        chooseLoop_skip fun p hp => h p (List.mem_cons_of_mem _ hp),
        List.length_cons]
      congr 1
      omega

/-- The upper bound of the unit interval after `n` cuts at its center. -/
def halved : Nat → Float
  | 0 => 1.0
  | n + 1 => Interval.center ⟨0.0, halved n⟩

def cut (n : Nat) : Interval Float := ⟨0.0, halved n⟩

/-- Down to 66 cuts the bounds are exact. -/
theorem halved_facts : ∀ n < 66,
    Scalar.le (Scalar.div (cut n).width (cut 0).width) (0.0 : Float) = false ∧
      Scalar.lt (cut n).lower (cut n).center = true ∧
      Scalar.lt (cut n).center (cut n).upper = true ∧
      Scalar.lt (Scalar.neg Scalar.one)
        (Scalar.div (cut n).width (cut 0).width) = true ∧
      Scalar.lt (Scalar.div (cut n).width (cut 0).width)
        (Scalar.div (cut n).width (cut 0).width) = false ∧
      Scalar.lt (Scalar.div (cut (n + 1)).width (cut 0).width)
        (Scalar.div (cut n).width (cut 0).width) = true := by
  decide +kernel

/-- Sixty-four axes, the first `m` of them cut once more than the others. -/
def deepAxes (n m : Nat) : List (Interval Float) :=
  List.replicate m (cut (n + 1)) ++ List.replicate (64 - m) (cut n)

def deepRoot : CspaceAabb Float := ⟨deepAxes 0 0⟩

def deepPolicy : SplitPolicy Float := ⟨.normalizedLongestAxis, 0.0⟩

def deepTree : LectTree Float where
  root := deepRoot
  policy := deepPolicy
  nodes := [LectNode.unsplit .root deepRoot]
  indices := [([], 0)]

/-- The lower corner at every depth below the given one. -/
def cornerKeys (depth : Nat) : List LectNodeKey :=
  (List.range depth).map fun k => ⟨List.replicate k 48⟩

theorem create_deep : create deepRoot deepPolicy = .ok deepTree := by
  decide +kernel

theorem zip_deep {n m : Nat} (hm : m < 64) :
    (deepAxes n m).zip deepRoot.axes
      = List.replicate m (cut (n + 1), cut 0)
        ++ (cut n, cut 0) :: List.replicate (63 - m) (cut n, cut 0) := by
  have hroot : deepRoot.axes = List.replicate m (cut 0)
      ++ List.replicate (64 - m) (cut 0) := by
    rw [List.replicate_append_replicate, Nat.add_sub_cancel' hm.le]
    rfl
  rw [hroot, deepAxes, List.zip_append (by simp), List.zip_replicate',
    List.zip_replicate', ← List.replicate_succ]
  congr 2
  omega

/-- The axis in turn is the widest. -/
theorem choose_deep {tree : LectTree Float} (hroot : tree.root = deepRoot)
    {n m : Nat} (hn : n < 65) (hm : m < 64) :
    tree.chooseSplitDimension ⟨deepAxes n m⟩ = m := by
  obtain ⟨-, -, -, hstart, hsame, hless⟩ := halved_facts n (by omega)
  obtain ⟨-, -, -, hstart', hsame', -⟩ := halved_facts (n + 1) (by omega)
  have htail : ∀ d, chooseLoop (List.replicate (63 - m) (cut n, cut 0)) d m
      (Scalar.div (cut n).width (cut 0).width) = m := by
    intro d
    have hskip := @chooseLoop_skip Float _ m
      (Scalar.div (cut n).width (cut 0).width) []
      (List.replicate (63 - m) (cut n, cut 0)) d (by
        intro p hp
        rw [List.eq_of_mem_replicate hp]
        exact hsame)
    rw [List.append_nil] at hskip
    exact hskip
  unfold chooseSplitDimension
  rw [hroot, zip_deep hm]
  cases m with
  | zero =>
      rw [List.replicate_zero, List.nil_append, chooseLoop, if_pos hstart]
      exact htail _
  | succ m =>
      rw [List.replicate_succ, List.cons_append, chooseLoop,
        if_pos hstart', chooseLoop_skip, chooseLoop]
      · rw [if_pos hless, List.length_replicate,
          (by omega : 0 + 1 + m = m + 1)]
        exact htail _
      · intro p hp
        rw [List.eq_of_mem_replicate hp]
        exact hsame'

theorem axis_deep {n m : Nat} (hm : m < 64) :
    (deepAxes n m)[m]? = some (cut n) := by
  unfold deepAxes
  rw [List.getElem?_append_right (by simp), List.length_replicate,
    Nat.sub_self, List.getElem?_replicate, if_pos (by omega)]

/-- The lower half: one more axis is cut. -/
theorem lowerHalf_deep {n m : Nat} (hm : m < 64) :
    (CspaceAabb.mk (deepAxes n m)).lowerHalf m
      = ⟨List.replicate (m + 1) (cut (n + 1))
        ++ List.replicate (63 - m) (cut n)⟩ := by
  have hcons : deepAxes n m = List.replicate m (cut (n + 1))
      ++ cut n :: List.replicate (63 - m) (cut n) := by
    unfold deepAxes
    rw [← List.replicate_succ]
    congr 2
    omega
  have hcut : (⟨(cut n).lower, (cut n).center⟩ : Interval Float)
      = cut (n + 1) := rfl
  have hlt : m < (List.replicate m (cut (n + 1))
      ++ cut n :: List.replicate (63 - m) (cut n)).length := by
    rw [List.length_append, List.length_replicate, List.length_cons]
    omega
  unfold CspaceAabb.lowerHalf
  dsimp only
  rw [hcons, List.modify_eq_take_cons_drop hlt]
  simp only [List.take_append, List.drop_append, List.getElem_append_right,
    List.length_replicate, Nat.sub_self, List.take_replicate, Nat.min_self,
    List.getElem_cons_zero, hcut, Nat.le_refl]
  simp [List.replicate_succ']

/-- The tree after the corner has been split at every depth below `k`. -/
structure CornerAt (k : Nat) (tree : LectTree Float) : Prop where
  well : tree.WellFormed
  root : tree.root = deepRoot
  policy : tree.policy = deepPolicy
  size : tree.nodes.length = 2 * k + 1
  corner : ∃ n m node, k = 64 * n + m ∧ m < 64 ∧ node ∈ tree.nodes ∧
    node.key = ⟨List.replicate k 48⟩ ∧ node.leaf = true ∧
    node.box = ⟨deepAxes n m⟩

/-- One more cut of the corner. -/
theorem CornerAt.split {k : Nat} {tree : LectTree Float}
    (h : CornerAt k tree) (hk : k ≤ 4096) :
    CornerAt (k + 1) (tree.split ⟨List.replicate k 48⟩).2 := by
  obtain ⟨n, m, node, hkm, hm, hnode, hkey, hleaf, hbox⟩ := h.corner
  have hn : n < 65 := by omega
  obtain ⟨hwide, hlower, hupper, -⟩ := halved_facts n (by omega)
  have hd : tree.chooseSplitDimension node.box = m := by
    rw [hbox]
    exact choose_deep h.root hn hm
  have haxis : node.box.axes[m]? = some (cut n) := by
    rw [hbox]
    exact axis_deep hm
  have hrootAxis : tree.root.axes[m]? = some (cut 0) := by
    rw [h.root]
    change (List.replicate 0 _ ++ List.replicate 64 (cut 0))[m]? = _
    rw [List.replicate_zero, List.nil_append, List.getElem?_replicate,
      if_pos hm]
  obtain ⟨index, hindex, hsplit⟩ := split_succeeds h.well.toChecked hnode
    hleaf hd haxis hrootAxis (by rw [h.policy]; exact hwide) hlower hupper
  rw [← hkey, hsplit]
  have hmem := h.well.mem_splitNodes hindex haxis
  refine
    { well := h.well.splitNodes hindex hleaf haxis hlower hupper
      root := h.root
      policy := h.policy
      size := ?_
      corner := ?_ }
  · rw [splitNodes_nodes hindex haxis, List.length_append, List.length_set,
      h.size]
    rfl
  · have hhalf : node.box.lowerHalf m
        = ⟨List.replicate (m + 1) (cut (n + 1))
          ++ List.replicate (63 - m) (cut n)⟩ := by
      rw [hbox]
      exact lowerHalf_deep hm
    have hchild : node.key.leftChild = ⟨List.replicate (k + 1) 48⟩ := by
      rw [hkey, LectNodeKey.leftChild, List.replicate_succ']
    by_cases hlast : m = 63
    · refine ⟨n + 1, 0, _, by omega, by omega, (hmem _).mpr (.inl rfl),
        hchild, rfl, ?_⟩
      rw [LectNode.unsplit, hhalf, hlast]
      rfl
    · refine ⟨n, m + 1, _, by omega, by omega, (hmem _).mpr (.inl rfl),
        hchild, rfl, ?_⟩
      rw [LectNode.unsplit, hhalf, deepAxes,
        (by omega : 64 - (m + 1) = 63 - m)]

theorem cornerAt_run : ∀ k ≤ 4097,
    CornerAt k (deepTree.run (cornerKeys k)) := by
  intro k
  induction k with
  | zero =>
      intro _
      refine
        { well := create_wellFormed create_deep
          root := rfl
          policy := rfl
          size := rfl
          corner := ⟨0, 0, _, rfl, by omega, List.mem_singleton_self _, rfl,
            rfl, rfl⟩ }
  | succ k ih =>
      intro hk
      have hrun : deepTree.run (cornerKeys (k + 1))
          = ((deepTree.run (cornerKeys k)).split ⟨List.replicate k 48⟩).2 := by
        unfold run cornerKeys
        rw [List.range_succ, List.map_append, List.foldl_append]
        rfl
      rw [hrun]
      exact (ih (by omega)).split (by omega)

/-- The tree whose corner has 4097 letters is not read back. -/
theorem codec_rejects_deep_corner :
    ¬∀ (root : CspaceAabb Float) (policy : SplitPolicy Float)
        (tree : LectTree Float) (keys : List LectNodeKey),
      create root policy = .ok tree →
      (tree.run keys).nodes.length ≤ kMaximumStoredNodes →
        RoundTrips (tree.run keys) := by
  intro hclaim
  have h := cornerAt_run 4097 le_rfl
  have hcount : (deepTree.run (cornerKeys 4097)).nodes.length
      ≤ kMaximumStoredNodes := by
    rw [h.size]
    decide
  obtain ⟨decoded, hdecode, -, -, hnodes⟩ :=
    hclaim _ _ _ (cornerKeys 4097) create_deep hcount
  obtain ⟨-, -, flags, hflags, -⟩ := decode_eq_ok.mp hdecode
  obtain ⟨n, m, node, -, -, hnode, hkey, -, -⟩ := h.corner
  rw [← hnodes] at hnode
  have hpath := path_of_read hflags hnode
  rw [hkey] at hpath
  have hlen : (List.replicate 4097 (48 : UInt8)).length = 4097 :=
    List.length_replicate
  dsimp only at hpath
  rw [hlen] at hpath
  revert hpath
  decide

end LectTree

end RbfSafe
