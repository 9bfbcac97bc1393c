/-
Reading and writing a node table.

Each reader is inverted once: a list of finite bounds, a row, the rows, a
table is read exactly where it was written. `decode_eq_ok` puts them
together in both directions: the decoder accepts exactly the payloads of
trees that `restore` gives back and whose keys are within its limit, up
to the byte of a leaf flag. A tree of `split` meets everything but the
limit, since nothing bounds the depth to which a leaf can be split.
-/
import RbfSafe.Lect.Codec
import RbfSafe.Lect.Proofs.Restore

namespace RbfSafe

namespace LectTree

/-- Bounds that are finite, as those of a valid box are. -/
def FiniteAxes (axes : List (Interval Float)) : Prop :=
  ∀ axis ∈ axes, Scalar.isFinite axis.lower = true ∧
    Scalar.isFinite axis.upper = true

theorem finiteAxes_of_valid {box : CspaceAabb Float}
    (h : box.valid = true) : FiniteAxes box.axes := by
  intro axis haxis
  obtain ⟨hlower, hupper, -⟩ := (CspaceAabb.valid_iff.mp h).2 axis haxis
  exact ⟨hlower, hupper⟩

theorem readInterval_eq_ok {axis : Interval Float}
    (hlower : Scalar.isFinite axis.lower = true)
    (hupper : Scalar.isFinite axis.upper = true) {data rest : Bytes} :
    readInterval data = .ok (axis, rest)
      ↔ data = writeF64 axis.lower ++ writeF64 axis.upper ++ rest := by
  unfold readInterval
  simp only [reader_bind_eq_ok, reader_pure_eq_ok]
  constructor
  · rintro ⟨lower, tail, hl, upper, tail', hu, rfl, rfl⟩
    rw [readF64_eq_ok hlower] at hl
    rw [readF64_eq_ok hupper] at hu
    rw [hl, hu, List.append_assoc]
  · rintro rfl
    refine ⟨axis.lower, writeF64 axis.upper ++ rest, ?_, axis.upper, rest,
      ?_, rfl, rfl⟩
    · rw [readF64_eq_ok hlower, List.append_assoc]
    · rw [readF64_eq_ok hupper]

theorem readAxes_eq_ok : ∀ {axes : List (Interval Float)},
    FiniteAxes axes → ∀ {dimension : Nat} {data rest : Bytes},
      readAxes dimension data = .ok (axes, rest)
        ↔ axes.length = dimension ∧ data = writeAxes axes ++ rest := by
  intro axes
  induction axes with
  | nil =>
      intro _ dimension data rest
      cases dimension with
      | zero => simp [readAxes, reader_pure_eq_ok, writeAxes]
      | succ dimension =>
          simp only [readAxes, reader_bind_eq_ok, reader_pure_eq_ok]
          constructor
          · rintro ⟨first, tail, -, others, tail', -, habsurd, -⟩
            cases habsurd
          · rintro ⟨habsurd, -⟩
            cases habsurd
  | cons axis axes ih =>
      intro hfinite dimension data rest
      obtain ⟨hlower, hupper⟩ := hfinite axis List.mem_cons_self
      have hrest : FiniteAxes axes := fun other hmem =>
        hfinite other (List.mem_cons_of_mem _ hmem)
      cases dimension with
      | zero => simp [readAxes, reader_pure_eq_ok]
      | succ dimension =>
          simp only [readAxes, reader_bind_eq_ok, reader_pure_eq_ok,
            List.cons.injEq]
          constructor
          · rintro ⟨first, tail, hfirst, others, tail', hothers,
              ⟨rfl, rfl⟩, rfl⟩
            rw [readInterval_eq_ok hlower hupper] at hfirst
            rw [ih hrest] at hothers
            refine ⟨by rw [List.length_cons, hothers.1], ?_⟩
            rw [hfirst, hothers.2]
            simp [writeAxes]
          · rintro ⟨hlen, rfl⟩
            refine ⟨axis, writeAxes axes ++ rest, ?_, axes, rest, ?_,
              ⟨rfl, rfl⟩, rfl⟩
            · rw [readInterval_eq_ok hlower hupper]
              simp [writeAxes]
            · rw [ih hrest]
              exact ⟨by simpa using hlen, rfl⟩

/-- A row as the reader makes it: its children named from its key, its
path and its axis within their fields. -/
structure RowRead (dimension : Nat) (flag : UInt8) (node : LectNode Float) :
    Prop where
  leaf : node.leaf = (flag != 0)
  path : node.key.path.length ≤ kMaximumPathBytes
  axis : node.splitDimension < 2 ^ 32
  box : node.box.dimension = dimension
  left : node.left = node.key.leftChild
  right : node.right = node.key.rightChild

theorem readRow_eq_ok {node : LectNode Float}
    (hfinite : FiniteAxes node.box.axes) {dimension : Nat}
    {data rest : Bytes} :
    readRow dimension data = .ok (node, rest)
      ↔ ∃ flag, RowRead dimension flag node ∧
        data = writeRow (flag, node) ++ rest := by
  have hmax : kMaximumPathBytes < 2 ^ 32 := by decide
  unfold readRow
  simp only [reader_bind_eq_ok, reader_pure_eq_ok,
    readString_eq_ok hmax, readU8_eq_ok, readU32_eq_ok]
  constructor
  · rintro ⟨path, _, ⟨hpath, rfl⟩, flag, _, rfl, axis, _, rfl, axes, _,
      haxes, rfl, rfl⟩
    rw [readAxes_eq_ok hfinite] at haxes
    obtain ⟨hlen, rfl⟩ := haxes
    refine ⟨flag, ⟨rfl, hpath, axis.toNat_lt, hlen, rfl, rfl⟩, ?_⟩
    unfold writeRow
    dsimp only
    rw [UInt32.ofNat_toNat]
    simp
  · rintro ⟨flag, hrow, rfl⟩
    obtain ⟨⟨path⟩, ⟨axes⟩, leaf, axis, left, right⟩ := node
    obtain ⟨hleaf, hpath, haxis, hbox, hleft, hright⟩ := hrow
    dsimp only at hleaf hpath haxis hbox hleft hright hfinite
    subst hleaf hleft hright
    refine ⟨path, writeU8 flag ++ (writeU32 (UInt32.ofNat axis)
        ++ (writeAxes axes ++ rest)), ⟨hpath, ?_⟩, flag, _, rfl,
      UInt32.ofNat axis, _, rfl, axes, rest, ?_, ?_, rfl⟩
    · unfold writeRow
      simp
    · rw [readAxes_eq_ok hfinite]
      exact ⟨hbox, rfl⟩
    · have hcast : (UInt32.ofNat axis).toNat = axis :=
        UInt32.toNat_ofNat_of_lt' (by simpa [UInt32.size] using haxis)
      rw [hcast]
      rfl

theorem readRows_eq_ok {dimension : Nat} :
    ∀ {nodes : List (LectNode Float)},
      (∀ node ∈ nodes, FiniteAxes node.box.axes) →
      ∀ {count : Nat} {data rest : Bytes},
        readRows dimension count data = .ok (nodes, rest)
          ↔ nodes.length = count ∧ ∃ flags,
            List.Forall₂ (RowRead dimension) flags nodes ∧
              data = (flags.zip nodes).flatMap writeRow ++ rest := by
  intro nodes
  induction nodes with
  | nil =>
      intro _ count data rest
      cases count with
      | zero => simp [readRows, reader_pure_eq_ok]
      | succ count =>
          simp only [readRows, reader_bind_eq_ok, reader_pure_eq_ok]
          constructor
          · rintro ⟨first, tail, -, others, tail', -, habsurd, -⟩
            cases habsurd
          · rintro ⟨habsurd, -⟩
            cases habsurd
  | cons node nodes ih =>
      intro hfinite count data rest
      have hnode := hfinite node List.mem_cons_self
      have hrest : ∀ other ∈ nodes, FiniteAxes other.box.axes :=
        fun other hmem => hfinite other (List.mem_cons_of_mem _ hmem)
      cases count with
      | zero => simp [readRows, reader_pure_eq_ok]
      | succ count =>
          simp only [readRows, reader_bind_eq_ok, reader_pure_eq_ok,
            List.cons.injEq]
          constructor
          · rintro ⟨first, tail, hfirst, others, tail', hothers,
              ⟨rfl, rfl⟩, rfl⟩
            rw [readRow_eq_ok hnode] at hfirst
            rw [ih hrest] at hothers
            obtain ⟨flag, hrow, rfl⟩ := hfirst
            obtain ⟨hlen, flags, hrows, rfl⟩ := hothers
            refine ⟨by rw [List.length_cons, hlen], flag :: flags,
              .cons hrow hrows, ?_⟩
            simp
          · rintro ⟨hlen, flags, hrows, rfl⟩
            cases hrows with
            | @cons flag _ flags _ hrow hrows =>
                refine ⟨node, (flags.zip nodes).flatMap writeRow ++ rest,
                  ?_, nodes, rest, ?_, ⟨rfl, rfl⟩, rfl⟩
                · rw [readRow_eq_ok hnode]
                  exact ⟨flag, hrow, by simp⟩
                · rw [ih hrest]
                  exact ⟨by simpa using hlen, flags, hrows, rfl⟩

/-- The table is read exactly where it was written. -/
theorem readTable_eq_ok {table : LectTable} {indices : List (Bytes × Nat)}
    (hroot : FiniteAxes table.root.axes)
    (hwidth : Scalar.isFinite table.policy.minimumNormalizedWidth = true)
    (hnodes : ∀ node ∈ table.nodes, FiniteAxes node.box.axes)
    {data rest : Bytes} :
    readTable data = .ok (table, rest)
      ↔ 0 < table.root.dimension ∧
        table.root.dimension ≤ kMaximumDimension ∧
        0 < table.nodes.length ∧
        table.nodes.length ≤ kMaximumStoredNodes ∧
        ∃ flags, List.Forall₂ (RowRead table.root.dimension) flags
            table.nodes ∧
          data = encodeWith flags
            ⟨table.root, table.policy, table.nodes, indices⟩ ++ rest := by
  have hdim : kMaximumDimension < 2 ^ 32 := by decide
  have hcount : kMaximumStoredNodes < 2 ^ 64 := by decide
  unfold readTable
  simp only [reader_bind_eq_ok, reader_pure_eq_ok, reader_check_eq_ok,
    readFixedText_eq_ok, readU8_eq_ok, readU32_eq_ok, readU64_eq_ok]
  constructor
  · rintro ⟨magic, _, ⟨-, rfl⟩, hmagic, schema, _, rfl, hschema, dimension, _,
      rfl, hdimension, count, _, rfl, hstored, strategy, _, rfl, width, _,
      hreadWidth, axes, _, hreadAxes, nodes, _, hreadNodes, rfl, rfl⟩
    push Not at hmagic hschema hdimension hstored
    subst hmagic hschema
    rw [readF64_eq_ok hwidth] at hreadWidth
    rw [readAxes_eq_ok hroot] at hreadAxes
    rw [readRows_eq_ok hnodes] at hreadNodes
    obtain ⟨hlen, rfl⟩ := hreadAxes
    obtain ⟨hnlen, flags, hflags, rfl⟩ := hreadNodes
    subst hreadWidth
    have hd : (⟨axes⟩ : CspaceAabb Float).dimension = dimension.toNat := hlen
    dsimp only at hnlen ⊢
    rw [hd, hnlen]
    refine ⟨Nat.pos_of_ne_zero hdimension.1, hdimension.2,
      Nat.pos_of_ne_zero hstored.1, hstored.2, flags, hflags, ?_⟩
    unfold encodeWith writeHeader
    dsimp only
    rw [hd, hnlen, UInt32.ofNat_toNat, UInt64.ofNat_toNat]
    simp only [List.append_assoc]
  · rintro ⟨hdpos, hdmax, hnpos, hnmax, flags, hflags, rfl⟩
    have hdcast : (UInt32.ofNat table.root.dimension).toNat
        = table.root.dimension :=
      UInt32.toNat_ofNat_of_lt' (by simpa [UInt32.size] using by omega)
    have hncast : (UInt64.ofNat table.nodes.length).toNat
        = table.nodes.length :=
      UInt64.toNat_ofNat_of_lt' (by simpa [UInt64.size] using by omega)
    unfold encodeWith writeHeader
    simp only [List.append_assoc]
    refine ⟨kLectMagic, _, ⟨rfl, rfl⟩, not_not.mpr rfl, kLectSchemaVersion,
      _, rfl, not_not.mpr rfl, UInt32.ofNat table.root.dimension, _, rfl, ?_,
      UInt64.ofNat table.nodes.length, _, rfl, ?_,
      table.policy.strategy.value, _, rfl,
      table.policy.minimumNormalizedWidth, _,
      (readF64_eq_ok hwidth).mpr rfl, table.root.axes, _,
      (readAxes_eq_ok hroot).mpr ⟨?_, rfl⟩, table.nodes, rest,
      (readRows_eq_ok hnodes).mpr ⟨?_, flags, ?_, rfl⟩, rfl, rfl⟩
    · rw [hdcast]
      omega
    · rw [hncast]
      omega
    · exact hdcast.symm
    · exact hncast.symm
    · rw [hdcast]
      exact hflags

/-- A policy that `create` takes has a finite width. -/
theorem finite_of_validatePolicy {policy : SplitPolicy Float}
    (h : validatePolicy policy = .ok ()) :
    Scalar.isFinite policy.minimumNormalizedWidth = true := by
  unfold validatePolicy at h
  rw [ite_failure_eq_ok, ite_failure_eq_ok] at h
  simp only [Bool.or_eq_true, Bool.not_eq_true', not_or,
    Bool.not_eq_false] at h
  exact h.2.1.1.1

/-- Rows that were read have their children named already. -/
theorem map_relink {dimension : Nat} {flags : List UInt8}
    {nodes : List (LectNode Float)}
    (h : List.Forall₂ (RowRead dimension) flags nodes) :
    nodes.map relink = nodes := by
  induction h with
  | nil => rfl
  | @cons flag node flags nodes hrow hrows ih =>
      have hsame : relink node = node := by
        unfold relink
        rw [← hrow.left, ← hrow.right]
      rw [List.map_cons, hsame, ih]

/-- What the decoder accepts: the payload of a tree that `restore` gives
back, its keys and axes within their fields. -/
theorem decode_eq_ok {data : Bytes} {tree : LectTree Float} :
    decodeLectTree data = .ok tree
      ↔ restore tree.root tree.policy tree.nodes = .ok tree ∧
        tree.nodes.length ≤ kMaximumStoredNodes ∧
        ∃ flags, List.Forall₂ (RowRead tree.root.dimension) flags
            tree.nodes ∧
          data = encodeWith flags tree := by
  unfold decodeLectTree
  rw [bind_eq_ok]
  constructor
  · rintro ⟨⟨table, rest⟩, hread, hrestore⟩
    dsimp only at hrestore
    rw [ite_failure_eq_ok] at hrestore
    obtain ⟨hrest, hrestore⟩ := hrestore
    rw [not_not] at hrest
    subst hrest
    obtain ⟨⟨created, hcreate⟩, htable, htree⟩ := restore_eq_ok.mp hrestore
    obtain ⟨hvalid, -, hpolicy, -, -⟩ := create_eq_ok hcreate
    have hnodes : ∀ node ∈ table.nodes, FiniteAxes node.box.axes :=
      fun node hnode => finiteAxes_of_valid (htable.rows node hnode).2.1
    rw [@readTable_eq_ok table tree.indices (finiteAxes_of_valid hvalid)
      (finite_of_validatePolicy hpolicy) hnodes] at hread
    obtain ⟨-, -, -, hmax, flags, hflags, hdata⟩ := hread
    rw [map_relink hflags] at htree
    subst htree
    refine ⟨hrestore, hmax, flags, hflags, ?_⟩
    rw [hdata, List.append_nil]
  · rintro ⟨hrestore, hmax, flags, hflags, rfl⟩
    obtain ⟨⟨created, hcreate⟩, htable, htree⟩ := restore_eq_ok.mp hrestore
    obtain ⟨hvalid, hdmax, hpolicy, -, -⟩ := create_eq_ok hcreate
    have hnodes : ∀ node ∈ tree.nodes, FiniteAxes node.box.axes :=
      fun node hnode => finiteAxes_of_valid (htable.rows node hnode).2.1
    have hdpos : 0 < tree.root.dimension :=
      List.length_pos_iff.mpr (CspaceAabb.valid_iff.mp hvalid).1
    have hnpos : 0 < tree.nodes.length := by
      obtain ⟨front, hfront, -⟩ := htable.rooted
      exact (List.getElem?_eq_some_iff.mp hfront).1
    refine ⟨(⟨tree.root, tree.policy, tree.nodes⟩, []), ?_, ?_⟩
    · rw [@readTable_eq_ok ⟨tree.root, tree.policy, tree.nodes⟩ tree.indices
        (finiteAxes_of_valid hvalid) (finite_of_validatePolicy hpolicy)
        hnodes]
      exact ⟨hdpos, hdmax, hnpos, hmax, flags, hflags,
        (List.append_nil _).symm⟩
    · dsimp only
      rw [ite_failure_eq_ok]
      exact ⟨fun h => h rfl, hrestore⟩

-- === reachable

/-- The axis of every row is one of the box. -/
def AxesBounded {α : Type} (tree : LectTree α) : Prop :=
  ∀ node ∈ tree.nodes, node.splitDimension < tree.root.dimension

section Reachable

variable {α : Type} [Scalar α] [LawfulScalar α] {tree : LectTree α}

omit [LawfulScalar α] in
theorem AxesBounded.split (h : tree.WellFormed) (hbound : AxesBounded tree)
    (key : LectNodeKey) : AxesBounded (tree.split key).2 := by
  rcases h.split_cases key with hsame | ⟨index, node, axis, hnode, hkey,
    hleaf, haxis, hlower, hupper, hsplit⟩
  · rw [hsame]
    exact hbound
  · rw [hsplit, ← hkey]
    intro row hrow
    have hroot : (tree.splitNodes node.key index node
        (tree.chooseSplitDimension node.box) axis.center).root
          = tree.root := rfl
    have hpos : 0 < tree.root.dimension :=
      List.length_pos_iff.mpr (CspaceAabb.valid_iff.mp h.root_valid).1
    rcases (h.mem_splitNodes hnode haxis row).mp hrow with
      rfl | rfl | rfl | ⟨hold, -⟩
    · exact hpos
    · exact hpos
    · rw [hroot, ← (h.rows node (List.mem_of_getElem? hnode)).2.2]
      exact (List.getElem?_eq_some_iff.mp haxis).1
    · exact hbound row hold

omit [LawfulScalar α] in
/-- A call changes neither the root domain nor the policy. -/
theorem split_frame (h : tree.Checked) (key : LectNodeKey) :
    (tree.split key).2.root = tree.root ∧
      (tree.split key).2.policy = tree.policy := by
  rcases h.split_cases key with hsame | ⟨index, node, axis, -, -, -, -, -, -,
    hsplit⟩
  · rw [hsame]
    exact ⟨rfl, rfl⟩
  · rw [hsplit]
    exact ⟨rfl, rfl⟩

/-- What a run keeps besides the partition. -/
theorem run_frame : ∀ (keys : List LectNodeKey) {tree : LectTree α},
    tree.WellFormed → AxesBounded tree →
      AxesBounded (tree.run keys) ∧ (tree.run keys).root = tree.root ∧
        (tree.run keys).policy = tree.policy
  | [], _, _, hbound => ⟨hbound, rfl, rfl⟩
  | key :: keys, _, h, hbound => by
      obtain ⟨hb, hroot, hpolicy⟩ :=
        run_frame keys (h.split key) (hbound.split h key)
      obtain ⟨hr, hp⟩ := split_frame h.toChecked key
      exact ⟨hb, hroot.trans hr, hpolicy.trans hp⟩

/-- `restore` gives back a tree of `create` and `split`. -/
theorem restore_run {root : CspaceAabb α} {policy : SplitPolicy α}
    (hcreate : create root policy = .ok tree) (keys : List LectNodeKey) :
    restore (tree.run keys).root (tree.run keys).policy
      (tree.run keys).nodes = .ok (tree.run keys) := by
  have hwell := create_wellFormed hcreate
  have hbound : AxesBounded tree := by
    obtain ⟨hvalid, -, -, -, rfl⟩ := create_eq_ok hcreate
    intro node hnode
    rw [List.mem_singleton.mp hnode]
    exact List.length_pos_iff.mpr (CspaceAabb.valid_iff.mp hvalid).1
  have htree : tree.root = root ∧ tree.policy = policy := by
    obtain ⟨-, -, -, -, rfl⟩ := create_eq_ok hcreate
    exact ⟨rfl, rfl⟩
  obtain ⟨hb, hroot, hpolicy⟩ := run_frame keys hwell hbound
  have h := WellFormed.run keys hwell
  rw [restore_eq_ok]
  have hlinked : (tree.run keys).nodes.map relink = (tree.run keys).nodes := by
    refine List.map_congr_left (fun node hnode => ?_) |>.trans (List.map_id _)
    obtain ⟨hleft, hright⟩ := h.links node hnode
    unfold relink
    rw [← hleft, ← hright]
    rfl
  refine ⟨?_, ⟨h.rooted, ?_, h.keys, ?_⟩, ?_⟩
  · rw [hroot, hpolicy, htree.1, htree.2]
    exact ⟨tree, hcreate⟩
  · intro node hnode
    obtain ⟨hvalid, hbox, hdim⟩ := h.rows node hnode
    exact ⟨hvalid, hbox, hdim, fun _ => hb node hnode⟩
  · intro node hnode hbranch
    obtain ⟨-, ⟨left, hleft, hlkey⟩, right, hright, hrkey⟩ :=
      h.branches node hnode hbranch
    exact ⟨hlkey ▸ path_mem hleft, hrkey ▸ path_mem hright⟩
  · rw [hlinked]
    have hindexed := h.indexed
    generalize tree.run keys = t at hindexed ⊢
    cases t
    exact congrArg (LectTree.mk _ _ _) hindexed

end Reachable

end LectTree

end RbfSafe
