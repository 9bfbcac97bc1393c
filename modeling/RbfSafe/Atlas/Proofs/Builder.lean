/-
Builds with one thread and with several agree.

The work items of a build are leaves of the tree, each once, and an
answer that travels with an item is the validator's on the box of its
leaf (`Queued`). A turn of the loop keeps this, and leaves the other
items and their rows as they are (`step_ok`). Without its caches the
queue of a build with several threads is the queue of the build with one
(`loop_agrees`): the eager answers are those the other build asks for
later, and where one of them is an error, the other build comes to the
item and fails too (`loop_validates`).

The queue also ends: each turn leaves less to do, where a node that may
still be added counts as something to do (`loop_total`).
-/
import RbfSafe.Atlas.Builder
import RbfSafe.Core.Host
import RbfSafe.Lect.Proofs.Nodes

namespace RbfSafe.Atlas

variable {α : Type} [DecodedScalar α]

-- === queue

/-- The work items are leaves, each once, and a cached answer is the
validator's. -/
structure Queued (validate : CspaceAabb α → Result (RegionValidation α))
    (state : BuildState α) : Prop where
  wellFormed : state.tree.WellFormed
  leaves : ∀ item ∈ state.work, ∃ leaf ∈ state.tree.nodes,
    leaf.key = item.key ∧ leaf.leaf = true ∧
      ∀ validation, item.cachedValidation = some validation →
        validate leaf.box = .ok validation
  distinct : (state.work.map (·.key)).Nodup

/-- A work item without its cache. -/
def WorkItem.forget (item : WorkItem α) : WorkItem α :=
  { item with cachedValidation := none }

/-- A state without the caches. -/
def BuildState.forget (state : BuildState α) : BuildState α :=
  { state with work := state.work.map WorkItem.forget }

theorem Queued.forget {validate : CspaceAabb α → Result (RegionValidation α)}
    {state : BuildState α} (h : Queued validate state) :
    Queued validate state.forget where
  wellFormed := h.wellFormed
  leaves := by
    intro item hitem
    obtain ⟨cached, hcached, rfl⟩ := List.mem_map.mp hitem
    obtain ⟨leaf, hmem, hkey, hleaf, -⟩ := h.leaves cached hcached
    refine ⟨leaf, hmem, hkey, hleaf, ?_⟩
    intro validation hnone
    cases hnone
  distinct := by
    show ((state.work.map WorkItem.forget).map (·.key)).Nodup
    rw [List.map_map]
    exact h.distinct

/-- A state as before, but for the item that was visited. -/
theorem Queued.tail
    {validate : CspaceAabb α → Result (RegionValidation α)}
    {state : BuildState α} {current : WorkItem α}
    {rest : List (WorkItem α)} (h : Queued validate state)
    (hwork : state.work = current :: rest) {next : BuildState α}
    (htree : next.tree = state.tree) (hnext : next.work = rest) :
    Queued validate next where
  wellFormed := htree ▸ h.wellFormed
  leaves := by
    intro item hitem
    rw [htree]
    apply h.leaves item
    rw [hwork]
    exact List.mem_cons_of_mem _ (hnext ▸ hitem)
  distinct := by
    have hdistinct := h.distinct
    rw [hwork, List.map_cons, List.nodup_cons] at hdistinct
    rw [hnext]
    exact hdistinct.2

/-- The halves of a leaf take its place in the queue. -/
theorem Queued.push
    {validate : CspaceAabb α → Result (RegionValidation α)}
    {state : BuildState α} {current : WorkItem α}
    {rest : List (WorkItem α)} (h : Queued validate state)
    (hwork : state.work = current :: rest) {leaf : LectNode α}
    (hmem : leaf ∈ state.tree.nodes) (hleaf : leaf.leaf = true)
    (hkey : leaf.key = current.key) {dimension : Nat}
    {halved : LectTree α} (hhalves : state.tree.Halves leaf dimension halved)
    {left right : WorkItem α} (hleft : left.key = leaf.key.leftChild)
    (hright : right.key = leaf.key.rightChild)
    (hleftCache : ∀ validation, left.cachedValidation = some validation →
      validate (leaf.box.lowerHalf dimension) = .ok validation)
    (hrightCache : ∀ validation, right.cachedValidation = some validation →
      validate (leaf.box.upperHalf dimension) = .ok validation)
    {next : BuildState α} (htree : next.tree = halved)
    (hnext : next.work = rest ++ [left, right]) :
    Queued validate next where
  wellFormed := htree ▸ hhalves.wellFormed
  leaves := by
    intro item hitem
    rw [hnext, List.mem_append, List.mem_cons, List.mem_singleton] at hitem
    rw [htree]
    rcases hitem with hold | rfl | rfl
    · obtain ⟨row, hrow, hrowKey, hrowLeaf, hcache⟩ := h.leaves item
        (hwork ▸ List.mem_cons_of_mem _ hold)
      refine ⟨row, hhalves.keeps hrow ?_, hrowKey, hrowLeaf, hcache⟩
      rintro rfl
      have hdistinct := h.distinct
      rw [hwork, List.map_cons, List.nodup_cons] at hdistinct
      exact hdistinct.1 (List.mem_map.mpr
        ⟨item, hold, hrowKey.symm.trans hkey⟩)
    · exact ⟨_, hhalves.left_mem, hleft.symm, rfl, hleftCache⟩
    · exact ⟨_, hhalves.right_mem, hright.symm, rfl, hrightCache⟩
  distinct := by
    have hdistinct := h.distinct
    rw [hwork, List.map_cons, List.nodup_cons] at hdistinct
    -- the keys of the halves are not in the table yet
    have hnew : ∀ item ∈ rest, ∀ c : UInt8,
        item.key.path ≠ leaf.key.path ++ [c] := by
      intro item hitem c hpath
      obtain ⟨row, hrow, hrowKey, -⟩ := h.leaves item
        (hwork ▸ List.mem_cons_of_mem _ hitem)
      apply h.wellFormed.child_new hmem hleaf c
      rw [← hpath, ← hrowKey]
      exact LectTree.path_mem hrow
    rw [hnext, List.map_append, List.nodup_append]
    refine ⟨hdistinct.2, ?_, ?_⟩
    · simp [hleft, hright, LectNodeKey.leftChild, LectNodeKey.rightChild]
    · intro key hold other hother heq
      obtain ⟨item, hitem, rfl⟩ := List.mem_map.mp hold
      rw [List.map_cons, List.map_cons, List.map_nil, List.mem_cons,
        List.mem_singleton, hleft, hright] at hother
      rcases hother with rfl | rfl
      · exact hnew item hitem 48 (congrArg LectNodeKey.path heq)
      · exact hnew item hitem 49 (congrArg LectNodeKey.path heq)

namespace BuildInput

/-- The same work with another number of threads. -/
def withThreads (input : BuildInput α) (threads : Int) : BuildInput α :=
  { input with options := { input.options with threads } }

variable {input : BuildInput α}

/-- The state in which an item is visited. -/
def visited (state : BuildState α) (rest : List (WorkItem α)) :
    BuildState α :=
  { state with
    work := rest
    stats := { state.stats with
      nodesVisited := state.stats.nodesVisited + 1 } }

/-- A turn asks for the answer on the leaf of the item, wherever it comes
from. -/
theorem step_eq (input : BuildInput α)
    {state : BuildState α} {current : WorkItem α}
    {rest : List (WorkItem α)} (h : Queued input.validate state)
    (hwork : state.work = current :: rest) {leaf : LectNode α}
    (hmem : leaf ∈ state.tree.nodes) (hkey : leaf.key = current.key) :
    input.step { state with work := rest } current = (do
      let validation ← input.validate leaf.box
      if validation.disposition = .certifiedFree then
        .ok (admitPending (visited state rest) leaf validation)
      else input.refine (visited state rest) current leaf) := by
  have hnode : state.tree.node current.key = .ok leaf :=
    h.wellFormed.node_eq_ok.mpr ⟨hmem, hkey⟩
  unfold step
  dsimp only
  rw [hnode, ok_bind]
  cases hcached : current.cachedValidation with
  | none => rfl
  | some validation =>
      obtain ⟨other, hother, hotherKey, -, hvalid⟩ := h.leaves current
        (hwork ▸ List.mem_cons_self)
      have hsame : other = leaf := h.wellFormed.node_eq hother hmem
        (hotherKey.trans hkey.symm)
      rw [← hsame, hvalid validation hcached]
      rfl

/-- What becomes of a leaf that is not certified does not depend on the
number of threads, but for the answers on its halves. -/
theorem refine_cases [LawfulScalar α] (input : BuildInput α)
    (state : BuildState α) (h : state.tree.WellFormed)
    (current : WorkItem α) {leaf : LectNode α}
    (hmem : leaf ∈ state.tree.nodes) (hleaf : leaf.leaf = true)
    (hkey : leaf.key = current.key) :
    (∀ threads work, (input.withThreads threads).refine
        { state with work } current leaf
          = .ok (leaveUnresolved { state with work } leaf)) ∨
      (∃ e, ∀ threads work, (input.withThreads threads).refine
        { state with work } current leaf = .error e) ∨
      ∃ dimension halved leftSamples rightSamples,
        state.tree.Halves leaf dimension halved ∧
        state.tree.nodes.length + 2 ≤ input.options.maximumNodes ∧
        ∀ threads work, (input.withThreads threads).refine
          { state with work } current leaf = (do
            let cached ← (input.withThreads threads).validateChildren halved
              (leaf.key.leftChild, leaf.key.rightChild)
            .ok { state with
                  tree := halved
                  work := work ++
                    [⟨leaf.key.leftChild, leftSamples,
                        !leftSamples.isEmpty, cached.1⟩,
                      ⟨leaf.key.rightChild, rightSamples,
                        !rightSamples.isEmpty, cached.2⟩] }) := by
  by_cases hstay : current.maySplit = false ∨ current.samples = []
      ∨ current.key.depth ≥ input.options.maximumDepth
  · refine .inl fun threads work => ?_
    unfold refine
    rw [if_pos (by exact hstay)]
  by_cases hfull : state.tree.nodes.length + 2 > input.options.maximumNodes
  · refine .inr (.inl ⟨⟨.resourceLimit,
      "Atlas build reached maximum node count",
      stdToString input.options.maximumNodes⟩, fun threads work => ?_⟩)
    unfold refine
    rw [if_neg (by exact hstay), if_pos (by exact hfull)]
    rfl
  rcases h.split_leaf hmem hleaf with ⟨e, hsplit⟩ | ⟨dimension, halved,
    hsplit, hhalves⟩
  · rw [hkey] at hsplit
    by_cases hlimit : e.code = .resourceLimit
    · refine .inl fun threads work => ?_
      unfold refine
      rw [if_neg (by exact hstay), if_neg (by exact hfull)]
      dsimp only
      rw [hsplit]
      dsimp only
      rw [if_pos hlimit]
    · refine .inr (.inl ⟨e, fun threads work => ?_⟩)
      unfold refine
      rw [if_neg (by exact hstay), if_neg (by exact hfull)]
      dsimp only
      rw [hsplit]
      dsimp only
      rw [if_neg hlimit]
  · rw [hkey] at hsplit
    have hparent : halved.node current.key
        = .ok (LectTree.branchRow leaf dimension) :=
      hhalves.wellFormed.node_eq_ok.mpr ⟨hhalves.branch_mem, hkey⟩
    cases haxis : leaf.box.axes[dimension]? with
    | none =>
        have haxis' : (LectTree.branchRow leaf dimension).box.axes[
            (LectTree.branchRow leaf dimension).splitDimension]? = none :=
          haxis
        refine .inr (.inl ⟨⟨.internalError,
          "vector subscript out of range", []⟩, fun threads work => ?_⟩)
        unfold refine
        rw [if_neg (by exact hstay), if_neg (by exact hfull)]
        dsimp only
        rw [hsplit]
        dsimp only [pushChildren]
        rw [hparent, ok_bind, haxis']
        rfl
    | some axis =>
        have haxis' : (LectTree.branchRow leaf dimension).box.axes[
            (LectTree.branchRow leaf dimension).splitDimension]?
              = some axis := haxis
        refine .inr (.inr ⟨dimension, halved,
          current.samples.filter (input.goesLeft dimension axis.center),
          current.samples.filter
            fun index => !input.goesLeft dimension axis.center index,
          hhalves, by omega, fun threads work => ?_⟩)
        unfold refine
        rw [if_neg (by exact hstay), if_neg (by exact hfull), hkey]
        dsimp only
        rw [hsplit]
        dsimp only [pushChildren]
        rw [hparent, ok_bind, haxis']
        rfl

/-- The answers on two halves, where they are in the table. -/
theorem validateChildren_eq (input : BuildInput α)
    {halved : LectTree α} (h : halved.WellFormed)
    {left right : LectNode α} (hleft : left ∈ halved.nodes)
    (hright : right ∈ halved.nodes) :
    input.validateChildren halved (left.key, right.key)
      = if input.options.threads > 1 then (do
          let leftResult ← input.validate left.box
          let rightResult ← input.validate right.box
          .ok (some leftResult, some rightResult))
        else .ok (none, none) := by
  have hleftNode : halved.node left.key = .ok left :=
    h.node_eq_ok.mpr ⟨hleft, rfl⟩
  have hrightNode : halved.node right.key = .ok right :=
    h.node_eq_ok.mpr ⟨hright, rfl⟩
  unfold validateChildren
  dsimp only
  rw [hleftNode, hrightNode]
  rfl

/-- The answers on two halves are the validator's. -/
theorem cached_of_validateChildren (input : BuildInput α)
    {halved : LectTree α}
    (h : halved.WellFormed) {left right : LectNode α}
    (hleft : left ∈ halved.nodes) (hright : right ∈ halved.nodes)
    {cached : Option (RegionValidation α) × Option (RegionValidation α)}
    (hcached : input.validateChildren halved (left.key, right.key)
      = .ok cached) :
    (∀ validation, cached.1 = some validation →
        input.validate left.box = .ok validation) ∧
      ∀ validation, cached.2 = some validation →
        input.validate right.box = .ok validation := by
  rw [validateChildren_eq _ h hleft hright] at hcached
  by_cases hthreads : input.options.threads > 1
  · rw [if_pos hthreads] at hcached
    obtain ⟨first, hfirst, hcached⟩ := bind_eq_ok.mp hcached
    obtain ⟨second, hsecond, hcached⟩ := bind_eq_ok.mp hcached
    rw [← Except.ok.inj hcached]
    constructor
    · intro validation hvalidation
      rw [hfirst, Option.some_inj.mp hvalidation]
    · intro validation hvalidation
      rw [hsecond, Option.some_inj.mp hvalidation]
  · rw [if_neg hthreads] at hcached
    rw [← Except.ok.inj hcached]
    constructor <;> exact fun _ hnone => by cases hnone

-- === turns

/-- What is left to do: an item, and a node that may still be added. -/
def remaining (input : BuildInput α) (state : BuildState α) : Nat :=
  state.work.length + (input.options.maximumNodes - state.tree.nodes.length)

/-- What a turn does: the item was answered for, the other items stay and
so do their rows, and less is left to do. -/
structure Turned (input : BuildInput α) (state : BuildState α)
    (leaf : LectNode α) (rest : List (WorkItem α)) (next : BuildState α) :
    Prop where
  queued : Queued input.validate next
  validated : ∃ validation, input.validate leaf.box = .ok validation
  items : ∀ item ∈ rest, item ∈ next.work
  rows : ∀ row ∈ state.tree.nodes, row ≠ leaf → row ∈ next.tree.nodes
  less : input.remaining next < input.remaining state

theorem step_ok [LawfulScalar α] (input : BuildInput α)
    {state : BuildState α}
    {current : WorkItem α} {rest : List (WorkItem α)}
    (h : Queued input.validate state)
    (hwork : state.work = current :: rest) {leaf : LectNode α}
    (hmem : leaf ∈ state.tree.nodes) (hleaf : leaf.leaf = true)
    (hkey : leaf.key = current.key) {next : BuildState α}
    (hstep : input.step { state with work := rest } current = .ok next) :
    input.Turned state leaf rest next := by
  rw [step_eq _ h hwork hmem hkey, bind_eq_ok] at hstep
  obtain ⟨validation, hvalidation, hstep⟩ := hstep
  -- a turn that only takes the item from the queue
  have htaken : next.tree = state.tree → next.work = rest →
      input.Turned state leaf rest next := by
    intro htree hrest
    refine ⟨h.tail hwork htree hrest, ⟨validation, hvalidation⟩, ?_, ?_, ?_⟩
    · intro item hitem
      rw [hrest]
      exact hitem
    · intro row hrow _
      rw [htree]
      exact hrow
    · unfold remaining
      rw [htree, hrest, hwork, List.length_cons]
      omega
  by_cases hfree : validation.disposition = .certifiedFree
  · rw [if_pos hfree] at hstep
    have hnext := Except.ok.inj hstep
    exact htaken (hnext ▸ rfl) (hnext ▸ rfl)
  rw [if_neg hfree] at hstep
  rcases refine_cases input (visited state rest) h.wellFormed
    current hmem hleaf hkey with hstay | ⟨e, herror⟩ | ⟨dimension, halved,
      leftSamples, rightSamples, hhalves, hroom, hsplit⟩
  · have hrefine := hstay input.options.threads rest
    have hnext := Except.ok.inj (hstep.symm.trans hrefine)
    exact htaken (hnext ▸ rfl) (hnext ▸ rfl)
  · cases hstep.symm.trans (herror input.options.threads rest)
  · have hrefine := hstep.symm.trans (hsplit input.options.threads rest)
    obtain ⟨cached, hcached, hnext⟩ := bind_eq_ok.mp hrefine.symm
    have hcaches := cached_of_validateChildren
      (input.withThreads input.options.threads)
      hhalves.wellFormed hhalves.left_mem hhalves.right_mem hcached
    have hnext := (Except.ok.inj hnext).symm
    subst hnext
    refine ⟨h.push hwork hmem hleaf hkey hhalves rfl rfl hcaches.1
      hcaches.2 rfl rfl, ⟨validation, hvalidation⟩, ?_, ?_, ?_⟩
    · intro item hitem
      exact List.mem_append_left _ hitem
    · intro row hrow hne
      exact hhalves.keeps hrow hne
    · show (rest ++ [_, _]).length
          + (input.options.maximumNodes - halved.nodes.length)
        < state.work.length
          + (input.options.maximumNodes - state.tree.nodes.length)
      have hlength : halved.nodes.length = state.tree.nodes.length + 2 :=
        hhalves.length
      rw [hwork, List.length_append, List.length_cons, List.length_cons,
        List.length_cons, List.length_nil, hlength]
      have hroom' : state.tree.nodes.length + 2
        ≤ input.options.maximumNodes := hroom
      omega

-- === loops

theorem loop_nil {fuel : Nat} {state : BuildState α}
    (hwork : state.work = []) :
    input.loop fuel state = some (.ok state) := by
  unfold loop
  rw [hwork]

theorem loop_zero {state : BuildState α} {current : WorkItem α}
    {rest : List (WorkItem α)} (hwork : state.work = current :: rest) :
    input.loop 0 state = none := by
  unfold loop
  rw [hwork]

theorem loop_succ {fuel : Nat} {state : BuildState α}
    {current : WorkItem α} {rest : List (WorkItem α)}
    (hwork : state.work = current :: rest) :
    input.loop (fuel + 1) state
      = if input.options.cancellation state.stats.nodesVisited then
          some (failure .cancelled "Atlas build was cancelled")
        else
          match input.step { state with work := rest } current with
          | .error e => some (.error e)
          | .ok next => input.loop fuel next := by
  conv_lhs => unfold loop
  rw [hwork] <;> rfl

/-- The queue ends. -/
theorem loop_total [LawfulScalar α] : ∀ (fuel : Nat) (state : BuildState α),
    Queued input.validate state → input.remaining state ≤ fuel →
      ∃ outcome, input.loop fuel state = some outcome := by
  intro fuel
  induction fuel with
  | zero =>
      intro state _ hfuel
      cases hwork : state.work with
      | nil => exact ⟨_, loop_nil hwork⟩
      | cons current rest =>
          unfold remaining at hfuel
          rw [hwork, List.length_cons] at hfuel
          omega
  | succ fuel ih =>
      intro state h hfuel
      cases hwork : state.work with
      | nil => exact ⟨_, loop_nil hwork⟩
      | cons current rest =>
          obtain ⟨leaf, hmem, hkey, hleaf, -⟩ := h.leaves current
            (hwork ▸ List.mem_cons_self)
          rw [loop_succ hwork]
          by_cases hcancel :
              input.options.cancellation state.stats.nodesVisited = true
          · rw [if_pos hcancel]
            exact ⟨_, rfl⟩
          rw [if_neg hcancel]
          cases hstep : input.step { state with work := rest } current with
          | error e => exact ⟨_, rfl⟩
          | ok next =>
              have hturn := step_ok _ h hwork hmem hleaf hkey hstep
              have hless := hturn.less
              exact ih next hturn.queued (by omega)

/-- A loop that succeeds has asked for the answer on every item that was
queued. -/
theorem loop_validates [LawfulScalar α] {result : BuildState α} :
    ∀ (fuel : Nat) (state : BuildState α), Queued input.validate state →
      input.loop fuel state = some (.ok result) →
        ∀ item ∈ state.work, ∀ leaf ∈ state.tree.nodes,
          leaf.key = item.key →
            ∃ validation, input.validate leaf.box = .ok validation := by
  intro fuel
  induction fuel with
  | zero =>
      intro state _ hloop item hitem
      cases hwork : state.work with
      | nil =>
          rw [hwork] at hitem
          cases hitem
      | cons current rest =>
          rw [loop_zero hwork] at hloop
          cases hloop
  | succ fuel ih =>
      intro state h hloop item hitem leaf hleafMem hleafKey
      cases hwork : state.work with
      | nil =>
          rw [hwork] at hitem
          cases hitem
      | cons current rest =>
          obtain ⟨first, hmem, hkey, hleaf, -⟩ := h.leaves current
            (hwork ▸ List.mem_cons_self)
          rw [loop_succ hwork] at hloop
          by_cases hcancel :
              input.options.cancellation state.stats.nodesVisited = true
          · rw [if_pos hcancel] at hloop
            cases hloop
          rw [if_neg hcancel] at hloop
          cases hstep : input.step { state with work := rest } current with
          | error e =>
              rw [hstep] at hloop
              cases hloop
          | ok next =>
              rw [hstep] at hloop
              have hturn := step_ok _ h hwork hmem hleaf hkey hstep
              rw [hwork] at hitem
              by_cases hsame : leaf = first
              · rw [hsame]
                exact hturn.validated
              rcases List.mem_cons.mp hitem with rfl | hrest
              · exact absurd (h.wellFormed.node_eq hleafMem hmem
                  (hleafKey.trans hkey.symm)) hsame
              · exact ih next hturn.queued hloop item
                  (hturn.items item hrest) leaf
                  (hturn.rows leaf hleafMem hsame) hleafKey

-- === agreement

theorem loop_error {fuel : Nat} {state : BuildState α}
    {current : WorkItem α} {rest : List (WorkItem α)} {e : Error}
    (hwork : state.work = current :: rest)
    (hstep : input.step { state with work := rest } current = .error e)
    (result : BuildState α) :
    input.loop (fuel + 1) state ≠ some (.ok result) := by
  rw [loop_succ hwork, hstep]
  intro h
  split at h <;> cases h

theorem loop_cancelled (input : BuildInput α)
    {fuel : Nat} {state : BuildState α}
    {current : WorkItem α} {rest : List (WorkItem α)}
    (hwork : state.work = current :: rest)
    (hcancel : input.options.cancellation state.stats.nodesVisited = true) :
    input.loop (fuel + 1) state
      = some (failure .cancelled "Atlas build was cancelled") := by
  rw [loop_succ hwork, if_pos hcancel]

theorem loop_next (input : BuildInput α)
    {fuel : Nat} {state next : BuildState α}
    {current : WorkItem α} {rest : List (WorkItem α)}
    (hwork : state.work = current :: rest)
    (hcancel : input.options.cancellation state.stats.nodesVisited = false)
    (hstep : input.step { state with work := rest } current = .ok next) :
    input.loop (fuel + 1) state = input.loop fuel next := by
  rw [loop_succ hwork, if_neg (by simp [hcancel]), hstep]

/-- With several threads and with one, the first loop has the same
result. -/
theorem loop_agrees [LawfulScalar α] (input : BuildInput α) {threads : Int}
    (hthreads : 1 < threads) (result : BuildState α) :
    ∀ (fuel : Nat) (state : BuildState α), Queued input.validate state →
      ((input.withThreads 1).loop fuel state.forget = some (.ok result)
        ↔ (input.withThreads threads).loop fuel state
          = some (.ok result)) := by
  intro fuel
  induction fuel with
  | zero =>
      intro state _
      cases hwork : state.work with
      | nil =>
          have hforget : state.forget = state := by
            unfold BuildState.forget
            rw [hwork, List.map_nil, ← hwork]
          rw [hforget, loop_nil hwork, loop_nil hwork]
      | cons current rest =>
          have hwork' : state.forget.work
              = current.forget :: rest.map WorkItem.forget :=
            congrArg (List.map WorkItem.forget) hwork
          rw [loop_zero hwork, loop_zero hwork']
  | succ fuel ih =>
      intro state h
      cases hwork : state.work with
      | nil =>
          have hforget : state.forget = state := by
            unfold BuildState.forget
            rw [hwork, List.map_nil, ← hwork]
          rw [hforget, loop_nil hwork, loop_nil hwork]
      | cons current rest =>
          have hwork' : state.forget.work
              = current.forget :: rest.map WorkItem.forget :=
            congrArg (List.map WorkItem.forget) hwork
          obtain ⟨leaf, hmem, hkey, hleaf, -⟩ := h.leaves current
            (hwork ▸ List.mem_cons_self)
          by_cases hcancel :
              input.options.cancellation state.stats.nodesVisited = true
          · rw [loop_cancelled (input.withThreads threads) hwork
              hcancel, loop_cancelled (input.withThreads 1) hwork'
              hcancel]
          rw [Bool.not_eq_true] at hcancel
          have hstep := step_eq (input.withThreads threads) h hwork
            hmem hkey
          have hstep' := step_eq (input.withThreads 1) h.forget
            hwork' hmem hkey
          -- both builds go on, with the same items
          have hboth : ∀ next : BuildState α,
              (input.withThreads 1).step
                  { state.forget with work := rest.map WorkItem.forget }
                  current.forget = .ok next.forget →
                (input.withThreads threads).step { state with work := rest }
                  current = .ok next →
                ((input.withThreads 1).loop (fuel + 1) state.forget
                    = some (.ok result)
                  ↔ (input.withThreads threads).loop (fuel + 1) state
                    = some (.ok result)) := by
            intro next hone hmany
            have hturn := step_ok (input.withThreads threads) h
              hwork hmem hleaf hkey hmany
            rw [loop_next (input.withThreads threads) hwork hcancel
                hmany,
              loop_next (input.withThreads 1) hwork' hcancel hone]
            exact ih next hturn.queued
          -- both builds fail at this item
          have hneither : ∀ e e' : Error,
              (input.withThreads 1).step
                  { state.forget with work := rest.map WorkItem.forget }
                  current.forget = .error e →
                (input.withThreads threads).step { state with work := rest }
                  current = .error e' →
                ((input.withThreads 1).loop (fuel + 1) state.forget
                    = some (.ok result)
                  ↔ (input.withThreads threads).loop (fuel + 1) state
                    = some (.ok result)) := by
            intro e e' hone hmany
            exact iff_of_false (loop_error hwork' hone result)
              (loop_error hwork hmany result)
          cases hvalidate : input.validate leaf.box with
          | error e =>
              rw [show (input.withThreads threads).validate leaf.box
                = .error e from hvalidate, error_bind] at hstep
              rw [show (input.withThreads 1).validate leaf.box
                = .error e from hvalidate, error_bind] at hstep'
              exact hneither e e hstep' hstep
          | ok validation =>
              rw [show (input.withThreads threads).validate leaf.box
                = .ok validation from hvalidate, ok_bind] at hstep
              rw [show (input.withThreads 1).validate leaf.box
                = .ok validation from hvalidate, ok_bind] at hstep'
              by_cases hfree : validation.disposition = .certifiedFree
              · rw [if_pos hfree] at hstep hstep'
                exact hboth (admitPending (visited state rest) leaf
                  validation) hstep' hstep
              rw [if_neg hfree] at hstep hstep'
              rcases refine_cases input (visited state rest)
                h.wellFormed current hmem hleaf hkey with hstay | ⟨e, herror⟩
                | ⟨dimension, halved, leftSamples, rightSamples, hhalves,
                  -, hsplit⟩
              · exact hboth (leaveUnresolved (visited state rest) leaf)
                  (hstep'.trans (hstay 1 (rest.map WorkItem.forget)))
                  (hstep.trans (hstay threads rest))
              · exact hneither e e
                  (hstep'.trans (herror 1 (rest.map WorkItem.forget)))
                  (hstep.trans (herror threads rest))
              · have hone := hstep'.trans
                  (hsplit 1 (rest.map WorkItem.forget))
                have hmany := hstep.trans (hsplit threads rest)
                have hanswers := fun t => validateChildren_eq
                  (input.withThreads t) hhalves.wellFormed
                  hhalves.left_mem hhalves.right_mem
                rw [show (input.withThreads 1).validateChildren halved
                    (leaf.key.leftChild, leaf.key.rightChild)
                      = .ok (none, none) from hanswers 1, ok_bind] at hone
                rw [show (input.withThreads threads).validateChildren halved
                    (leaf.key.leftChild, leaf.key.rightChild) = _ from
                  (hanswers threads).trans (if_pos hthreads)] at hmany
                have hqueued := (step_ok (input.withThreads 1)
                  h.forget hwork' hmem hleaf hkey hone).queued
                -- the build with one thread comes to the halves later
                have hlater : (input.withThreads 1).loop (fuel + 1)
                      state.forget = some (.ok result) →
                    (∃ v, input.validate (leaf.box.lowerHalf dimension)
                      = .ok v) ∧
                    ∃ v, input.validate (leaf.box.upperHalf dimension)
                      = .ok v := by
                  intro hloop
                  rw [loop_next (input.withThreads 1) hwork'
                    hcancel hone] at hloop
                  have hall := loop_validates fuel _ hqueued hloop
                  exact ⟨hall _ (List.mem_append_right _
                      List.mem_cons_self) _ hhalves.left_mem rfl,
                    hall _ (List.mem_append_right _ (List.mem_cons_of_mem _
                      List.mem_cons_self)) _ hhalves.right_mem rfl⟩
                cases hleft : input.validate
                    (leaf.box.lowerHalf dimension) with
                | error e =>
                    rw [show (input.withThreads threads).validate
                      (LectNode.unsplit leaf.key.leftChild
                        (leaf.box.lowerHalf dimension)).box = .error e from
                      hleft] at hmany
                    refine iff_of_false ?_ (loop_error hwork hmany result)
                    intro hloop
                    obtain ⟨⟨v, hv⟩, -⟩ := hlater hloop
                    cases hleft.symm.trans hv
                | ok leftResult =>
                    cases hright : input.validate
                        (leaf.box.upperHalf dimension) with
                    | error e =>
                        rw [show (input.withThreads threads).validate
                            (LectNode.unsplit leaf.key.leftChild
                              (leaf.box.lowerHalf dimension)).box
                              = .ok leftResult from hleft, ok_bind,
                          show (input.withThreads threads).validate
                            (LectNode.unsplit leaf.key.rightChild
                              (leaf.box.upperHalf dimension)).box
                              = .error e from hright] at hmany
                        refine iff_of_false ?_
                          (loop_error hwork hmany result)
                        intro hloop
                        obtain ⟨-, v, hv⟩ := hlater hloop
                        cases hright.symm.trans hv
                    | ok rightResult =>
                        rw [show (input.withThreads threads).validate
                            (LectNode.unsplit leaf.key.leftChild
                              (leaf.box.lowerHalf dimension)).box
                              = .ok leftResult from hleft, ok_bind,
                          show (input.withThreads threads).validate
                            (LectNode.unsplit leaf.key.rightChild
                              (leaf.box.upperHalf dimension)).box
                              = .ok rightResult from hright, ok_bind,
                          ok_bind] at hmany
                        apply hboth _ _ hmany
                        rw [hone]
                        unfold BuildState.forget
                        dsimp only
                        rw [List.map_append]
                        rfl

end BuildInput

-- === builds

/-- The root is queued. -/
theorem Queued.start [LawfulScalar α] (input : BuildInput α)
    {root : CspaceAabb α} {policy : SplitPolicy α} {tree : LectTree α}
    (hcreate : LectTree.create root policy = .ok tree)
    (inputSamples : Nat) :
    Queued input.validate (input.start inputSamples tree) where
  wellFormed := LectTree.create_wellFormed hcreate
  leaves := by
    obtain ⟨-, -, -, -, rfl⟩ := LectTree.create_eq_ok hcreate
    intro item hitem
    have hroot := List.mem_singleton.mp hitem
    subst hroot
    refine ⟨_, List.mem_cons_self, rfl, rfl, ?_⟩
    intro validation hnone
    cases hnone
  distinct := List.nodup_singleton _

/-- What `prepare` leaves, with any number of threads. -/
theorem prepare_threads {robot : SerialRobotModel α}
    {scene : SceneSnapshot α} {samples : List (List α)}
    {options : BuildOptions α} {threads : Int} (hthreads : 1 ≤ threads) :
    prepare robot scene samples { options with threads }
      = prepare robot scene samples { options with threads := 1 } := by
  have hvalid : ({ options with threads } : BuildOptions α).valid
      = ({ options with threads := 1 } : BuildOptions α).valid := by
    unfold BuildOptions.valid
    simp [hthreads]
  unfold prepare
  rw [hvalid]

theorem prepare_ok {robot : SerialRobotModel α} {scene : SceneSnapshot α}
    {samples : List (List α)} {options : BuildOptions α} {tree : LectTree α}
    (h : prepare robot scene samples options = .ok tree) :
    robot.validate = .ok () ∧ scene.validate = .ok () ∧ samples ≠ [] ∧
      options.valid = true ∧
      checkSamples robot.dimension ⟨robot.jointLimits⟩ (ascii "sample")
        "sample lies outside robot joint limits" 0 samples = .ok () ∧
      LectTree.create ⟨robot.jointLimits⟩
        ⟨.normalizedLongestAxis, options.minimumNormalizedWidth⟩
          = .ok tree := by
  rw [prepare, check_eq_ok, check_eq_ok, ite_failure_eq_ok,
    ite_failure_eq_ok, check_eq_ok] at h
  obtain ⟨hrobot, hscene, hsamples, hoptions, hcheck, htree⟩ := h
  exact ⟨hrobot, hscene, hsamples, by simpa using hoptions, hcheck, htree⟩

/-- The options allow for a node. -/
theorem BuildOptions.one_le_nodes {options : BuildOptions α}
    (h : options.valid = true) : 1 ≤ options.maximumNodes := by
  unfold BuildOptions.valid at h
  simp only [Bool.and_eq_true, decide_eq_true_eq] at h
  exact h.1.1.1.1.1.1.2

/-- A build ends, and a build with several threads succeeds if and only
if the build with one thread does, with the same atlas and the same
statistics. -/
theorem build_threads [LawfulScalar α] (P : Platform)
    (validator : RegionValidator α) (robot : SerialRobotModel α)
    (scene : SceneSnapshot α) (samples : List (List α))
    (options : BuildOptions α) (threads : Int) (hthreads : 1 < threads) :
    (∃ outcome, build P validator robot scene samples
        { options with threads := 1 } = some outcome) ∧
      (∃ outcome, build P validator robot scene samples
        { options with threads } = some outcome) ∧
      ∀ result, build P validator robot scene samples
          { options with threads := 1 } = some (.ok result)
        ↔ build P validator robot scene samples { options with threads }
          = some (.ok result) := by
  unfold build
  rw [prepare_threads (by omega : 1 ≤ threads)]
  cases hprepare : prepare robot scene samples
      { options with threads := 1 } with
  | error e => exact ⟨⟨_, rfl⟩, ⟨_, rfl⟩, fun _ => Iff.rfl⟩
  | ok tree =>
      obtain ⟨-, -, -, hoptions, -, hcreate⟩ := prepare_ok hprepare
      have hnodes := BuildOptions.one_le_nodes hoptions
      let input : BuildInput α :=
        { robot, scene, validator, samples := uniqueSamples samples
          options }
      have hqueued := Queued.start input hcreate samples.length
      have htotal : ∀ t, ∃ outcome, (input.withThreads t).loop
          options.maximumNodes (input.start samples.length tree)
            = some outcome := by
        intro t
        apply (input.withThreads t).loop_total
        · exact hqueued
        · obtain ⟨-, -, -, -, rfl⟩ := LectTree.create_eq_ok hcreate
          show 1 + (options.maximumNodes - 1) ≤ options.maximumNodes
          have : 1 ≤ options.maximumNodes := hnodes
          omega
      have hagree := fun result => input.loop_agrees hthreads
        result options.maximumNodes _ hqueued
      obtain ⟨one, hone⟩ := htotal 1
      obtain ⟨many, hmany⟩ := htotal threads
      -- what follows the loop does not look at the number of threads
      have hfinish : ∀ t (outcome : Result (BuildState α)),
          (input.withThreads t).loop options.maximumNodes
              (input.start samples.length tree) = some outcome →
            ((input.withThreads t).loop options.maximumNodes
                (input.start samples.length tree)).map
                  (fun result => result.bind ((input.withThreads t).finish P))
              = some (outcome.bind (input.finish P)) := by
        intro t outcome houtcome
        rw [houtcome]
        rfl
      refine ⟨⟨_, hfinish 1 one hone⟩, ⟨_, hfinish threads many hmany⟩, ?_⟩
      intro result
      have hsame : ∀ state, one = .ok state ↔ many = .ok state := by
        intro state
        have h := hagree state
        rw [show (input.start samples.length tree).forget
          = input.start samples.length tree from rfl, hone, hmany,
          Option.some_inj, Option.some_inj] at h
        exact h
      have hbind : ∀ outcome : Result (BuildState α),
          some (outcome.bind (input.finish P)) = some (.ok result)
            ↔ ∃ state, outcome = .ok state ∧
              input.finish P state = .ok result := by
        intro outcome
        rw [Option.some_inj]
        exact bind_eq_ok
      have hleft := (hfinish 1 one hone).symm
      have hright := (hfinish threads many hmany).symm
      show ((input.withThreads 1).loop options.maximumNodes
            (input.start samples.length tree)).map
              (fun result => result.bind ((input.withThreads 1).finish P))
          = some (.ok result)
        ↔ ((input.withThreads threads).loop options.maximumNodes
            (input.start samples.length tree)).map
              (fun result =>
                result.bind ((input.withThreads threads).finish P))
          = some (.ok result)
      rw [← hleft, ← hright, hbind, hbind]
      constructor
      · rintro ⟨state, hstate, hresult⟩
        exact ⟨state, (hsame state).mp hstate, hresult⟩
      · rintro ⟨state, hstate, hresult⟩
        exact ⟨state, (hsame state).mpr hstate, hresult⟩

/-- One joint. -/
def unitArm : SerialRobotModel Float where
  name := ascii "arm"
  joints := [⟨0, 1, 0, 0, .revolute⟩]
  jointLimits := [⟨0, 1⟩]
  linkRadii := [0]
  toolFrame := none

/-- A validator that certifies the boxes left of a half. -/
def leftValidator : RegionValidator Float where
  validate _ _ box := .ok
    { disposition := if box.axes.all fun axis => Scalar.le axis.upper 0.5
        then .certifiedFree else .undetermined
      clearanceLowerBound := 0
      envelope := ⟨[⟨fun _ => 0, fun _ => 1⟩]⟩ }
  algorithmName := ascii "left"
  algorithmVersion := ascii "1"

theorem build_threads_unit :
    (∃ outcome, build (host fun _ _ _ => true) leftValidator unitArm
        ⟨[], ascii "1"⟩ [[0.25]] { threads := 1 } = some outcome) ∧
      (∃ outcome, build (host fun _ _ _ => true) leftValidator unitArm
        ⟨[], ascii "1"⟩ [[0.25]] { threads := 4 } = some outcome) ∧
      ∀ result, build (host fun _ _ _ => true) leftValidator unitArm
          ⟨[], ascii "1"⟩ [[0.25]] { threads := 1 } = some (.ok result)
        ↔ build (host fun _ _ _ => true) leftValidator unitArm
          ⟨[], ascii "1"⟩ [[0.25]] { threads := 4 } = some (.ok result) :=
  build_threads (host fun _ _ _ => true) leftValidator unitArm
    ⟨[], ascii "1"⟩ [[0.25]] {} 4 (by decide)

end RbfSafe.Atlas
