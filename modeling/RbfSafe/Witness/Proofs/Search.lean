/-
The passes over the sorted groups: what each returns, and that only the
limits stop them.

`Limited` is the shape of every pass: a value, or an error of a limit.
The same-size pass reports exactly the pairs of one size
(`mem_sameSizePass`). The search marks only what the edges reach
(`search_sound`), so a pair that was counted as linked has a path, and a
traversal with no unlinked pair has one for every pair of growing size
(`traverse_linked`).
-/
import RbfSafe.Witness.Proofs.Groups

namespace RbfSafe

open Lib.Sorting

-- === limits

/-- A value, or the error of a limit. -/
def Limited {α : Type} (r : Result α) : Prop :=
  Succeeds r ∨ ∃ e, r = .error e ∧ e.code = .resourceLimit

theorem limited_ok {α : Type} (a : α) : Limited (.ok a : Result α) :=
  Or.inl ⟨a, rfl⟩

theorem limited_failure {α : Type} (message : String) (context : Bytes) :
    Limited (failure .resourceLimit message context : Result α) :=
  Or.inr ⟨_, rfl, rfl⟩

theorem Limited.bind {α β : Type} {r : Result α} {k : α → Result β}
    (h : Limited r) (hk : ∀ a, r = .ok a → Limited (k a)) :
    Limited (r >>= k) := by
  rcases h with ⟨a, rfl⟩ | ⟨e, rfl, hcode⟩
  · exact hk a rfl
  · exact Or.inr ⟨e, rfl, hcode⟩

-- === same-size pairs

section
variable (P : Platform) {options : TransparencyGossipAuditOptions}

theorem limited_sameSizeInner {first : CheckpointGroup} :
    ∀ (rest : List CheckpointGroup) (pairChecks : Nat)
      (conflicts : List TransparencyGossipConflict),
      Limited (sameSizeInner P options first pairChecks conflicts rest)
  | [], _, _ => limited_ok _
  | second :: rest, pairChecks, conflicts => by
      unfold sameSizeInner
      split
      · exact limited_ok _
      split
      · exact limited_failure _ _
      · exact limited_sameSizeInner rest _ _

theorem limited_sameSizePass :
    ∀ (groups : List CheckpointGroup) (pairChecks : Nat)
      (conflicts : List TransparencyGossipConflict),
      Limited (sameSizePass P options pairChecks conflicts groups)
  | [], _, _ => limited_ok _
  | first :: rest, pairChecks, conflicts => by
      unfold sameSizePass
      exact (limited_sameSizeInner P rest _ _).bind
        fun _ _ => limited_sameSizePass rest _ _

/-- The inner loop adds the conflicts with the groups up to the first of
another size. -/
theorem sameSizeInner_ok {first : CheckpointGroup}
    {result : Nat × List TransparencyGossipConflict} :
    ∀ {rest : List CheckpointGroup} {pairChecks : Nat}
      {conflicts : List TransparencyGossipConflict},
      sameSizeInner P options first pairChecks conflicts rest = .ok result →
      result.2 = conflicts ++ (rest.takeWhile fun second =>
        first.checkpoint.treeSize == second.checkpoint.treeSize).map
        (sameSizeConflict P first)
  | [], _, _, h => by
      cases h
      simp
  | second :: rest, pairChecks, conflicts, h => by
      unfold sameSizeInner at h
      split at h
      · next hsize =>
          cases h
          rw [List.takeWhile_cons_of_neg (by simpa using hsize)]
          simp
      · next hsize =>
          rw [ite_failure_eq_ok] at h
          rw [sameSizeInner_ok h.2,
            List.takeWhile_cons_of_pos (by simpa using hsize)]
          simp

/-- The pairs of one size, in the order of the pass. -/
def sameSizePairs : List CheckpointGroup → List (CheckpointGroup × CheckpointGroup)
  | [] => []
  | first :: rest =>
      (rest.takeWhile fun second =>
        first.checkpoint.treeSize == second.checkpoint.treeSize).map
        (fun second => (first, second)) ++ sameSizePairs rest

theorem sameSizePass_ok {result : Nat × List TransparencyGossipConflict} :
    ∀ {groups : List CheckpointGroup} {pairChecks : Nat}
      {conflicts : List TransparencyGossipConflict},
      sameSizePass P options pairChecks conflicts groups = .ok result →
      result.2 = conflicts
        ++ (sameSizePairs groups).map fun p => sameSizeConflict P p.1 p.2
  | [], _, _, h => by
      cases h
      simp [sameSizePairs]
  | first :: rest, pairChecks, conflicts, h => by
      unfold sameSizePass at h
      obtain ⟨inner, hinner, h⟩ := bind_eq_ok.mp h
      rw [sameSizePass_ok h, sameSizeInner_ok P hinner]
      simp [sameSizePairs, Function.comp_def]

omit P in
/-- A pair of the pass is a pair of the list, of one size. -/
theorem mem_sameSizePairs {first second : CheckpointGroup} :
    ∀ {groups : List CheckpointGroup}, (first, second) ∈ sameSizePairs groups →
      [first, second].Sublist groups ∧
        first.checkpoint.treeSize = second.checkpoint.treeSize
  | [], h => absurd h List.not_mem_nil
  | group :: rest, h => by
      rw [sameSizePairs, List.mem_append, List.mem_map] at h
      rcases h with ⟨other, hother, heq⟩ | h
      · obtain ⟨rfl, rfl⟩ := Prod.mk.inj heq
        have hmem := (List.takeWhile_sublist _).mem hother
        have hsize := List.all_eq_true.mp List.all_takeWhile _ hother
        exact ⟨(List.singleton_sublist.mpr hmem).cons_cons _,
          by simpa using hsize⟩
      · obtain ⟨hsub, hsize⟩ := mem_sameSizePairs h
        exact ⟨hsub.cons _, hsize⟩

omit P in
/-- In a list sorted by size the `break` skips no pair. -/
theorem sameSizePairs_complete {first second : CheckpointGroup}
    (hsize : first.checkpoint.treeSize = second.checkpoint.treeSize) :
    ∀ {groups : List CheckpointGroup},
      groups.Pairwise (fun g h => g.checkpoint.treeSize ≤ h.checkpoint.treeSize) →
      [first, second].Sublist groups → (first, second) ∈ sameSizePairs groups
  | [], _, h => by simp at h
  | group :: rest, hsorted, h => by
      obtain ⟨hgroup, hrest⟩ := List.pairwise_cons.mp hsorted
      rw [sameSizePairs, List.mem_append]
      cases h with
      | cons _ h => exact Or.inr (sameSizePairs_complete hsize hrest h)
      | cons_cons _ h =>
          left
          have hmem : second ∈ rest := List.singleton_sublist.mp h
          refine List.mem_map.mpr ⟨second, ?_, rfl⟩
          -- everything before `second` lies between two equal sizes
          obtain ⟨before, after, rfl⟩ := List.append_of_mem hmem
          rw [List.takeWhile_append_of_pos, List.takeWhile_cons_of_pos]
          · exact List.mem_append_right _ List.mem_cons_self
          · simpa using hsize
          · intro g hg
            have hlow := hgroup g (List.mem_append_left _ hg)
            have hhigh := (List.pairwise_append.mp hrest).2.2 g hg second
              List.mem_cons_self
            rw [← hsize] at hhigh
            simpa using UInt64.le_antisymm hlow hhigh

end

-- === search

/-- An edge from one index to another. -/
def Edge (edges : List (List Nat)) (i j : Nat) : Prop :=
  j ∈ edges.getD i []

/-- Everything marked or queued is reached from the start. -/
structure Marked (edges : List (List Nat)) (start : Nat)
    (state : SearchState) : Prop where
  reachable : ∀ i, state.reachable[i]? = some true →
    Relation.ReflTransGen (Edge edges) start i
  pending : ∀ i ∈ state.pending, Relation.ReflTransGen (Edge edges) start i

theorem relaxEdges_marked {options : TransparencyGossipAuditOptions}
    {edges : List (List Nat)} {start : Nat} {state' : SearchState} :
    ∀ {outgoing : List Nat} {state : SearchState},
      relaxEdges options state outgoing = .ok state' →
      (∀ next ∈ outgoing, Relation.ReflTransGen (Edge edges) start next) →
      Marked edges start state → Marked edges start state'
  | [], state, h, _, hmarked => by
      cases h
      exact hmarked
  | next :: rest, state, h, hreach, hmarked => by
      obtain ⟨hnext, hrest⟩ := List.forall_mem_cons.mp hreach
      unfold relaxEdges at h
      rw [ite_failure_eq_ok] at h
      have h := h.2
      split at h
      · refine relaxEdges_marked h hrest ⟨fun i hi => ?_, fun i hi => ?_⟩
        · by_cases heq : next = i
          · rw [← heq]
            exact hnext
          · rw [List.getElem?_set_ne heq] at hi
            exact hmarked.reachable i hi
        · rcases List.mem_append.mp hi with hi | hi
          · exact hmarked.pending i hi
          · rw [List.mem_singleton.mp hi]
            exact hnext
      · exact relaxEdges_marked h hrest ⟨hmarked.reachable, hmarked.pending⟩

/-- **The search marks only what the edges reach.** -/
theorem search_sound {options : TransparencyGossipAuditOptions}
    {edges : List (List Nat)} {start : Nat} (state : SearchState) :
    ∀ {state' : SearchState}, search options edges state = .ok state' →
      Marked edges start state → Marked edges start state' := by
  fun_induction search options edges state with
  | case1 state hpending =>
      intro state' h hmarked
      cases h
      exact hmarked
  | case2 state current pending hpending hcancelled =>
      intro state' h
      exact absurd h (failure_ne_ok _ _ _ _)
  | case3 state current pending hpending hcancelled e hrelax =>
      intro state' h
      cases h
  | case4 state current pending hpending hcancelled next hrelax ih =>
      intro state' h hmarked
      have hcurrent : Relation.ReflTransGen (Edge edges) start current :=
        hmarked.pending current (by rw [hpending]; exact List.mem_cons_self)
      refine ih h (relaxEdges_marked hrelax (fun j hj => hcurrent.tail hj)
        ⟨hmarked.reachable, fun i hi => hmarked.pending i ?_⟩)
      rw [hpending]
      exact List.mem_cons_of_mem _ hi

theorem limited_relaxEdges {options : TransparencyGossipAuditOptions} :
    ∀ (outgoing : List Nat) (state : SearchState),
      Limited (relaxEdges options state outgoing)
  | [], state => limited_ok state
  | next :: rest, state => by
      unfold relaxEdges
      split
      · exact limited_failure _ _
      split
      · exact limited_relaxEdges rest _
      · exact limited_relaxEdges rest _

theorem limited_search {options : TransparencyGossipAuditOptions}
    {edges : List (List Nat)} (hcancelled : options.cancelled = false)
    (state : SearchState) : Limited (search options edges state) := by
  fun_induction search options edges state with
  | case1 state hpending => exact limited_ok state
  | case2 state current pending hpending h =>
      rw [hcancelled] at h
      cases h
  | case3 state current pending hpending h e hrelax =>
      have hlimited : Limited (relaxEdges options
          { state with pending := pending } (edges.getD current [])) :=
        limited_relaxEdges _ _
      rw [hrelax] at hlimited
      rcases hlimited with ⟨next, hnext⟩ | ⟨e', he', hcode⟩
      · cases hnext
      · cases he'
        exact Or.inr ⟨e, rfl, hcode⟩
  | case4 state current pending hpending h next hrelax ih => exact ih

theorem search_nil {options : TransparencyGossipAuditOptions}
    {edges : List (List Nat)} {state : SearchState}
    (hpending : state.pending = []) :
    search options edges state = .ok state := by
  unfold search
  split
  · rfl
  · next current pending h =>
      rw [hpending] at h
      cases h

/-- One round of the search. -/
theorem search_cons {options : TransparencyGossipAuditOptions}
    {edges : List (List Nat)} {state next : SearchState} {current : Nat}
    {pending : List Nat} (hcancelled : options.cancelled = false)
    (hpending : state.pending = current :: pending)
    (hrelax : relaxEdges options { state with pending := pending }
      (edges.getD current []) = .ok next) :
    search options edges state = search options edges next := by
  rw [search.eq_def]
  split
  · next h =>
      rw [hpending] at h
      cases h
  · next current' pending' h =>
      rw [hpending] at h
      obtain ⟨rfl, rfl⟩ := List.cons.inj h
      rw [hcancelled, if_neg Bool.false_ne_true]
      split
      · next e he =>
          rw [hrelax] at he
          cases he
      · next next' he =>
          rw [hrelax] at he
          rw [Except.ok.inj he]

-- === traversal

theorem limited_countPairs {options : TransparencyGossipAuditOptions}
    {start : CheckpointGroup} {reachable : List Bool} :
    ∀ (later : List (CheckpointGroup × Nat)) (counts : PairCounts),
      Limited (countPairs options start reachable counts later)
  | [], counts => limited_ok counts
  | next :: rest, counts => by
      unfold countPairs
      split
      · exact limited_countPairs rest _
      split
      · exact limited_failure _ _
      split
      · exact limited_countPairs rest _
      · exact limited_countPairs rest _

theorem limited_traverse {options : TransparencyGossipAuditOptions}
    {edges : List (List Nat)} (hcancelled : options.cancelled = false) :
    ∀ (starts : List (CheckpointGroup × Nat)) (graphSteps : Nat)
      (counts : PairCounts),
      Limited (traverse options edges graphSteps counts starts)
  | [], _, counts => limited_ok counts
  | start :: rest, _, _ => by
      unfold traverse
      exact (limited_search hcancelled _).bind fun _ _ =>
        (limited_countPairs rest _).bind fun _ _ =>
          limited_traverse hcancelled rest _ _

/-- Pairs are only ever counted; where none was unlinked, every larger
group was marked. -/
theorem countPairs_ok {options : TransparencyGossipAuditOptions}
    {start : CheckpointGroup} {reachable : List Bool} {counts' : PairCounts} :
    ∀ {later : List (CheckpointGroup × Nat)} {counts : PairCounts},
      countPairs options start reachable counts later = .ok counts' →
      counts.unlinked ≤ counts'.unlinked ∧
        (counts'.unlinked = 0 → ∀ next ∈ later,
          start.checkpoint.treeSize < next.1.checkpoint.treeSize →
          reachable[next.2]? = some true)
  | [], counts, h => by
      cases h
      exact ⟨le_rfl, fun _ _ h => absurd h List.not_mem_nil⟩
  | next :: rest, counts, h => by
      unfold countPairs at h
      split at h
      · next hsize =>
          obtain ⟨hle, hmarked⟩ := countPairs_ok h
          refine ⟨hle, fun hzero other hother hlt => ?_⟩
          rcases List.mem_cons.mp hother with rfl | hother
          · exact absurd hlt (UInt64.not_lt.mpr hsize)
          · exact hmarked hzero other hother hlt
      · rw [ite_failure_eq_ok] at h
        have h := h.2
        split at h
        · next hreach =>
            obtain ⟨hle, hmarked⟩ := countPairs_ok h
            refine ⟨hle, fun hzero other hother hlt => ?_⟩
            rcases List.mem_cons.mp hother with rfl | hother
            · rw [List.getD_eq_getElem?_getD] at hreach
              cases hget : reachable[other.2]? with
              | none => simp [hget] at hreach
              | some mark => simpa [hget] using hreach
            · exact hmarked hzero other hother hlt
        · obtain ⟨hle, -⟩ := countPairs_ok h
          simp only at hle
          exact ⟨by omega, fun hzero => by omega⟩

/-- **A traversal without an unlinked pair has a path for every pair of
growing size.** -/
theorem traverse_ok {options : TransparencyGossipAuditOptions}
    {edges : List (List Nat)} {counts' : PairCounts} :
    ∀ {starts : List (CheckpointGroup × Nat)} {graphSteps : Nat}
      {counts : PairCounts},
      traverse options edges graphSteps counts starts = .ok counts' →
      counts.unlinked ≤ counts'.unlinked ∧
        (counts'.unlinked = 0 → ∀ start next, [start, next].Sublist starts →
          start.1.checkpoint.treeSize < next.1.checkpoint.treeSize →
          Relation.ReflTransGen (Edge edges) start.2 next.2)
  | [], graphSteps, counts, h => by
      cases h
      exact ⟨le_rfl, fun _ _ _ h => by simp at h⟩
  | first :: rest, graphSteps, counts, h => by
      unfold traverse at h
      obtain ⟨state, hsearch, h⟩ := bind_eq_ok.mp h
      obtain ⟨middle, hcount, h⟩ := bind_eq_ok.mp h
      obtain ⟨hle, hmarks⟩ := countPairs_ok hcount
      obtain ⟨hle', hpaths⟩ := traverse_ok h
      have hmarked : Marked edges first.2 state := by
        refine search_sound _ hsearch ⟨fun i hi => ?_, fun i hi => ?_⟩
        · by_cases heq : first.2 = i
          · rw [heq]
          · rw [List.getElem?_set_ne heq, List.getElem?_replicate] at hi
            split at hi
            · cases hi
            · cases hi
        · rw [List.mem_singleton.mp hi]
      refine ⟨hle.trans hle', fun hzero start next hsub hlt => ?_⟩
      cases hsub with
      | cons _ hsub => exact hpaths hzero start next hsub hlt
      | cons_cons _ hsub =>
          exact hmarked.reachable _ (hmarks (by omega) next
            (List.singleton_sublist.mp hsub) hlt)

end RbfSafe
