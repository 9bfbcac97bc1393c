/-
The audit of checkpoint gossip: are all the checkpoints that were
gossiped views of one log?

# The passes

The messages are verified and grouped by the checkpoint they are about,
and the groups sorted by tree size. Two checkpoints of one size are a
conflict. A consistency proof that names a listed checkpoint is checked:
it is an edge of a graph over the groups if it verifies, a conflict if
not. Each group is then the start of a search along the edges, and the
larger groups it reaches and does not reach are counted.

# Containers

`groups_by_id` is a map and kept as a list sorted by key. A group is its
index in the sorted vector, and the edges are a vector of vectors of
indices, as in the code. The search ends because every round takes one
index from the queue and every push marks a vacant one
(`SearchState.room`); no other bound is needed.
-/
import RbfSafe.Lib.Sorting
import RbfSafe.Witness.Verify

namespace RbfSafe

open Lib.Sorting

/-- `CheckpointGroup`. -/
structure CheckpointGroup where
  checkpoint : TransparencyLogCheckpoint
  gossip : List TransparencyCheckpointGossip

/-- `group.gossip.front()->id`; a group is never empty. -/
def CheckpointGroup.frontId (group : CheckpointGroup) : Bytes :=
  match group.gossip with
  | [] => []
  | message :: _ => message.id

section
variable (P : Platform)

-- === grouping

/-- `groups_by_id[…]`, and what is done with the group. -/
def addToGroup (message : TransparencyCheckpointGossip) :
    List (Bytes × CheckpointGroup) → List (Bytes × CheckpointGroup)
  | [] => [(message.checkpoint.id, ⟨message.checkpoint, [message]⟩)]
  | (id, group) :: rest =>
      if message.checkpoint.id = id then
        (id, ⟨message.checkpoint, group.gossip ++ [message]⟩) :: rest
      else if message.checkpoint.id < id then
        (message.checkpoint.id, ⟨message.checkpoint, [message]⟩)
          :: (id, group) :: rest
      else (id, group) :: addToGroup message rest

/-- The loop over the messages, with the ids seen so far. -/
def collectGroups (identity : TransparencyLogIdentity)
    (trustBundle : ServiceTrustBundle)
    (options : TransparencyGossipAuditOptions) :
    List Bytes → List (Bytes × CheckpointGroup) →
    List TransparencyCheckpointGossip → Result (List (Bytes × CheckpointGroup))
  | _, groups, [] => .ok groups
  | gossipIds, groups, message :: rest =>
      if options.cancelled then
        failure .cancelled "transparency gossip audit was cancelled"
      else do
      let _ ← verifyTransparencyCheckpointGossip P identity message trustBundle
      if message.id ∈ gossipIds then
        failure .invalidArgument
          "transparency gossip audit contains a duplicate message" message.id
      else if (addToGroup message groups).length
          > options.maximumUniqueCheckpoints then
        failure .resourceLimit
          "transparency gossip unique checkpoint count exceeds configured limit"
      else
        collectGroups identity trustBundle options (message.id :: gossipIds)
          (addToGroup message groups) rest

/-- `std::sort` of the messages of a group. -/
def sortGossip (gossip : List TransparencyCheckpointGossip) :
    List TransparencyCheckpointGossip :=
  sort (·.id) gossip

/-- `std::tie(…) < std::tie(…)` on two groups. -/
def groupLt (first second : CheckpointGroup) : Bool :=
  decide (first.checkpoint.treeSize < second.checkpoint.treeSize)
    || (first.checkpoint.treeSize == second.checkpoint.treeSize
      && decide (first.checkpoint.id < second.checkpoint.id))

/-- The vector of groups, sorted. -/
def sortGroups (groupsById : List (Bytes × CheckpointGroup)) :
    List CheckpointGroup :=
  (groupsById.map fun entry =>
    CheckpointGroup.mk entry.2.checkpoint (sortGossip entry.2.gossip)).mergeSort
    fun first second => !groupLt second first

-- === same-size pairs

/-- The conflict of two checkpoints of one size. -/
def sameSizeConflict (first second : CheckpointGroup) :
    TransparencyGossipConflict :=
  let conflict : TransparencyGossipConflict :=
    { type := .sameSizeEquivocation
      firstGossipId := first.frontId
      secondGossipId := second.frontId
      firstCheckpointId := first.checkpoint.id
      secondCheckpointId := second.checkpoint.id
      firstTreeSize := first.checkpoint.treeSize
      secondTreeSize := second.checkpoint.treeSize }
  { conflict with id := transparencyGossipConflictIdentity P conflict }

/-- The inner loop of the same-size pass, up to its `break`. -/
def sameSizeInner (options : TransparencyGossipAuditOptions)
    (first : CheckpointGroup) (pairChecks : Nat)
    (conflicts : List TransparencyGossipConflict) :
    List CheckpointGroup → Result (Nat × List TransparencyGossipConflict)
  | [] => .ok (pairChecks, conflicts)
  | second :: rest =>
      if first.checkpoint.treeSize ≠ second.checkpoint.treeSize then
        .ok (pairChecks, conflicts)
      else if pairChecks + 1 > options.maximumPairChecks then
        failure .resourceLimit
          "transparency gossip checkpoint-pair checks exceed configured limit"
      else
        sameSizeInner options first (pairChecks + 1)
          (conflicts ++ [sameSizeConflict P first second]) rest

/-- The same-size pass. -/
def sameSizePass (options : TransparencyGossipAuditOptions) (pairChecks : Nat)
    (conflicts : List TransparencyGossipConflict) :
    List CheckpointGroup → Result (Nat × List TransparencyGossipConflict)
  | [] => .ok (pairChecks, conflicts)
  | first :: rest => do
      let (pairChecks, conflicts) ← sameSizeInner P options first pairChecks
        conflicts rest
      sameSizePass options pairChecks conflicts rest

-- === proof edges

/-- The conflict of a proof that does not verify. -/
def invalidProofConflict (old current : CheckpointGroup)
    (message : TransparencyCheckpointGossip)
    (proof : TransparencyCompactConsistencyProof) :
    TransparencyGossipConflict :=
  let conflict : TransparencyGossipConflict :=
    { type := .invalidConsistencyProof
      firstGossipId := old.frontId
      secondGossipId := message.id
      firstCheckpointId := old.checkpoint.id
      secondCheckpointId := current.checkpoint.id
      firstTreeSize := old.checkpoint.treeSize
      secondTreeSize := current.checkpoint.treeSize
      consistencyProofId := proof.id }
  { conflict with id := transparencyGossipConflictIdentity P conflict }

/-- `group_index.find`: a group and its index, by checkpoint id. -/
def findGroup (groups : List CheckpointGroup) (id : Bytes) :
    Option (CheckpointGroup × Nat) :=
  groups.zipIdx.find? fun entry => entry.1.checkpoint.id == id

/-- The outgoing edges of every group, and the conflicts. -/
structure ProofPass where
  edges : List (List Nat)
  conflicts : List TransparencyGossipConflict

/-- The proof pass at one message. -/
def proofStep (identity : TransparencyLogIdentity)
    (groups : List CheckpointGroup) (current : CheckpointGroup × Nat)
    (pass : ProofPass) (message : TransparencyCheckpointGossip) : ProofPass :=
  match message.consistencyProof with
  | none => pass
  | some proof =>
      match findGroup groups proof.oldCheckpointId with
      | none => pass
      | some old =>
          match verifyTransparencyCompactConsistency P identity old.1.checkpoint
              current.1.checkpoint proof with
          | .ok _ =>
              { pass with
                edges := pass.edges.modify old.2 fun out => out ++ [current.2] }
          | .error _ =>
              { pass with
                conflicts := pass.conflicts
                  ++ [invalidProofConflict P old.1 current.1 message proof] }

/-- The proof pass. -/
def proofPass (identity : TransparencyLogIdentity)
    (groups : List CheckpointGroup)
    (conflicts : List TransparencyGossipConflict) : ProofPass :=
  groups.zipIdx.foldl (fun pass current =>
      current.1.gossip.foldl (proofStep P identity groups current) pass)
    ⟨List.replicate groups.length [], conflicts⟩

/-- `std::sort` and `std::unique` on the outgoing edges. -/
def sortEdges (outgoing : List Nat) : List Nat :=
  sortUnique id outgoing

-- === search

/-- The search from one group: the steps taken from all starts so far,
the marks and the queue. -/
structure SearchState where
  graphSteps : Nat
  reachable : List Bool
  pending : List Nat

/-- What is left to queue or to take from the queue. -/
def SearchState.room (state : SearchState) : Nat :=
  state.reachable.count false + state.pending.length

/-- The loop over the edges of the group taken from the queue. -/
def relaxEdges (options : TransparencyGossipAuditOptions)
    (state : SearchState) : List Nat → Result SearchState
  | [] => .ok state
  | next :: rest =>
      if state.graphSteps + 1 > options.maximumGraphSteps then
        failure .resourceLimit
          "transparency gossip graph traversal exceeds configured limit"
      else if state.reachable[next]? = some false then
        relaxEdges options
          { graphSteps := state.graphSteps + 1
            reachable := state.reachable.set next true
            pending := state.pending ++ [next] } rest
      else
        relaxEdges options
          { state with graphSteps := state.graphSteps + 1 } rest

omit P in
/-- Marking an index takes one vacant mark. -/
theorem count_false_set {marks : List Bool} {next : Nat}
    (h : marks[next]? = some false) :
    (marks.set next true).count false + 1 = marks.count false := by
  induction marks generalizing next with
  | nil => simp at h
  | cons mark marks ih =>
      cases next with
      | zero =>
          have hmark : mark = false := by simpa using h
          simp [hmark]
      | succ next =>
          have hrest := ih (by simpa using h)
          rw [List.set_cons_succ, List.count_cons, List.count_cons]
          omega

omit P in
/-- The edge loop leaves the room as it is. -/
theorem room_relaxEdges {options : TransparencyGossipAuditOptions}
    {state' : SearchState} : ∀ {outgoing : List Nat} {state : SearchState},
      relaxEdges options state outgoing = .ok state' →
      state'.room = state.room
  | [], state, h => by
      cases h
      rfl
  | next :: rest, state, h => by
      rw [relaxEdges, ite_failure_eq_ok] at h
      have h := h.2
      split at h
      · next hvacant =>
          rw [room_relaxEdges h]
          have hcount := count_false_set hvacant
          simp only [SearchState.room, List.length_append,
            List.length_singleton]
          omega
      · rw [room_relaxEdges h]
        rfl

set_option linter.unusedVariables false in
/-- The loop over the queue. -/
def search (options : TransparencyGossipAuditOptions) (edges : List (List Nat))
    (state : SearchState) : Result SearchState :=
  match hpending : state.pending with
  | [] => .ok state
  | current :: pending =>
      if options.cancelled then
        failure .cancelled "transparency gossip audit was cancelled"
      else match hrelax : relaxEdges options { state with pending := pending }
          (edges.getD current []) with
      | .error e => .error e
      | .ok next => search options edges next
termination_by state.room
decreasing_by
  rw [room_relaxEdges hrelax]
  simp only [SearchState.room, hpending, List.length_cons]
  omega

/-- The pair counters. -/
structure PairCounts where
  pairChecks : Nat
  linked : Nat := 0
  unlinked : Nat := 0

/-- The loop over the groups after the start. -/
def countPairs (options : TransparencyGossipAuditOptions)
    (start : CheckpointGroup) (reachable : List Bool) (counts : PairCounts) :
    List (CheckpointGroup × Nat) → Result PairCounts
  | [] => .ok counts
  | next :: rest =>
      if start.checkpoint.treeSize ≥ next.1.checkpoint.treeSize then
        countPairs options start reachable counts rest
      else if counts.pairChecks + 1 > options.maximumPairChecks then
        failure .resourceLimit
          "transparency gossip checkpoint-pair checks exceed configured limit"
      else if reachable.getD next.2 false then
        countPairs options start reachable
          { counts with
            pairChecks := counts.pairChecks + 1
            linked := counts.linked + 1 } rest
      else
        countPairs options start reachable
          { counts with
            pairChecks := counts.pairChecks + 1
            unlinked := counts.unlinked + 1 } rest

/-- The loop over the starts. -/
def traverse (options : TransparencyGossipAuditOptions)
    (edges : List (List Nat)) (graphSteps : Nat) (counts : PairCounts) :
    List (CheckpointGroup × Nat) → Result PairCounts
  | [] => .ok counts
  | start :: rest => do
      let state ← search options edges
        { graphSteps := graphSteps
          reachable := (List.replicate edges.length false).set start.2 true
          pending := [start.2] }
      let counts ← countPairs options start.1 state.reachable counts rest
      traverse options edges state.graphSteps counts rest

-- === report

/-- `std::sort` and `std::unique` on the conflicts. -/
def sortConflicts (conflicts : List TransparencyGossipConflict) :
    List TransparencyGossipConflict :=
  sortUnique (·.id) conflicts

/-- The report of the passes. -/
def auditReport (identity : TransparencyLogIdentity)
    (trustBundle : ServiceTrustBundle) (gossipCount checkpointCount : Nat)
    (conflicts : List TransparencyGossipConflict) (counts : PairCounts) :
    TransparencyGossipAuditReport :=
  let report : TransparencyGossipAuditReport :=
    { logId := identity.id
      trustBundleId := trustBundle.id
      trustBundleSequence := trustBundle.sequence
      status := gossipStatus (sortConflicts conflicts) counts.unlinked
      authenticatedGossipCount := gossipCount
      uniqueCheckpointCount := checkpointCount
      linkedCheckpointPairs := counts.linked
      unlinkedCheckpointPairs := counts.unlinked
      conflicts := sortConflicts conflicts }
  { report with id := transparencyGossipAuditReportIdentity P report }

/-- The audit from the sorted groups on. -/
def auditGroups (identity : TransparencyLogIdentity)
    (trustBundle : ServiceTrustBundle)
    (options : TransparencyGossipAuditOptions) (gossipCount : Nat)
    (groups : List CheckpointGroup) : Result TransparencyGossipAuditReport := do
  let (pairChecks, conflicts) ← sameSizePass P options 0 [] groups
  let pass := proofPass P identity groups conflicts
  let counts ← traverse options (pass.edges.map sortEdges) 0
    { pairChecks := pairChecks } groups.zipIdx
  let report := auditReport P identity trustBundle gossipCount groups.length
    pass.conflicts counts
  if !report.valid P then
    failure .internalError
      "constructed transparency gossip audit report is invalid"
  else .ok report

/-- `audit_transparency_checkpoint_gossip`. -/
def auditTransparencyCheckpointGossip (identity : TransparencyLogIdentity)
    (gossip : List TransparencyCheckpointGossip)
    (trustBundle : ServiceTrustBundle)
    (options : TransparencyGossipAuditOptions) :
    Result TransparencyGossipAuditReport :=
  if !identity.valid P || !trustBundle.valid P
      || options.maximumGossipMessages == 0
      || options.maximumUniqueCheckpoints == 0
      || options.maximumPairChecks == 0 || options.maximumGraphSteps == 0 then
    failure .invalidArgument
      "transparency gossip audit input or options are invalid"
  else if gossip.length > options.maximumGossipMessages then
    failure .resourceLimit
      "transparency gossip message count exceeds configured limit"
  else if options.cancelled then
    failure .cancelled "transparency gossip audit was cancelled"
  else do
  let groupsById ← collectGroups P identity trustBundle options [] [] gossip
  auditGroups P identity trustBundle options gossip.length
    (sortGroups groupsById)

end

end RbfSafe
