/-
What a valid log guarantees about each of its records.

`TransparencyLog::valid` replays the records against one growing
frontier. Its induction is on the records still to replay: the frontier
of the replay is in step with the leaves before them (`Tracks`), so
every record is checked against the batch root of its own prefix
(`replayRecords_spec`). The results are collected once, as fields of
`LogRecord`, and the provers use only those.
-/
import RbfSafe.Transparency.Log
import RbfSafe.Transparency.Proofs.Frontier

namespace RbfSafe

open Lib.Forest

variable (P : Platform)

/-- A verified checkpoint of a list of leaf ids. -/
structure CheckpointOf (identity : TransparencyLogIdentity)
    (leafIds : List Bytes) (checkpoint : TransparencyLogCheckpoint) : Prop where
  valid : checkpoint.valid P = true
  verified : verifyTransparencyLogCheckpoint P identity checkpoint = .ok ()
  treeSize : checkpoint.treeSize.toNat = leafIds.length
  rootHash : checkpoint.rootHash = transparencyMerkleRoot P leafIds

/-- What the replay has checked of the record at `index` of a log with
these leaf ids. -/
structure LogRecord (identity : TransparencyLogIdentity)
    (leafIds : List Bytes) (index : Nat) (record : TransparencyLogRecord) :
    Prop where
  valid : record.valid P = true
  logId : record.logId = identity.id
  sequence : record.sequence.toNat = index
  verified : verifyTransparencyLogCheckpoint P identity record.checkpoint
    = .ok ()
  treeSize : record.checkpoint.treeSize.toNat = index + 1
  rootHash : record.checkpoint.rootHash
    = transparencyMerkleRoot P (leafIds.take (index + 1))

variable {P}

/-- A leaf is appended only below the last size a 64-bit counter has. -/
theorem append_leaf_root {frontier : Frontier} {leafId : Bytes} {n : UInt64}
    (h : (transparencyAppendMerkleLeaf P frontier leafId n).1 ≠ []) :
    validSha256 leafId = true ∧ n.toNat + 1 < 2 ^ 64 := by
  rw [transparencyAppendMerkleLeaf] at h
  split at h
  · exact absurd rfl h
  · next hvalid =>
      refine ⟨by simpa using hvalid, ?_⟩
      by_contra hc
      have hzero : (0 : UInt8).toNat < 64 := by decide
      have hover := (overflow_iff (n := n) (toNat_levelSize hzero)).mpr (by
        rw [not_lt] at hc
        exact hc)
      rw [transparencyAppendMerkleSubtree] at h
      split at h
      · exact h rfl
      · rw [if_pos (Or.inr hover)] at h
        exact h rfl

theorem identity_valid {identity : TransparencyLogIdentity}
    (h : identity.valid P = true) : validSha256 identity.id = true := by
  simp only [TransparencyLogIdentity.valid, Bool.and_eq_true] at h
  exact h.1.1.1.1.2

theorem checkpoint_valid {checkpoint : TransparencyLogCheckpoint}
    (h : checkpoint.valid P = true) :
    validSha256 checkpoint.id = true ∧ validSha256 checkpoint.rootHash = true := by
  simp only [TransparencyLogCheckpoint.valid, Bool.and_eq_true] at h
  exact ⟨h.1.1.1.1.1.1.1.1.1.2, h.1.1.1.1.1.1.2⟩

theorem leaf_valid {leaf : TransparencyLogLeaf} (h : leaf.valid P = true) :
    validSha256 leaf.id = true := by
  simp only [TransparencyLogLeaf.valid, Bool.and_eq_true] at h
  exact h.1.1.1.2

/-- The parts of a valid record its checkpoint and leaf are bound by. -/
theorem record_valid {record : TransparencyLogRecord}
    (h : record.valid P = true) :
    record.leaf.valid P = true ∧ record.checkpoint.valid P = true ∧
      record.leaf.index = record.sequence ∧
      record.leaf.logId = record.logId ∧
      record.checkpoint.treeSize = record.sequence + 1 := by
  simp only [TransparencyLogRecord.valid, Bool.and_eq_true, beq_iff_eq] at h
  obtain ⟨⟨⟨⟨⟨⟨⟨-, hleaf⟩, hcheckpoint⟩, hindex⟩, hlogId⟩, -⟩, hsize⟩, -⟩ := h
  exact ⟨hleaf, hcheckpoint, hindex, hlogId, hsize⟩

/-- The checkpoint of a record is one of the leaves up to it. -/
theorem LogRecord.checkpointOf {identity : TransparencyLogIdentity}
    {leafIds : List Bytes} {index : Nat} {record : TransparencyLogRecord}
    (h : LogRecord P identity leafIds index record)
    (hindex : index < leafIds.length) :
    CheckpointOf P identity (leafIds.take (index + 1)) record.checkpoint where
  valid := (record_valid h.valid).2.1
  verified := h.verified
  treeSize := by
    rw [h.treeSize, List.length_take]
    omega
  rootHash := h.rootHash

/-- One round of the replay, and what it checks. -/
theorem replayRecord_spec {identity : TransparencyLogIdentity}
    {options : TransparencyLogLoadOptions} {before : List Bytes}
    {state state' : LogReplay} {record : TransparencyLogRecord}
    (htracks : Tracks P state.frontier before)
    (h : replayRecord P identity options before.length state record
      = some state') :
    Tracks P state'.frontier (before ++ [record.leaf.id]) ∧
      before.length + 1 < 2 ^ 64 ∧ validSha256 record.leaf.id = true ∧
      LogRecord P identity (before ++ [record.leaf.id]) before.length record := by
  rw [replayRecord] at h
  split at h
  · simp at h
  · next hchecks =>
      simp only [not_or, Bool.not_eq_true', Bool.not_eq_false, not_not]
        at hchecks
      obtain ⟨hvalid, hsequence, -, hlogId, -, hverified⟩ := hchecks
      split at h
      · simp at h
      · next total _ =>
          simp only at h
          split at h
          · simp at h
          · next hroot =>
              simp only [not_or, not_not, List.isEmpty_iff] at hroot
              obtain ⟨hne, hrootHash⟩ := hroot
              obtain ⟨hid, -⟩ := append_leaf_root hne
              have hlt : before.length < 2 ^ 64 := by
                rw [← hsequence]
                exact record.sequence.toNat_lt
              have hsize := (append_leaf_root hne).2
              rw [toNat_ofNat_length hlt] at hsize
              obtain ⟨frontier', hcall, htracks'⟩ := htracks.append_leaf hid hsize
              rw [hcall] at h hrootHash
              have hfrontier : state'.frontier = frontier' := by
                rw [Option.some.injEq] at h
                rw [← h]
              have hlen : (before ++ [record.leaf.id]).length
                  = before.length + 1 := by simp
              refine ⟨by rw [hfrontier]; exact htracks', hsize, hid,
                hvalid, hlogId, hsequence, hverified, ?_, ?_⟩
              · rw [(record_valid hvalid).2.2.2.2, UInt64.toNat_add, hsequence,
                  UInt64.toNat_one, Nat.mod_eq_of_lt hsize]
              · rw [hrootHash, ← hlen, List.take_length]
                exact htracks'.root (by simp) (by omega)

theorem replayRecords_nil {identity : TransparencyLogIdentity}
    {options : TransparencyLogLoadOptions} {index : Nat} {state : LogReplay} :
    replayRecords P identity options index state [] = some state := rfl

theorem replayRecords_cons {identity : TransparencyLogIdentity}
    {options : TransparencyLogLoadOptions} {index : Nat}
    {state state' : LogReplay} {record : TransparencyLogRecord}
    {rest : List TransparencyLogRecord}
    (h : replayRecords P identity options index state (record :: rest)
      = some state') :
    ∃ next, replayRecord P identity options index state record = some next ∧
      replayRecords P identity options (index + 1) next rest = some state' :=
  Option.bind_eq_some_iff.mp h

/-- Every record the replay goes through is checked against its own
prefix. -/
theorem replayRecords_spec {identity : TransparencyLogIdentity}
    {options : TransparencyLogLoadOptions} {state' : LogReplay}
    (records : List TransparencyLogRecord) :
    ∀ (before : List Bytes) (state : LogReplay),
      Tracks P state.frontier before → before.length < 2 ^ 64 →
      replayRecords P identity options before.length state records
        = some state' →
      let leafIds := before ++ records.map fun record => record.leaf.id
      Tracks P state'.frontier leafIds ∧ leafIds.length < 2 ^ 64 ∧
        (∀ record ∈ records, validSha256 record.leaf.id = true) ∧
        ∀ {i : Nat} {record : TransparencyLogRecord},
          records[i]? = some record →
          LogRecord P identity leafIds (before.length + i) record := by
  induction records with
  | nil =>
      intro before state htracks hlt h
      rw [replayRecords_nil, Option.some.injEq] at h
      rw [h] at htracks
      refine ⟨?_, ?_, ?_, ?_⟩
      · simpa using htracks
      · simpa using hlt
      · intro record hr
        cases hr
      · intro i record hi
        simp at hi
  | cons record rest ih =>
      intro before state htracks hlt h
      obtain ⟨next, hnext, hrest⟩ := replayRecords_cons h
      obtain ⟨htracks₁, hsize, hid, hrecord⟩ := replayRecord_spec htracks hnext
      have hlen : (before ++ [record.leaf.id]).length
          = before.length + 1 := by simp
      rw [← hlen] at hrest
      obtain ⟨htracks', hlt', hids, hrecords⟩ :=
        ih _ next htracks₁ (by omega) hrest
      have hjoin : before ++ [record.leaf.id]
            ++ rest.map (fun record => record.leaf.id)
          = before ++ (record :: rest).map (fun record => record.leaf.id) := by
        simp
      rw [hjoin] at htracks' hlt' hrecords
      refine ⟨htracks', hlt', ?_, ?_⟩
      · intro r hr
        rcases List.mem_cons.mp hr with rfl | hr
        · exact hid
        · exact hids r hr
      · intro i r hi
        cases i with
        | zero =>
            obtain rfl : record = r := by simpa using hi
            have htake : (before ++ (record :: rest).map
                (fun record => record.leaf.id)).take (before.length + 1)
                = before ++ [record.leaf.id] := by
              rw [← hjoin, ← hlen, List.take_left]
            refine { hrecord with rootHash := ?_ }
            rw [Nat.add_zero, htake, hrecord.rootHash, ← hlen,
              List.take_length]
        | succ i =>
            have hget : rest[i]? = some r := by simpa using hi
            have hr := hrecords hget
            rwa [hlen, Nat.add_assoc, Nat.add_comm 1 i] at hr

/-- **A valid log.** Its records are checked one by one, its leaf ids
are digests, its head is its last checkpoint and its frontier is the
counter of its leaves. -/
structure ValidLog (P : Platform) (log : TransparencyLog) : Prop where
  identity : log.identity.valid P = true
  size : log.records.length < 2 ^ 64
  leafIds : ∀ l ∈ log.leafIds, validSha256 l = true
  record : ∀ {i : Nat} {record : TransparencyLogRecord},
    log.records[i]? = some record →
    LogRecord P log.identity log.leafIds i record
  head : ∀ {last : TransparencyLogRecord}, log.records.getLast? = some last →
    log.currentCheckpointId = last.checkpoint.id ∧
      log.currentRootHash = last.checkpoint.rootHash
  frontier : Tracks P log.merkleFrontier log.leafIds

theorem length_leafIds (log : TransparencyLog) :
    log.leafIds.length = log.records.length := by
  simp [TransparencyLog.leafIds]

theorem valid_log {log : TransparencyLog} (h : log.valid P = true) :
    ValidLog P log := by
  rw [TransparencyLog.valid] at h
  split at h
  · simp at h
  · next hchecks =>
      simp only [Bool.or_eq_true, Bool.not_eq_true', not_or,
        Bool.not_eq_false, decide_eq_true_eq] at hchecks
      split at h
      · next hlast =>
          have hnil : log.records = [] := List.getLast?_eq_none_iff.mp hlast
          simp only [Bool.and_eq_true, List.all_eq_true, List.isEmpty_iff] at h
          have hids : log.leafIds = [] := by simp [TransparencyLog.leafIds, hnil]
          refine ⟨hchecks.1.2, by simp [hnil], by simp [hids], ?_, ?_, ?_⟩
          · intro i record hi
            simp [hnil] at hi
          · intro last hl
            simp [hlast] at hl
          · have hvacant : slots log.merkleFrontier = List.replicate 64 none := by
              refine List.eq_replicate_iff.mpr ⟨length_slots _, ?_⟩
              intro x hx
              obtain ⟨s, hs, rfl⟩ := List.mem_map.mp hx
              rw [h.2 s hs, slot_nil]
            rw [hids]
            exact hvacant
      · next last hlast =>
          split at h
          · simp at h
          · next state hreplay =>
              simp only [Bool.and_eq_true, beq_iff_eq] at h
              obtain ⟨htracks, hsize, hids, hrecords⟩ :=
                replayRecords_spec log.records [] {} (tracks_empty P)
                  (by simp) hreplay
              rw [List.nil_append] at htracks hsize hrecords
              refine ⟨hchecks.1.2, by simpa using hsize, ?_, ?_, ?_, ?_⟩
              · intro l hl
                obtain ⟨record, hr, rfl⟩ := List.mem_map.mp hl
                exact hids record hr
              · intro i record hi
                have hr := hrecords hi
                rwa [List.length_nil, Nat.zero_add] at hr
              · intro last' hl
                rw [hlast, Option.some.injEq] at hl
                rw [← hl]
                exact ⟨h.1.1, h.1.2⟩
              · rw [h.2]
                exact htracks

end RbfSafe
