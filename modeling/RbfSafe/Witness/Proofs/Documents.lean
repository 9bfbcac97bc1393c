/-
The documents of checkpoints and conflicts tell their records apart.

Each lists every field but the id, so a record is determined by its id
and its document (`checkpoint_ext`, `conflict_ext`).
-/
import RbfSafe.Core.Proofs.Documents
import RbfSafe.Witness.Types

namespace RbfSafe

open Json

/-- What the identity of a checkpoint is the digest of. -/
def checkpointDocument (L : Libc) (c : TransparencyLogCheckpoint) : Bytes :=
  ascii "rbfsafe-transparency-log-checkpoint-identity-v1\n"
    ++ (transparencyCheckpointJson c false true).dump L false 0

/-- The fields of a checkpoint in its document. -/
def logCheckpointFields (c : TransparencyLogCheckpoint) :
    List (String × Json) :=
  [("algorithm", num c.algorithm.toNat),
    ("log_id", string c.logId),
    ("previous_checkpoint_id", string c.previousCheckpointId),
    ("root_hash", string c.rootHash),
    ("signer_key_id", string c.signerKeyId),
    ("signer_service_id", string c.signerServiceId),
    ("storage_schema", uint c.storageSchema.toNat),
    ("tree_size", uint c.treeSize.toNat),
    ("authentication_tag", string c.authenticationTag)]

theorem checkpointJson_eq (c : TransparencyLogCheckpoint) :
    transparencyCheckpointJson c false true
      = object (obj (logCheckpointFields c)) := by
  unfold transparencyCheckpointJson withField
  rw [if_neg Bool.false_ne_true, if_pos rfl, emplace_obj]
  rfl

/-- The fields of a conflict in its document. -/
def gossipConflictFields (c : TransparencyGossipConflict) :
    List (String × Json) :=
  [("consistency_proof_id", string c.consistencyProofId),
    ("first_checkpoint_id", string c.firstCheckpointId),
    ("first_gossip_id", string c.firstGossipId),
    ("first_tree_size", uint c.firstTreeSize.toNat),
    ("second_checkpoint_id", string c.secondCheckpointId),
    ("second_gossip_id", string c.secondGossipId),
    ("second_tree_size", uint c.secondTreeSize.toNat),
    ("type", num c.type.toNat)]

theorem conflictJson_eq (c : TransparencyGossipConflict) :
    gossipConflictJson c false = object (obj (gossipConflictFields c)) := rfl

theorem algorithm_small (a : ArtifactAuthenticationAlgorithm) :
    a.toNat < 2 ^ 53 := by
  cases a <;> decide

theorem algorithm_inj {a b : ArtifactAuthenticationAlgorithm}
    (h : a.toNat = b.toNat) : a = b := by
  cases a <;> cases b <;> first | rfl | cases h

theorem conflictType_small (t : TransparencyGossipConflictType) :
    t.toNat < 2 ^ 53 := by
  cases t <;> decide

theorem conflictType_inj {s t : TransparencyGossipConflictType}
    (h : s.toNat = t.toNat) : s = t := by
  cases s <;> cases t <;> first | rfl | cases h

theorem fits_logCheckpointFields (c : TransparencyLogCheckpoint) :
    ∀ f ∈ logCheckpointFields c, Fits 64 f.2 := by
  intro f hf
  simp only [logCheckpointFields, List.mem_cons, List.not_mem_nil, or_false] at hf
  rcases hf with rfl | rfl | rfl | rfl | rfl | rfl | rfl | rfl | rfl
  · exact fits_num (algorithm_small _)
  all_goals exact .string _

theorem fits_gossipConflictFields (c : TransparencyGossipConflict) :
    ∀ f ∈ gossipConflictFields c, Fits 64 f.2 := by
  intro f hf
  simp only [gossipConflictFields, List.mem_cons, List.not_mem_nil, or_false] at hf
  rcases hf with rfl | rfl | rfl | rfl | rfl | rfl | rfl | rfl
  on_goal 8 => exact fits_num (conflictType_small _)
  all_goals exact .string _

/-- A checkpoint is determined by its id and its document. -/
theorem checkpoint_ext (L : Libc) {c c' : TransparencyLogCheckpoint}
    (hid : c.id = c'.id)
    (hdocument : checkpointDocument L c = checkpointDocument L c') : c = c' := by
  have hdump := List.append_cancel_left hdocument
  rw [checkpointJson_eq, checkpointJson_eq] at hdump
  have hkeys : ((logCheckpointFields c).map fun f => ascii f.1).Nodup := by
    show [ascii "algorithm", ascii "log_id", ascii "previous_checkpoint_id",
      ascii "root_hash", ascii "signer_key_id", ascii "signer_service_id",
      ascii "storage_schema", ascii "tree_size",
      ascii "authentication_tag"].Nodup
    decide
  have hsame : (logCheckpointFields c).map (·.1) = (logCheckpointFields c').map (·.1) := rfl
  have hvalues := values_of_dump_eq L hsame hkeys (fits_logCheckpointFields c)
    (fits_logCheckpointFields c') hdump
  simp only [logCheckpointFields, List.cons.injEq, Prod.mk.injEq, true_and,
    and_true, Json.string.injEq] at hvalues
  obtain ⟨halgorithm, hlog, hprevious, hroot, hkey, hservice, hschema, hsize,
    htag⟩ := hvalues
  have halgorithm := algorithm_inj (num_inj (algorithm_small _)
    (algorithm_small _) halgorithm)
  have hschema := UInt32.toNat_inj.mp (uint_inj hschema)
  have hsize := UInt64.toNat_inj.mp (uint_inj hsize)
  cases c
  cases c'
  simp_all

/-- So is a conflict. -/
theorem conflict_ext (L : Libc) {c c' : TransparencyGossipConflict}
    (hid : c.id = c'.id)
    (hdocument : gossipConflictDocument L c = gossipConflictDocument L c') :
    c = c' := by
  have hdump := List.append_cancel_left hdocument
  rw [conflictJson_eq, conflictJson_eq] at hdump
  have hkeys : ((gossipConflictFields c).map fun f => ascii f.1).Nodup := by
    show [ascii "consistency_proof_id", ascii "first_checkpoint_id",
      ascii "first_gossip_id", ascii "first_tree_size",
      ascii "second_checkpoint_id", ascii "second_gossip_id",
      ascii "second_tree_size", ascii "type"].Nodup
    decide
  have hsame : (gossipConflictFields c).map (·.1) = (gossipConflictFields c').map (·.1) := rfl
  have hvalues := values_of_dump_eq L hsame hkeys (fits_gossipConflictFields c)
    (fits_gossipConflictFields c') hdump
  simp only [gossipConflictFields, List.cons.injEq, Prod.mk.injEq, true_and,
    and_true, Json.string.injEq] at hvalues
  obtain ⟨hproof, hfirst, hfirstGossip, hfirstSize, hsecond, hsecondGossip,
    hsecondSize, htype⟩ := hvalues
  have htype := conflictType_inj (num_inj (conflictType_small _)
    (conflictType_small _) htype)
  have hfirstSize := UInt64.toNat_inj.mp (uint_inj hfirstSize)
  have hsecondSize := UInt64.toNat_inj.mp (uint_inj hsecondSize)
  cases c
  cases c'
  simp_all

end RbfSafe
