/-
The two verifications of a trust checkpoint agree.

The identity module verifies a checkpoint against the history it is the
head of: it sorts the signatures, rejects a signer that comes twice,
verifies each signature, assembles the checkpoint again and compares
ids. The execution ledger verifies it against a history that may have
grown: it looks the head up and verifies the signatures as they come.

Both come down to the same facts (`Accepted`). A valid checkpoint keeps
its signatures strictly sorted, so sorting is the identity and no signer
comes twice; what a signature signs and what the checkpoint id digests
do not depend on the parts that assembling it again fills in last.
-/
import RbfSafe.Identity.Checkpoint
import RbfSafe.Identity.Proofs.History

namespace RbfSafe

-- === the order

theorem signerBefore_trans {s₁ k₁ s₂ k₂ s₃ k₃ : Bytes}
    (h : signerBefore s₁ k₁ s₂ k₂ = true) (h' : signerBefore s₂ k₂ s₃ k₃ = true) :
    signerBefore s₁ k₁ s₃ k₃ = true := by
  unfold signerBefore at h h' ⊢
  by_cases h₁ : s₁ = s₂
  · rw [if_pos h₁, decide_eq_true_eq] at h
    by_cases h₂ : s₂ = s₃
    · rw [if_pos h₂, decide_eq_true_eq] at h'
      rw [if_pos (h₁.trans h₂), decide_eq_true_eq]
      exact List.lt_trans h h'
    · rw [if_neg h₂, decide_eq_true_eq] at h'
      rw [h₁, if_neg h₂, decide_eq_true_eq]
      exact h'
  · rw [if_neg h₁, decide_eq_true_eq] at h
    by_cases h₂ : s₂ = s₃
    · rw [← h₂, if_neg h₁, decide_eq_true_eq]
      exact h
    · rw [if_neg h₂, decide_eq_true_eq] at h'
      have hlt := List.lt_trans h h'
      have hne : s₁ ≠ s₃ := by
        rintro rfl
        exact List.lt_irrefl _ hlt
      rw [if_neg hne, decide_eq_true_eq]
      exact hlt

theorem signerBefore_asymm {s k s' k' : Bytes}
    (h : signerBefore s k s' k' = true) : signerBefore s' k' s k = false := by
  unfold signerBefore at h ⊢
  by_cases hs : s = s'
  · rw [if_pos hs, decide_eq_true_eq] at h
    rw [if_pos hs.symm, decide_eq_false_iff_not]
    exact List.lt_asymm h
  · rw [if_neg hs, decide_eq_true_eq] at h
    rw [if_neg (Ne.symm hs), decide_eq_false_iff_not]
    exact List.lt_asymm h

/-- Neighbours in strict order make the list strictly sorted. -/
theorem pairwise_of_strictlyOrdered {α : Type} {service key : α → Bytes} :
    ∀ {l : List α}, strictlyOrdered service key l = true →
    l.Pairwise fun a b =>
      signerBefore (service a) (key a) (service b) (key b) = true := by
  intro l h
  have : Trans
      (fun a b : α => signerBefore (service a) (key a) (service b) (key b) = true)
      (fun a b => signerBefore (service a) (key a) (service b) (key b) = true)
      (fun a b => signerBefore (service a) (key a) (service b) (key b) = true) :=
    ⟨signerBefore_trans⟩
  rw [← List.isChain_iff_pairwise]
  induction l with
  | nil => exact List.isChain_nil
  | cons a l ih =>
      cases l with
      | nil => exact List.isChain_singleton a
      | cons b l =>
          rw [strictlyOrdered, Bool.and_eq_true] at h
          refine List.isChain_cons_cons.mpr ⟨?_, ih h.2⟩
          have hstep := h.1
          simp only [Bool.not_eq_true', Bool.or_eq_false_iff, decide_eq_false_iff_not,
            Bool.and_eq_false_iff, beq_eq_false_iff_ne, Bool.not_eq_false',
            decide_eq_true_eq] at hstep
          unfold signerBefore
          by_cases hs : service a = service b
          · rw [if_pos hs, decide_eq_true_eq]
            exact hstep.2.resolve_left fun hne => hne hs
          · rw [if_neg hs, decide_eq_true_eq]
            by_contra hlt
            exact hs (List.le_antisymm (List.not_lt.mp hstep.1) (List.not_lt.mp hlt))

/-- Sorting leaves the signatures of a valid checkpoint as they are. -/
theorem mergeSort_signatures {signatures : List ServiceTrustCheckpointSignature}
    (h : strictlyOrdered ServiceTrustCheckpointSignature.signerServiceId
      ServiceTrustCheckpointSignature.signerKeyId signatures = true) :
    signatures.mergeSort signatureBefore = signatures := by
  apply List.mergeSort_of_pairwise
  refine (pairwise_of_strictlyOrdered h).imp ?_
  intro a b hab
  rw [signatureBefore, signerBefore_asymm hab]
  rfl

-- === the signatures

section
variable {P : Platform} {checkpoint : ServiceTrustCheckpoint}
  {headBundle : ServiceTrustBundle}

/-- The loop of the ledger verifies each signature as the identity
module does. -/
theorem verifyHistoricalSignatures_iff :
    ∀ {signatures : List ServiceTrustCheckpointSignature},
    signatures.all validServiceTrustCheckpointSignature = true →
    (verifyHistoricalSignatures P checkpoint headBundle signatures = .ok () ↔
      ∀ s ∈ signatures, verifyCheckpointSignature P checkpoint s headBundle = .ok ())
  | [], _ => by simp [verifyHistoricalSignatures]
  | s :: signatures, h => by
      rw [List.all_cons, Bool.and_eq_true] at h
      rw [List.forall_mem_cons, ← verifyHistoricalSignatures_iff h.2,
        verifyHistoricalSignatures, verifyCheckpointSignature, h.1]
      simp only [Bool.not_true, Bool.false_eq_true, if_false]
      cases headBundle.key P s.signerServiceId s.signerKeyId with
      | error e => simp
      | ok found =>
          cases found with
          | none => simp
          | some key =>
              simp only [ok_bind, ite_failure_eq_ok, and_assoc, and_congr_right_iff]
              intro _
              cases decodeHex s.authenticationTag kEd25519SignatureBytes with
              | error e => simp
              | ok decoded => rw [ok_bind, ok_bind, check_eq_ok]

/-- In a sorted list no signer comes twice: the loop of the identity
module comes down to its signatures. -/
theorem verifySignatures_iff :
    ∀ {signatures : List ServiceTrustCheckpointSignature}
    {previous : Option ServiceTrustCheckpointSignature},
    (previous.toList ++ signatures).Pairwise (fun a b => signerBefore
      a.signerServiceId a.signerKeyId b.signerServiceId b.signerKeyId = true) →
    (verifySignatures P checkpoint headBundle previous signatures = .ok () ↔
      ∀ s ∈ signatures, verifyCheckpointSignature P checkpoint s headBundle = .ok ())
  | [], previous, _ => by simp [verifySignatures]
  | s :: signatures, previous, h => by
      have hnew : (previous.any fun p => p.signerServiceId == s.signerServiceId
          && p.signerKeyId == s.signerKeyId) = false := by
        cases previous with
        | none => rfl
        | some p =>
            have hps := (List.pairwise_cons.mp h).1 s List.mem_cons_self
            rw [Option.any_some, Bool.and_eq_false_iff]
            by_contra hsame
            simp only [not_or, Bool.not_eq_false, beq_iff_eq] at hsame
            rw [hsame.1, hsame.2] at hps
            have hirrefl := signerBefore_asymm hps
            rw [hps] at hirrefl
            cases hirrefl
      have hrest : ((some s).toList ++ signatures).Pairwise (fun a b => signerBefore
          a.signerServiceId a.signerKeyId b.signerServiceId b.signerKeyId = true) :=
        (List.pairwise_append.mp h).2.1
      rw [List.forall_mem_cons, ← verifySignatures_iff hrest, verifySignatures,
        hnew]
      simp only [Bool.false_eq_true, if_false, check_eq_ok]

end

-- === acceptance

section
variable (P : Platform)

/-- What either verification comes down to: a valid checkpoint of this
head, signed as the policy of the head asks. -/
structure Accepted (rootBundleId : Bytes) (bundle : ServiceTrustBundle)
    (record : ServiceTrustRotationRecord) (c : ServiceTrustCheckpoint) :
    Prop where
  valid : c.valid P = true
  root : c.rootBundleId = rootBundleId
  sequence : c.headSequence = record.sequence
  recordId : c.headRecordId = record.id
  bundleId : c.headBundleId = bundle.id
  signed : ∀ s ∈ c.signatures, verifyCheckpointSignature P c s bundle = .ok ()
  policy : satisfiesPolicy bundle.rotationPolicy
    (c.signatures.map fun s => s.signerServiceId) = true

variable {P}

/-- The checks of `ServiceTrustCheckpoint::valid` the verifications use. -/
theorem trustCheckpoint_valid {c : ServiceTrustCheckpoint}
    (h : c.valid P = true) :
    c.storageSchema = 1 ∧ validSha256 c.id = true ∧ c.headSequence ≠ 0 ∧
      c.signatures.isEmpty = false ∧
      c.signatures.all validServiceTrustCheckpointSignature = true ∧
      strictlyOrdered ServiceTrustCheckpointSignature.signerServiceId
        ServiceTrustCheckpointSignature.signerKeyId c.signatures = true ∧
      serviceTrustCheckpointIdentity P c = c.id := by
  rw [ServiceTrustCheckpoint.valid] at h
  simp only [Bool.and_eq_true, beq_iff_eq, bne_iff_ne, Bool.not_eq_true'] at h
  obtain ⟨⟨⟨⟨⟨⟨⟨⟨⟨hschema, hid⟩, -⟩, -⟩, hsequence⟩, -⟩, hne⟩, hall⟩, hordered⟩,
    hidentity⟩ := h
  exact ⟨hschema, hid, hsequence, hne, hall, hordered, hidentity⟩

/-- Assembling a valid checkpoint again gives it back, exactly if its
signatures verify and meet the policy. -/
theorem assemble_iff {history : ServiceTrustHistory} {bundle : ServiceTrustBundle}
    {record : ServiceTrustRotationRecord} {c c' : ServiceTrustCheckpoint}
    (hhistory : history.valid P = true)
    (hbundle : history.bundles.getLast? = some bundle)
    (hrecord : history.records.getLast? = some record)
    (hvalid : c.valid P = true) (hlimit : c.signatures.length ≤ 100000)
    (hroot : c.rootBundleId = history.rootBundleId)
    (hheadBundle : c.headBundleId = history.currentBundleId)
    (hsequence : c.headSequence = bundle.sequence)
    (hheadRecord : c.headRecordId = record.id) :
    assembleServiceTrustCheckpoint P history c.signatures = .ok c' ↔
      c' = c ∧ (∀ s ∈ c.signatures, verifyCheckpointSignature P c s bundle = .ok ())
        ∧ satisfiesPolicy bundle.rotationPolicy
          (c.signatures.map fun s => s.signerServiceId) = true := by
  obtain ⟨hschema, -, -, hne, -, hordered, hidentity⟩ := trustCheckpoint_valid hvalid
  have hcurrent : history.currentBundle P = .ok bundle := by
    rw [ServiceTrustHistory.currentBundle, hhistory, hbundle]
  -- what the assembly starts from, and what it returns
  have hdraft : ∀ s, verifyCheckpointSignature P
      { rootBundleId := history.rootBundleId
        headBundleId := history.currentBundleId
        headSequence := bundle.sequence
        headRecordId := record.id } s bundle
      = verifyCheckpointSignature P c s bundle := by
    intro s
    rw [← hroot, ← hheadBundle, ← hsequence, ← hheadRecord]
    rfl
  have hfull : ({ rootBundleId := history.rootBundleId
                  headBundleId := history.currentBundleId
                  headSequence := bundle.sequence
                  headRecordId := record.id
                  signatures := c.signatures
                  id := c.id } : ServiceTrustCheckpoint) = c := by
    rw [← hroot, ← hheadBundle, ← hsequence, ← hheadRecord, ← hschema]
  have hid : serviceTrustCheckpointIdentity P
      { rootBundleId := history.rootBundleId
        headBundleId := history.currentBundleId
        headSequence := bundle.sequence
        headRecordId := record.id
        signatures := c.signatures } = c.id := by
    rw [← hidentity, ← hroot, ← hheadBundle, ← hsequence, ← hheadRecord]
    unfold serviceTrustCheckpointIdentity checkpointPayload
    rw [hschema]
  have hsorted := mergeSort_signatures hordered
  have hpairwise := pairwise_of_strictlyOrdered hordered
  rw [assembleServiceTrustCheckpoint, hhistory, hne, hcurrent, hrecord]
  simp only [Bool.not_true, Bool.or_self, Bool.false_eq_true, if_false, ok_bind,
    hsorted, ite_failure_eq_ok, check_eq_ok, Nat.not_lt.mpr hlimit, hid, hfull,
    hvalid]
  rw [verifySignatures_iff (by simpa using hpairwise)]
  simp only [hdraft, Bool.not_eq_true, Bool.not_eq_false', Except.ok.injEq]
  tauto

/-- The identity module accepts at the head of a history. -/
theorem verifyServiceTrustCheckpoint_iff {history : ServiceTrustHistory}
    {bundle : ServiceTrustBundle} {record : ServiceTrustRotationRecord}
    {c : ServiceTrustCheckpoint} (hhistory : history.valid P = true)
    (hbundle : history.bundles.getLast? = some bundle)
    (hrecord : history.records.getLast? = some record)
    (hentry : HistoryEntry P (history.records.length - 1) bundle record)
    (hlimit : c.signatures.length ≤ 100000) :
    verifyServiceTrustCheckpoint P history c c.id = .ok () ↔
      Accepted P history.rootBundleId bundle record c := by
  have hcurrent : history.currentBundleId = bundle.id := by
    obtain ⟨root, current, h⟩ := validHistory_iff.mp hhistory
    rw [h.currentId]
    rw [h.last, Option.some.injEq] at hbundle
    rw [hbundle]
  have hpos : 0 < history.records.length := by
    rw [List.length_pos_iff]
    rintro hnil
    rw [hnil] at hrecord
    cases hrecord
  have hlength : record.sequence.toNat = history.records.length := by
    rw [hentry.recordSequence]
    omega
  have hsame : bundle.sequence = record.sequence := by
    apply UInt64.toNat_inj.mp
    rw [hentry.bundleSequence, hentry.recordSequence]
  rw [verifyServiceTrustCheckpoint, hhistory, hrecord]
  simp only [ite_failure_eq_ok, bind_eq_ok, not_or, not_not, Bool.not_true,
    Bool.false_or, Bool.not_eq_true', Bool.or_eq_true, Bool.not_eq_false,
    Option.map_some, Option.some.injEq, ne_eq, true_and, and_true]
  constructor
  · rintro ⟨⟨hvalid, -⟩, ⟨hroot, hheadBundle, hheadSequence, hheadRecord⟩,
      assembled, hassembled, -⟩
    have hsequence : c.headSequence = record.sequence := by
      apply UInt64.toNat_inj.mp
      rw [hheadSequence, hlength]
    obtain ⟨-, hsigned, hpolicy⟩ := (assemble_iff hhistory hbundle hrecord hvalid
      hlimit hroot hheadBundle (hsequence.trans hsame.symm) hheadRecord.symm).mp
      hassembled
    exact ⟨hvalid, hroot, hsequence, hheadRecord.symm, hheadBundle.trans hcurrent,
      hsigned, hpolicy⟩
  · intro h
    refine ⟨⟨h.valid, (trustCheckpoint_valid h.valid).2.1⟩,
      ⟨h.root, h.bundleId.trans hcurrent.symm, ?_, h.recordId.symm⟩, c, ?_, rfl⟩
    · rw [h.sequence, hlength]
    · exact (assemble_iff hhistory hbundle hrecord h.valid hlimit h.root
        (h.bundleId.trans hcurrent.symm) (h.sequence.trans hsame.symm)
        h.recordId).mpr ⟨rfl, h.signed, h.policy⟩

/-- The ledger accepts at an entry of a history. -/
theorem verifyHistoricalCheckpoint_iff {history : ServiceTrustHistory} {k : Nat}
    {bundle : ServiceTrustBundle} {record : ServiceTrustRotationRecord}
    {c : ServiceTrustCheckpoint} (hhistory : history.valid P = true)
    (hdigest : Set.InjOn P.sha256 (bundleDocuments P.toLibc history))
    (hbundle : history.bundles[k]? = some bundle)
    (hrecord : history.records[k]? = some record)
    (hentry : HistoryEntry P k bundle record) :
    (c.headSequence.toNat = k + 1 ∧ verifyHistoricalCheckpoint P history c = .ok ())
      ↔ Accepted P history.rootBundleId bundle record c := by
  have hlookup := bundle_lookup hhistory hdigest hbundle
  have hlt : k < history.records.length := (List.getElem?_eq_some_iff.mp hrecord).1
  have hsame : bundle.sequence = record.sequence := by
    apply UInt64.toNat_inj.mp
    rw [hentry.bundleSequence, hentry.recordSequence]
  have hplace : c.headSequence = record.sequence ↔ c.headSequence.toNat = k + 1 := by
    rw [← hentry.recordSequence]
    exact UInt64.toNat_inj.symm
  rw [verifyHistoricalCheckpoint, hhistory]
  constructor
  · rintro ⟨hheadSequence, h⟩
    rw [hheadSequence, Nat.add_sub_cancel, hrecord] at h
    simp only [ite_failure_eq_ok, not_or, not_not, Bool.not_true,
      Bool.false_or, Bool.not_eq_true', Bool.not_eq_false, ne_eq] at h
    obtain ⟨hvalid, ⟨hroot, -, -⟩, ⟨hsequence, hid, hbundleId⟩, h⟩ := h
    have hheadBundle : c.headBundleId = bundle.id := by
      rw [← hbundleId, hentry.bundleId]
    rw [hheadBundle, hlookup] at h
    simp only [ok_bind, ite_failure_eq_ok, check_eq_ok,
      Bool.not_eq_false, not_not, and_true] at h
    obtain ⟨-, hsignatures, hpolicy⟩ := h
    have hsigned := (verifyHistoricalSignatures_iff
      (trustCheckpoint_valid hvalid).2.2.2.2.1).mp hsignatures
    exact ⟨hvalid, hroot, hsequence.symm, hid.symm, hheadBundle, hsigned, hpolicy⟩
  · intro h
    have hheadSequence := hplace.mp h.sequence
    have hsignatures := (verifyHistoricalSignatures_iff
      (trustCheckpoint_valid h.valid).2.2.2.2.1).mpr h.signed
    refine ⟨hheadSequence, ?_⟩
    rw [hheadSequence, Nat.add_sub_cancel, hrecord]
    simp only [ite_failure_eq_ok, not_or, not_not, Bool.not_true,
      Bool.false_or, Bool.not_eq_true', Bool.not_eq_false, ne_eq]
    refine ⟨h.valid, ⟨h.root, (trustCheckpoint_valid h.valid).2.2.1, by omega⟩,
      ⟨h.sequence.symm, h.recordId.symm, ?_⟩, ?_⟩
    · rw [hentry.bundleId, h.bundleId]
    · rw [h.bundleId, hlookup]
      simp only [ok_bind, ite_failure_eq_ok, check_eq_ok,
        Bool.not_eq_false, not_not, and_true]
      exact ⟨hsame.trans h.sequence.symm, hsignatures, h.policy⟩

end

-- === a history of one bundle

section
variable (P : Platform)

/-- An active rotation key of a service. -/
def sampleKey (serviceId : Bytes) : ServicePublicKey :=
  let key : ServicePublicKey :=
    { serviceId := serviceId
      publicKey := samplePublicKey
      state := .active
      allowRotate := true }
  { key with id := servicePublicKeyIdentity P key }

/-- A root bundle with the keys of two services. -/
def sampleBundle : ServiceTrustBundle :=
  let bundle : ServiceTrustBundle :=
    { sequence := 1
      storageSchema := 3
      keys := [sampleKey P (ascii "alpha"), sampleKey P (ascii "beta")] }
  { bundle with id := serviceTrustBundleIdentity P bundle }

def sampleRootRecord : ServiceTrustRotationRecord :=
  let record : ServiceTrustRotationRecord :=
    { storageSchema := kCurrentHistorySchema
      sequence := 1
      bundleId := (sampleBundle P).id }
  { record with id := serviceTrustRotationRecordIdentity P record }

/-- The history of that bundle. -/
def sampleHistory : ServiceTrustHistory :=
  { storageSchema := kCurrentHistorySchema
    rootBundleId := (sampleBundle P).id
    currentBundleId := (sampleBundle P).id
    bundles := [sampleBundle P]
    records := [sampleRootRecord P] }

def sampleAlphaSignature : Bytes :=
  [165, 19, 228, 189, 138, 61, 85, 150, 104, 171, 216, 221, 187, 16, 15, 24,
    133, 92, 119, 60, 54, 251, 181, 224, 142, 156, 222, 188, 187, 152, 220,
    103, 45, 162, 199, 2, 195, 196, 236, 168, 202, 166, 135, 222, 23, 146,
    173, 173, 163, 183, 180, 0, 4, 15, 192, 212, 125, 13, 13, 9, 97, 113,
    214, 1]

def sampleBetaSignature : Bytes :=
  [172, 235, 39, 244, 43, 141, 240, 98, 162, 192, 58, 250, 133, 215, 230,
    46, 242, 30, 250, 173, 142, 215, 159, 99, 73, 63, 147, 188, 73, 136, 36,
    57, 214, 177, 128, 121, 125, 70, 231, 248, 71, 119, 145, 104, 26, 213,
    81, 247, 91, 125, 129, 28, 228, 224, 194, 106, 130, 186, 87, 159, 224,
    133, 24, 10]

def sampleCheckpointSignature (serviceId signature : Bytes) :
    ServiceTrustCheckpointSignature :=
  { signerServiceId := serviceId
    signerKeyId := (sampleKey P serviceId).id
    authenticationTag := encodeHex signature }

/-- Its head, signed by both services. -/
def sampleCheckpoint : ServiceTrustCheckpoint :=
  let checkpoint : ServiceTrustCheckpoint :=
    { rootBundleId := (sampleBundle P).id
      headBundleId := (sampleBundle P).id
      headSequence := 1
      headRecordId := (sampleRootRecord P).id
      signatures := [
        sampleCheckpointSignature P (ascii "alpha") sampleAlphaSignature,
        sampleCheckpointSignature P (ascii "beta") sampleBetaSignature] }
  { checkpoint with id := serviceTrustCheckpointIdentity P checkpoint }

theorem valid_sampleKey {serviceId : Bytes} (h : validIdentifier serviceId = true) :
    validServicePublicKey P (sampleKey P serviceId) = true := by
  have hkey : (sampleKey P serviceId).publicKey.toList.any (· != 0) = true := by
    show (#v[(215 : UInt8), 90, 152, 1, 130, 177, 10, 183, 213, 75, 254,
      211, 201, 100, 7, 58, 14, 225, 114, 243, 218, 166, 35, 37, 175, 2, 26,
      104, 247, 7, 81, 26]).toList.any (· != 0) = true
    decide
  rw [validServicePublicKey]
  simp only [Bool.and_eq_true, beq_iff_eq]
  exact ⟨⟨⟨⟨⟨⟨⟨⟨P.validSha256_digest _, h⟩, rfl⟩, hkey⟩, rfl⟩, rfl⟩, rfl⟩, rfl⟩, rfl⟩

theorem validIdentifier_services :
    validIdentifier (ascii "alpha") = true ∧ validIdentifier (ascii "beta") = true := by
  decide

theorem alpha_before_beta :
    ascii "alpha" < ascii "beta" ∧ ascii "alpha" ≠ ascii "beta" := by
  decide

theorem valid_sampleBundle : (sampleBundle P).valid P = true := by
  have hordered : strictlyOrdered ServicePublicKey.serviceId ServicePublicKey.id
      [sampleKey P (ascii "alpha"), sampleKey P (ascii "beta")] = true := by
    obtain ⟨hlt, hne⟩ := alpha_before_beta
    show (!(decide (ascii "beta" < ascii "alpha")
      || (ascii "alpha" == ascii "beta" && !_)) && _) = true
    rw [decide_eq_false (List.lt_asymm hlt), beq_eq_false_iff_ne.mpr hne]
    rfl
  have hkeys : (sampleBundle P).keys.all (fun key => validServicePublicKey P key
      && !((sampleBundle P).storageSchema == 1 && key.allowRotate)) = true := by
    show ((validServicePublicKey P (sampleKey P (ascii "alpha")) && true)
      && ((validServicePublicKey P (sampleKey P (ascii "beta")) && true) && true))
      = true
    rw [valid_sampleKey P validIdentifier_services.1,
      valid_sampleKey P validIdentifier_services.2]
    rfl
  rw [ServiceTrustBundle.valid, hkeys]
  simp only [Bool.and_eq_true, beq_iff_eq]
  exact ⟨⟨⟨⟨⟨⟨⟨⟨⟨⟨rfl, rfl⟩, rfl⟩, rfl⟩, rfl⟩, P.validSha256_digest _⟩, rfl⟩, rfl⟩,
    trivial⟩, hordered⟩, rfl⟩

theorem valid_sampleHistory : (sampleHistory P).valid P = true := by
  have hrecord : validRecordStructure P (sampleRootRecord P) = true := by
    rw [validRecordStructure]
    simp only [Bool.and_eq_true, beq_iff_eq]
    exact ⟨⟨⟨⟨rfl, rfl⟩, P.validSha256_digest _⟩, P.validSha256_digest _⟩, rfl⟩
  have hentry : entryValid P kCurrentHistorySchema 0 none (sampleBundle P)
      (sampleRootRecord P) = true := by
    rw [entryValid]
    simp only [Bool.and_eq_true, beq_iff_eq]
    exact ⟨⟨⟨⟨⟨⟨⟨valid_sampleBundle P, rfl⟩, rfl⟩, rfl⟩, rfl⟩, rfl⟩, hrecord⟩, rfl⟩
  refine validHistory_iff.mpr ⟨sampleBundle P, sampleBundle P, rfl, rfl, rfl, rfl,
    P.validSha256_digest _, rfl, rfl, ?_⟩
  show (entryValid P kCurrentHistorySchema 0 none (sampleBundle P)
    (sampleRootRecord P) && true) = true
  rw [hentry]
  rfl

/-- The bundle has the key of each service. -/
theorem find_sampleKeys :
    ∀ serviceId, serviceId = ascii "alpha" ∨ serviceId = ascii "beta" →
      (sampleBundle P).keys.find? (fun candidate =>
        candidate.serviceId == serviceId
          && candidate.id == (sampleKey P serviceId).id)
        = some (sampleKey P serviceId) := by
  have hne : ascii "alpha" ≠ ascii "beta" := alpha_before_beta.2
  rintro serviceId (rfl | rfl)
  · rw [sampleBundle, List.find?_cons_of_pos]
    simp [sampleKey]
  · rw [sampleBundle, List.find?_cons_of_neg, List.find?_cons_of_pos]
    · simp [sampleKey]
    · simp [sampleKey, hne]

theorem key_sampleBundle {serviceId : Bytes}
    (hid : validIdentifier serviceId = true)
    (hfind : (sampleBundle P).keys.find? (fun candidate =>
      candidate.serviceId == serviceId
        && candidate.id == (sampleKey P serviceId).id)
      = some (sampleKey P serviceId)) :
    (sampleBundle P).key P serviceId (sampleKey P serviceId).id
      = .ok (some (sampleKey P serviceId)) := by
  have hdigest : validSha256 (sampleKey P serviceId).id = true :=
    P.validSha256_digest _
  rw [ServiceTrustBundle.key, valid_sampleBundle, hid, hdigest, hfind]
  rfl

/-- Each service finds its key, and its signature is checked with it. -/
theorem verify_sampleSignature (hcheck : ∀ signature key message,
      P.ed25519Check signature key message = true)
    {serviceId signature : Bytes} (hid : validIdentifier serviceId = true)
    (hfind : (sampleBundle P).keys.find? (fun candidate =>
      candidate.serviceId == serviceId
        && candidate.id == (sampleKey P serviceId).id) = some (sampleKey P serviceId))
    (hlength : signature.length = kEd25519SignatureBytes) :
    verifyCheckpointSignature P (sampleCheckpoint P)
      (sampleCheckpointSignature P serviceId signature) (sampleBundle P)
      = .ok () := by
  have hdecode : decodeHex (encodeHex signature) kEd25519SignatureBytes
      = .ok signature := by
    rw [← hlength]
    exact decodeHex_encodeHex signature
  have hvalid : validServiceTrustCheckpointSignature
      (sampleCheckpointSignature P serviceId signature) = true := by
    have hdigest : validSha256 (sampleKey P serviceId).id = true :=
      P.validSha256_digest _
    simp only [validServiceTrustCheckpointSignature, sampleCheckpointSignature,
      hid, hdecode, hdigest, Bool.true_and]
    rfl
  have hkey := key_sampleBundle P hid hfind
  have hauthorized : ¬((sampleKey P serviceId).state ≠ .active
      ∨ !(sampleKey P serviceId).allowRotate
      ∨ !sequenceAuthorized (sampleKey P serviceId)
        (sampleCheckpoint P).headSequence) := by
    have hsequence : sequenceAuthorized (sampleKey P serviceId)
        (sampleCheckpoint P).headSequence = true := rfl
    have hrotate : (sampleKey P serviceId).allowRotate = true := rfl
    have hactive : (sampleKey P serviceId).state = .active := rfl
    simp [hsequence, hrotate, hactive]
  rw [verifyCheckpointSignature, hvalid]
  simp only [sampleCheckpointSignature, hkey, ok_bind, hdecode, Bool.not_true,
    Bool.false_eq_true, if_false, if_neg hauthorized]
  rw [ed25519Verify, if_neg, if_neg]
  · simp [hcheck]
  · simp [hlength, kEd25519PublicKeyBytes]

theorem accepted_sampleCheckpoint (hcheck : ∀ signature key message,
    P.ed25519Check signature key message = true) :
    Accepted P (sampleBundle P).id (sampleBundle P) (sampleRootRecord P)
      (sampleCheckpoint P) := by
  obtain ⟨hlt, hne⟩ := alpha_before_beta
  have halpha := find_sampleKeys P _ (Or.inl rfl)
  have hbeta := find_sampleKeys P _ (Or.inr rfl)
  have hsigned : ∀ s ∈ (sampleCheckpoint P).signatures,
      verifyCheckpointSignature P (sampleCheckpoint P) s (sampleBundle P) = .ok () := by
    intro s hs
    rw [sampleCheckpoint, List.mem_cons, List.mem_singleton] at hs
    rcases hs with rfl | rfl
    · exact verify_sampleSignature P hcheck validIdentifier_services.1 halpha (by decide)
    · exact verify_sampleSignature P hcheck validIdentifier_services.2 hbeta (by decide)
  have hvalid : ∀ s ∈ (sampleCheckpoint P).signatures,
      validServiceTrustCheckpointSignature s = true := by
    intro s hs
    have h := hsigned s hs
    rw [verifyCheckpointSignature, ite_failure_eq_ok] at h
    simpa using h.1
  have hordered : strictlyOrdered ServiceTrustCheckpointSignature.signerServiceId
      ServiceTrustCheckpointSignature.signerKeyId (sampleCheckpoint P).signatures
      = true := by
    show (!(decide (ascii "beta" < ascii "alpha")
      || (ascii "alpha" == ascii "beta" && !_)) && _) = true
    rw [decide_eq_false (List.lt_asymm hlt), beq_eq_false_iff_ne.mpr hne]
    rfl
  refine ⟨?_, rfl, rfl, rfl, rfl, hsigned, ?_⟩
  · rw [ServiceTrustCheckpoint.valid, hordered, List.all_eq_true.mpr hvalid]
    simp only [Bool.and_eq_true, beq_iff_eq]
    exact ⟨⟨⟨⟨⟨⟨⟨⟨⟨rfl, P.validSha256_digest _⟩, P.validSha256_digest _⟩,
      P.validSha256_digest _⟩, rfl⟩, P.validSha256_digest _⟩, rfl⟩, trivial⟩,
      trivial⟩, rfl⟩
  · have hcount : ¬((sampleCheckpoint P).signatures.map
        fun s => s.signerServiceId).length
        < (sampleBundle P).rotationPolicy.minimumSignatures.toNat := by
      show ¬2 < 1
      decide
    have hdistinct : (sampleBundle P).rotationPolicy.requireDistinctServices
        = false := rfl
    rw [satisfiesPolicy, decide_eq_false hcount, hdistinct]
    rfl

theorem injOn_sampleDocuments :
    Set.InjOn P.sha256 (bundleDocuments P.toLibc (sampleHistory P)) := by
  have hone : ∀ document ∈ bundleDocuments P.toLibc (sampleHistory P),
      document = (bundleJson (sampleBundle P)).dump P.toLibc false 0 := by
    rintro document ⟨bundle, hbundle, heq⟩
    rw [heq, List.mem_singleton.mp hbundle]
  intro x hx y hy _
  rw [hone x hx, hone y hy]

theorem historical_sampleCheckpoint (hcheck : ∀ signature key message,
    P.ed25519Check signature key message = true) :
    (sampleCheckpoint P).headSequence.toNat = 1 ∧
      verifyHistoricalCheckpoint P (sampleHistory P) (sampleCheckpoint P)
        = .ok () := by
  have hbundle : (sampleHistory P).bundles[0]? = some (sampleBundle P) := rfl
  have hrecord : (sampleHistory P).records[0]? = some (sampleRootRecord P) := rfl
  exact (verifyHistoricalCheckpoint_iff (valid_sampleHistory P)
    (injOn_sampleDocuments P) hbundle hrecord
    ⟨valid_sampleBundle P, rfl, rfl, rfl⟩).mpr (accepted_sampleCheckpoint P hcheck)

theorem length_sampleHistory : (sampleHistory P).records.length = 1 := rfl

theorem length_sampleSignatures : (sampleCheckpoint P).signatures.length = 2 := rfl

end

-- === agreement

section
variable {P : Platform}

/-- A prefix of a prefix. -/
theorem prefixOf_prefixOf (history : ServiceTrustHistory) {k n : Nat}
    (h : k ≤ n) : (history.prefixOf n).prefixOf k = history.prefixOf k := by
  simp only [ServiceTrustHistory.prefixOf, List.take_take, Nat.min_eq_left h]

/-- The agreement, for a history and one of its prefixes. -/
theorem verifications_iff {history : ServiceTrustHistory} {k : Nat}
    {c : ServiceTrustCheckpoint} (hhistory : history.valid P = true)
    (hdigest : Set.InjOn P.sha256 (bundleDocuments P.toLibc history))
    (hk : 1 ≤ k) (hk' : k ≤ history.records.length)
    (hlimit : c.signatures.length ≤ 100000) :
    verifyServiceTrustCheckpoint P (history.prefixOf k) c c.id = .ok () ↔
      c.headSequence.toNat = k ∧ verifyHistoricalCheckpoint P history c = .ok () := by
  obtain ⟨bundle, record, hbundle, hrecord, hentry⟩ := history_entry hhistory
    (show k - 1 < history.records.length by omega)
  have hrecords : (history.prefixOf k).records.length = k := by
    rw [ServiceTrustHistory.prefixOf, List.length_take, Nat.min_eq_left hk']
  have hbundles : (history.prefixOf k).bundles.length = k := by
    rw [history_lengths (valid_prefixOf hhistory hk hk'), hrecords]
  have hlastBundle : (history.prefixOf k).bundles.getLast? = some bundle := by
    rw [List.getLast?_eq_getElem?, hbundles, ServiceTrustHistory.prefixOf,
      List.getElem?_take, if_pos (by omega), hbundle]
  have hlastRecord : (history.prefixOf k).records.getLast? = some record := by
    rw [List.getLast?_eq_getElem?, hrecords, ServiceTrustHistory.prefixOf,
      List.getElem?_take, if_pos (by omega), hrecord]
  have hplace : k - 1 + 1 = k := by omega
  rw [verifyServiceTrustCheckpoint_iff (valid_prefixOf hhistory hk hk') hlastBundle
    hlastRecord (by rw [hrecords]; exact hentry) hlimit,
    ← hplace, verifyHistoricalCheckpoint_iff hhistory hdigest hbundle hrecord hentry]
  rfl

/-- **The two verifications agree.** The identity module accepts a
checkpoint against the first `k` entries of a history exactly if the
ledger accepts it, as a checkpoint of entry `k`, against the whole. So a
checkpoint that was accepted when its history had `k` entries is
accepted against that history as it grows, whatever the later bundles
say of the signers. -/
theorem checkpointVerifications_agree {history : ServiceTrustHistory} {k : Nat}
    {c : ServiceTrustCheckpoint} (hhistory : history.valid P = true)
    (hdigest : Set.InjOn P.sha256 (bundleDocuments P.toLibc history))
    (hk : 1 ≤ k) (hk' : k ≤ history.records.length)
    (hlimit : c.signatures.length ≤ 100000) :
    (verifyServiceTrustCheckpoint P (history.prefixOf k) c c.id = .ok () ↔
      c.headSequence.toNat = k ∧ verifyHistoricalCheckpoint P history c = .ok ())
    ∧ ∀ n, k ≤ n → n ≤ history.records.length →
      verifyServiceTrustCheckpoint P (history.prefixOf k) c c.id = .ok () →
      verifyHistoricalCheckpoint P (history.prefixOf n) c = .ok () := by
  refine ⟨verifications_iff hhistory hdigest hk hk' hlimit, ?_⟩
  intro n hkn hn haccept
  have hgrown : (history.prefixOf n).valid P = true :=
    valid_prefixOf hhistory (Nat.le_trans hk hkn) hn
  have hsubset : bundleDocuments P.toLibc (history.prefixOf n)
      ⊆ bundleDocuments P.toLibc history := by
    rintro document ⟨bundle, hbundle, heq⟩
    exact ⟨bundle, List.mem_of_mem_take hbundle, heq⟩
  have hlength : k ≤ (history.prefixOf n).records.length := by
    rw [ServiceTrustHistory.prefixOf, List.length_take, Nat.min_eq_left hn]
    exact hkn
  rw [← prefixOf_prefixOf history hkn] at haccept
  exact ((verifications_iff hgrown (hdigest.mono hsubset) hk hlength hlimit).mp
    haccept).2

end

theorem checkpointVerifications_agree_sample :
    let P := host fun _ _ _ => true
    verifyServiceTrustCheckpoint P ((sampleHistory P).prefixOf 1)
        (sampleCheckpoint P) (sampleCheckpoint P).id = .ok () ∧
      verifyHistoricalCheckpoint P (sampleHistory P) (sampleCheckpoint P)
        = .ok () := by
  intro P
  have hhistorical := historical_sampleCheckpoint P fun _ _ _ => rfl
  have hlength : 1 ≤ (sampleHistory P).records.length := by
    rw [length_sampleHistory]
  have hlimit : (sampleCheckpoint P).signatures.length ≤ 100000 := by
    rw [length_sampleSignatures]
    decide
  obtain ⟨hagree, -⟩ := checkpointVerifications_agree (valid_sampleHistory P)
    (injOn_sampleDocuments P) (Nat.le_refl 1) hlength hlimit
  exact ⟨hagree.mpr hhistorical, hhistorical.2⟩

end RbfSafe
