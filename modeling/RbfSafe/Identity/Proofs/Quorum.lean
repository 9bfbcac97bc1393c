/-
Every rotation of a trust history carries the quorum its policy asks for.

`SignedQuorum` says what a quorum is, in terms of the predecessor's keys
and the messages signed, without a word of authorization records. Both
formats come down to it: the set form is accepted exactly if it is the
canonical assembly of such signatures, in whatever order they came in, and
the single form where one signature is enough (`rotations_carry_quorums`).
-/
import RbfSafe.Identity.Replay
import RbfSafe.Identity.Proofs.Lifecycle
import RbfSafe.Identity.Proofs.Records

namespace RbfSafe

-- === quorums

/-- A sequence in the window of a key. -/
def ServicePublicKey.covers (key : ServicePublicKey) (sequence : UInt64) : Prop :=
  key.validFromSequence ≤ sequence
    ∧ (key.validThroughSequence = 0 ∨ sequence ≤ key.validThroughSequence)

/-- A signature of a message that verifies under a key. -/
def SignatureVerifies (P : Platform) (key : ServicePublicKey)
    (message tag : Bytes) : Prop :=
  ∃ signature, decodeHex tag kEd25519SignatureBytes = .ok signature
    ∧ ed25519Verify P message signature key.publicKey.toList = .ok ()

/-- What a key signs to authorize a successor: both bundles, both
sequences and itself. -/
def rotationMessage (P : Platform) (predecessor successor : ServiceTrustBundle)
    (key : ServicePublicKey) : Bytes :=
  serviceTrustBundleAuthorizationMessage P
    { predecessorBundleId := predecessor.id
      successorBundleId := successor.id
      predecessorSequence := predecessor.sequence
      successorSequence := successor.sequence
      signerServiceId := key.serviceId
      signerKeyId := key.id }

/-- An active rotation key of the predecessor that signed the rotation. -/
structure RotationSigner (P : Platform)
    (predecessor successor : ServiceTrustBundle) (key : ServicePublicKey)
    (tag : Bytes) : Prop where
  mem : key ∈ predecessor.keys
  active : key.state = .active
  allowRotate : key.allowRotate = true
  covers : key.covers successor.sequence
  signed : SignatureVerifies P key (rotationMessage P predecessor successor key) tag

/-- As many signers as the policy asks for, of as many services. -/
structure PolicyMet (policy : ServiceTrustRotationPolicy)
    (signers : List (Bytes × Bytes)) : Prop where
  distinct : signers.Nodup
  count : policy.minimumSignatures.toNat ≤ signers.length
  services : policy.requireDistinctServices = true →
    policy.minimumSignatures.toNat
      ≤ (signers.map fun signer => signer.1).toFinset.card

/-- Signatures of a rotation that meet the policy of the predecessor. -/
structure SignedQuorum (P : Platform) (predecessor successor : ServiceTrustBundle)
    (signers : List (ServicePublicKey × Bytes)) : Prop where
  signed : ∀ s ∈ signers, RotationSigner P predecessor successor s.1 s.2
  policy : PolicyMet predecessor.rotationPolicy
    (signers.map fun s => (s.1.serviceId, s.1.id))

-- === one authorization

section
variable {P : Platform} {predecessor successor : ServiceTrustBundle}

/-- An authorization bound to a rotation. -/
structure BoundAuthorization (P : Platform)
    (predecessor successor : ServiceTrustBundle)
    (a : ServiceTrustBundleAuthorization) : Prop where
  valid : validServiceTrustBundleAuthorization P a = true
  predecessorId : a.predecessorBundleId = predecessor.id
  successorId : a.successorBundleId = successor.id
  predecessorSequence : a.predecessorSequence = predecessor.sequence
  successorSequence : a.successorSequence = successor.sequence
  signer : ∃ key, predecessor.key P a.signerServiceId a.signerKeyId
      = .ok (some key)
    ∧ key.serviceId = a.signerServiceId ∧ key.id = a.signerKeyId
    ∧ RotationSigner P predecessor successor key a.authenticationTag

theorem rotationKeyIsAuthorized_iff {key : ServicePublicKey} {sequence : UInt64} :
    rotationKeyIsAuthorized key sequence = true
      ↔ key.state = .active ∧ key.allowRotate = true ∧ key.covers sequence := by
  unfold rotationKeyIsAuthorized ServicePublicKey.covers
  simp only [Bool.and_eq_true, Bool.or_eq_true, beq_iff_eq, decide_eq_true_eq,
    ge_iff_le, and_assoc]

/-- The message of a bound authorization is that of its signer. -/
theorem message_eq {a : ServiceTrustBundleAuthorization} {key : ServicePublicKey}
    (halgorithm : a.algorithm = .ed25519)
    (hpredecessor : a.predecessorBundleId = predecessor.id)
    (hsuccessor : a.successorBundleId = successor.id)
    (hsequence : a.predecessorSequence = predecessor.sequence)
    (hnext : a.successorSequence = successor.sequence)
    (hservice : key.serviceId = a.signerServiceId)
    (hkey : key.id = a.signerKeyId) :
    serviceTrustBundleAuthorizationMessage P a
      = rotationMessage P predecessor successor key := by
  unfold rotationMessage serviceTrustBundleAuthorizationMessage authorizationJson
  rw [halgorithm, hpredecessor, hsuccessor, hsequence, hnext, hservice, hkey]

/-- What `verify_rotation_authorization_binding` accepts. -/
theorem verifyBinding_iff {a : ServiceTrustBundleAuthorization} :
    verifyRotationAuthorizationBinding P predecessor successor a = .ok ()
      ↔ BoundAuthorization P predecessor successor a := by
  have halgorithm : validServiceTrustBundleAuthorization P a = true →
      a.algorithm = .ed25519 := by
    intro h
    unfold validServiceTrustBundleAuthorization at h
    simp only [Bool.and_eq_true, beq_iff_eq] at h
    exact h.1.1.2
  unfold verifyRotationAuthorizationBinding
  simp only [ite_failure_eq_ok, Bool.not_eq_true', Bool.not_eq_false, not_or,
    not_not, ne_eq, bind_eq_ok]
  constructor
  · intro h
    obtain ⟨hvalid, ⟨hpredecessor, hsuccessor, hsequence, hnext⟩, found, hfound,
      h⟩ := h
    cases found with
    | none => cases h
    | some key =>
        simp only [ite_failure_eq_ok, Bool.not_eq_true', Bool.not_eq_false,
          bind_eq_ok] at h
        obtain ⟨hauthorized, signature, hsignature, hverified⟩ := h
        obtain ⟨hactive, hrotate, hcovers⟩ :=
          rotationKeyIsAuthorized_iff.mp hauthorized
        obtain ⟨hmem, hservice, hid⟩ := mem_of_key hfound
        refine ⟨hvalid, hpredecessor, hsuccessor, hsequence, hnext, key, hfound,
          hservice, hid, hmem, hactive, hrotate, hcovers, signature, hsignature, ?_⟩
        rw [← message_eq (halgorithm hvalid) hpredecessor hsuccessor hsequence hnext
          hservice hid]
        exact hverified
  · intro h
    obtain ⟨key, hfound, hservice, hid, hsigner⟩ := h.signer
    obtain ⟨signature, hsignature, hverified⟩ := hsigner.signed
    refine ⟨h.valid, ⟨h.predecessorId, h.successorId, h.predecessorSequence,
      h.successorSequence⟩, some key, hfound, ?_⟩
    simp only [ite_failure_eq_ok, Bool.not_eq_true', Bool.not_eq_false, bind_eq_ok]
    refine ⟨rotationKeyIsAuthorized_iff.mpr ⟨hsigner.active, hsigner.allowRotate,
      hsigner.covers⟩, signature, hsignature, ?_⟩
    rw [message_eq (halgorithm h.valid) h.predecessorId h.successorId
      h.predecessorSequence h.successorSequence hservice hid]
    exact hverified

end

-- === canonical order

theorem bytes_trichotomy (a b : Bytes) : a < b ∨ a = b ∨ b < a := by
  by_cases hab : a < b
  · exact .inl hab
  · by_cases hba : b < a
    · exact .inr (.inr hba)
    · exact .inr (.inl (List.le_antisymm (List.not_lt.mp hba) (List.not_lt.mp hab)))

/-- Two signers are in order one way or the other, or the same. -/
theorem signerBefore_trichotomy (s k s' k' : Bytes) :
    signerBefore s k s' k' = true ∨ (s = s' ∧ k = k')
      ∨ signerBefore s' k' s k = true := by
  unfold signerBefore
  by_cases hs : s = s'
  · rw [if_pos hs, if_pos hs.symm, decide_eq_true_eq, decide_eq_true_eq]
    rcases bytes_trichotomy k k' with h | h | h
    · exact .inl h
    · exact .inr (.inl ⟨hs, h⟩)
    · exact .inr (.inr h)
  · rw [if_neg hs, if_neg (Ne.symm hs), decide_eq_true_eq, decide_eq_true_eq]
    rcases bytes_trichotomy s s' with h | h | h
    · exact .inl h
    · exact absurd h hs
    · exact .inr (.inr h)

/-- The signer of an authorization. -/
def ServiceTrustBundleAuthorization.signer (a : ServiceTrustBundleAuthorization) :
    Bytes × Bytes :=
  (a.signerServiceId, a.signerKeyId)

/-- One signer strictly before another. -/
def signsBefore (a b : ServiceTrustBundleAuthorization) : Prop :=
  signerBefore a.signerServiceId a.signerKeyId b.signerServiceId b.signerKeyId
    = true

theorem signsBefore_trans {a b c : ServiceTrustBundleAuthorization}
    (h : signsBefore a b) (h' : signsBefore b c) : signsBefore a c :=
  signerBefore_trans h h'

theorem signsBefore_ne {a b : ServiceTrustBundleAuthorization}
    (h : signsBefore a b) : a.signer ≠ b.signer := by
  intro heq
  rw [ServiceTrustBundleAuthorization.signer, ServiceTrustBundleAuthorization.signer,
    Prod.mk.injEq] at heq
  unfold signsBefore at h
  rw [heq.1, heq.2] at h
  have hasymm := signerBefore_asymm h
  rw [h] at hasymm
  cases hasymm

/-- What the comparator says, where the signers differ. -/
theorem signsBefore_of_ne {a b : ServiceTrustBundleAuthorization}
    (h : authorizationBefore a b = true) (hne : a.signer ≠ b.signer) :
    signsBefore a b := by
  unfold authorizationBefore at h
  rw [Bool.not_eq_true'] at h
  rcases signerBefore_trichotomy a.signerServiceId a.signerKeyId b.signerServiceId
    b.signerKeyId with hlt | heq | hgt
  · exact hlt
  · exact absurd (Prod.ext heq.1 heq.2) hne
  · rw [hgt] at h
    cases h

theorem authorizationBefore_of_signsBefore {a b : ServiceTrustBundleAuthorization}
    (h : signsBefore a b) : authorizationBefore a b = true := by
  unfold authorizationBefore
  rw [signerBefore_asymm h]
  rfl

theorem authorizationBefore_trans (a b c : ServiceTrustBundleAuthorization)
    (h : authorizationBefore a b = true) (h' : authorizationBefore b c = true) :
    authorizationBefore a c = true := by
  by_cases hab : a.signer = b.signer
  · simp only [ServiceTrustBundleAuthorization.signer, Prod.mk.injEq] at hab
    unfold authorizationBefore at h' ⊢
    rw [hab.1, hab.2]
    exact h'
  · by_cases hbc : b.signer = c.signer
    · simp only [ServiceTrustBundleAuthorization.signer, Prod.mk.injEq] at hbc
      unfold authorizationBefore at h ⊢
      rw [← hbc.1, ← hbc.2]
      exact h
    · exact authorizationBefore_of_signsBefore
        (signsBefore_trans (signsBefore_of_ne h hab) (signsBefore_of_ne h' hbc))

theorem authorizationBefore_total (a b : ServiceTrustBundleAuthorization) :
    (authorizationBefore a b || authorizationBefore b a) = true := by
  rw [Bool.or_eq_true]
  by_cases h : authorizationBefore a b = true
  · exact .inl h
  · unfold authorizationBefore at h
    rw [Bool.not_eq_true, Bool.not_eq_false'] at h
    exact .inr (authorizationBefore_of_signsBefore h)

theorem pairwise_mergeSort_authorizations
    (l : List ServiceTrustBundleAuthorization) :
    (l.mergeSort authorizationBefore).Pairwise fun a b =>
      authorizationBefore a b = true :=
  List.pairwise_mergeSort authorizationBefore_trans authorizationBefore_total l

/-- Sorted authorizations of different signers are strictly sorted. -/
theorem strict_of_distinct {l : List ServiceTrustBundleAuthorization}
    (hsorted : l.Pairwise fun a b => authorizationBefore a b = true)
    (hdistinct : (l.map (·.signer)).Nodup) : l.Pairwise signsBefore := by
  rw [List.Nodup, List.pairwise_map] at hdistinct
  exact hsorted.imp₂ (fun _ _ h hne => signsBefore_of_ne h hne) hdistinct

/-- A strictly sorted list is as sorting leaves it. -/
theorem mergeSort_of_strict {l : List ServiceTrustBundleAuthorization}
    (h : l.Pairwise signsBefore) : l.mergeSort authorizationBefore = l :=
  List.mergeSort_of_pairwise
    (h.imp fun hab => authorizationBefore_of_signsBefore hab)

/-- The order the signers come in does not matter. -/
theorem mergeSort_perm_eq {l l' : List ServiceTrustBundleAuthorization}
    (hperm : l.Perm l') (hdistinct : (l.map (·.signer)).Nodup) :
    l.mergeSort authorizationBefore = l'.mergeSort authorizationBefore := by
  have hsorted := strict_of_distinct (pairwise_mergeSort_authorizations l)
    (((List.mergeSort_perm l _).map _).nodup_iff.mpr hdistinct)
  have hperm' : (l.mergeSort authorizationBefore).Perm
      (l'.mergeSort authorizationBefore) :=
    (List.mergeSort_perm l _).trans (hperm.trans (List.mergeSort_perm l' _).symm)
  have hsorted' := strict_of_distinct (pairwise_mergeSort_authorizations l')
    ((hperm'.map _).nodup_iff.mp ((hsorted.imp signsBefore_ne).map _ (by simp)))
  refine hperm'.eq_of_pairwise ?_ hsorted hsorted'
  intro a b _ _ hab hba
  exact absurd rfl (signsBefore_ne (signsBefore_trans hab hba))

-- === assembly

section
variable {P : Platform} {predecessor successor : ServiceTrustBundle}

/-- The loop over sorted authorizations: all bound, no signer twice. -/
theorem verifyAuthorizations_iff :
    ∀ {l : List ServiceTrustBundleAuthorization}
    {previous : Option ServiceTrustBundleAuthorization},
    (previous.toList ++ l).Pairwise (fun a b => authorizationBefore a b = true) →
    (verifyAuthorizations P predecessor successor previous l = .ok ()
      ↔ (previous.toList ++ l).IsChain signsBefore
        ∧ ∀ a ∈ l, BoundAuthorization P predecessor successor a) := by
  intro l
  induction l with
  | nil =>
      intro previous _
      cases previous <;> simp [verifyAuthorizations]
  | cons a l ih =>
      intro previous h
      have hrest : ((some a).toList ++ l).Pairwise
          (fun a b => authorizationBefore a b = true) :=
        (List.pairwise_append.mp h).2.1
      unfold verifyAuthorizations
      rw [ite_failure_eq_ok, check_eq_ok, verifyBinding_iff, ih hrest,
        List.forall_mem_cons]
      cases previous with
      | none =>
          simp only [Option.any_none, Bool.false_eq_true, not_false_eq_true,
            true_and, Option.toList_none, Option.toList_some, List.nil_append,
            List.singleton_append]
          exact and_left_comm
      | some p =>
          have hpa : authorizationBefore p a = true :=
            (List.pairwise_cons.mp h).1 a List.mem_cons_self
          have hsame : ¬(p.signerServiceId == a.signerServiceId
              && p.signerKeyId == a.signerKeyId) = true ↔ signsBefore p a := by
            constructor
            · intro hne
              apply signsBefore_of_ne hpa
              simpa [ServiceTrustBundleAuthorization.signer] using hne
            · intro hlt
              simpa [ServiceTrustBundleAuthorization.signer]
                using signsBefore_ne hlt
          simp only [Option.any_some, Option.toList_some, List.singleton_append,
            List.isChain_cons_cons]
          rw [hsame, and_assoc, and_left_comm (b := List.IsChain _ _)]

/-- The test both assemblies end with. -/
theorem satisfiesPolicy_iff {policy : ServiceTrustRotationPolicy}
    {services : List Bytes} :
    satisfiesPolicy policy services = true
      ↔ policy.minimumSignatures.toNat ≤ services.length
        ∧ (policy.requireDistinctServices = true →
          policy.minimumSignatures.toNat ≤ services.toFinset.card) := by
  unfold satisfiesPolicy
  rw [List.card_toFinset]
  simp only [Bool.not_eq_true', Bool.or_eq_false_iff, Bool.and_eq_false_iff,
    decide_eq_false_iff_not, not_lt]
  cases policy.requireDistinctServices <;> simp

/-- The set assembled of authorizations: sorted, with its identity. -/
def canonicalSet (P : Platform) (predecessor successor : ServiceTrustBundle)
    (authorizations : List ServiceTrustBundleAuthorization) :
    ServiceTrustBundleAuthorizationSet :=
  let set : ServiceTrustBundleAuthorizationSet :=
    { predecessorBundleId := predecessor.id
      successorBundleId := successor.id
      predecessorSequence := predecessor.sequence
      successorSequence := successor.sequence
      authorizations := authorizations.mergeSort authorizationBefore }
  { set with id := serviceTrustBundleAuthorizationSetIdentity P set }

/-- Authorizations that carry a rotation. -/
structure Carries (P : Platform) (predecessor successor : ServiceTrustBundle)
    (authorizations : List ServiceTrustBundleAuthorization) : Prop where
  rotation : validateServiceTrustBundleRotation P predecessor successor = .ok ()
  schema : 2 ≤ predecessor.storageSchema
  limit : authorizations.length ≤ 100000
  bound : ∀ a ∈ authorizations, BoundAuthorization P predecessor successor a
  policy : PolicyMet predecessor.rotationPolicy (authorizations.map (·.signer))

/-- What the link of a rotation says of the two bundles. -/
theorem rotation_bundles
    (h : validateServiceTrustBundleRotation P predecessor successor = .ok ()) :
    predecessor.valid P = true ∧ successor.valid P = true
      ∧ predecessor.sequence ≠ 0xffffffffffffffff
      ∧ successor.sequence = predecessor.sequence + 1 := by
  unfold validateServiceTrustBundleRotation at h
  rw [ite_failure_eq_ok, ite_failure_eq_ok] at h
  obtain ⟨hvalid, hlink, -⟩ := h
  simp only [Bool.or_eq_true, Bool.not_eq_true', not_or, Bool.not_eq_false] at hvalid
  simp only [not_or, not_not] at hlink
  exact ⟨hvalid.1, hvalid.2, hlink.1, hlink.2.1⟩

/-- A valid bundle asks for a signature at least. -/
theorem minimum_pos {bundle : ServiceTrustBundle} (h : bundle.valid P = true) :
    0 < bundle.rotationPolicy.minimumSignatures.toNat
      ∧ bundle.sequence ≠ 0 := by
  unfold ServiceTrustBundle.valid validServiceTrustRotationPolicy at h
  simp only [Bool.and_eq_true, decide_eq_true_eq, bne_iff_ne] at h
  obtain ⟨⟨⟨⟨⟨⟨⟨⟨⟨⟨-, hsequence⟩, -⟩, -⟩, -⟩, -⟩, hpolicy, -⟩, -⟩, -⟩, -⟩, -⟩ := h
  exact ⟨UInt32.lt_iff_toNat_lt.mp hpolicy, hsequence⟩

/-- The neighbours' test of a sorted list. -/
theorem strictlyOrdered_of_pairwise :
    ∀ {l : List ServiceTrustBundleAuthorization}, l.Pairwise signsBefore →
    strictlyOrdered ServiceTrustBundleAuthorization.signerServiceId
      ServiceTrustBundleAuthorization.signerKeyId l = true := by
  intro l
  induction l with
  | nil =>
      intro _
      rfl
  | cons a l ih =>
      intro h
      cases l with
      | nil => rfl
      | cons b l =>
          have hab : signsBefore a b := (List.pairwise_cons.mp h).1 b
            List.mem_cons_self
          rw [strictlyOrdered, ih (List.pairwise_cons.mp h).2, Bool.and_true]
          unfold signsBefore signerBefore at hab
          by_cases hs : a.signerServiceId = b.signerServiceId
          · rw [if_pos hs, decide_eq_true_eq] at hab
            rw [hs, decide_eq_false (List.lt_irrefl _), decide_eq_true hab]
            simp
          · rw [if_neg hs, decide_eq_true_eq] at hab
            rw [decide_eq_false (List.lt_asymm hab), beq_eq_false_iff_ne.mpr hs]
            rfl

/-- The assembly of authorizations that carry a rotation is valid. -/
theorem valid_canonicalSet {l : List ServiceTrustBundleAuthorization}
    (h : Carries P predecessor successor l) :
    validServiceTrustBundleAuthorizationSet P
      (canonicalSet P predecessor successor l) = true := by
  obtain ⟨hpredecessor, hsuccessor, hlast, hnext⟩ := rotation_bundles h.rotation
  have hmem : ∀ {a}, a ∈ l.mergeSort authorizationBefore ↔ a ∈ l :=
    (List.mergeSort_perm l _).mem_iff
  have hne : (l.mergeSort authorizationBefore).isEmpty = false := by
    have hcount := h.policy.count
    have hpos := (minimum_pos hpredecessor).1
    have hlength := (List.mergeSort_perm l authorizationBefore).length_eq
    rw [List.length_map] at hcount
    rw [List.isEmpty_eq_false_iff, ← List.length_pos_iff]
    omega
  have hsorted := strictlyOrdered_of_pairwise (strict_of_distinct
    (pairwise_mergeSort_authorizations l)
    (((List.mergeSort_perm l _).map _).nodup_iff.mpr h.policy.distinct))
  have hall : (l.mergeSort authorizationBefore).all (fun a =>
      validServiceTrustBundleAuthorization P a
        && a.predecessorBundleId == predecessor.id
        && a.successorBundleId == successor.id
        && a.predecessorSequence == predecessor.sequence
        && a.successorSequence == successor.sequence) = true := by
    rw [List.all_eq_true]
    intro a ha
    have hbound := h.bound a (hmem.mp ha)
    simp only [Bool.and_eq_true, beq_iff_eq]
    exact ⟨⟨⟨⟨hbound.valid, hbound.predecessorId⟩, hbound.successorId⟩,
      hbound.predecessorSequence⟩, hbound.successorSequence⟩
  unfold validServiceTrustBundleAuthorizationSet canonicalSet
  simp only [hne, hall, hsorted, Bool.and_eq_true, bne_iff_ne, beq_iff_eq]
  exact ⟨⟨⟨⟨⟨⟨⟨⟨⟨P.validSha256_digest _, (bundle_valid hpredecessor).1⟩,
    (bundle_valid hsuccessor).1⟩, (minimum_pos hpredecessor).2⟩, hlast⟩, hnext⟩,
    rfl⟩, trivial⟩, trivial⟩, rfl⟩

/-- **What is assembled**: authorizations that carry the rotation, into
their canonical set. -/
theorem assembleAuthorizations_iff {l : List ServiceTrustBundleAuthorization}
    {set : ServiceTrustBundleAuthorizationSet} :
    assembleServiceTrustBundleAuthorizations P predecessor successor l = .ok set
      ↔ Carries P predecessor successor l
        ∧ set = canonicalSet P predecessor successor l := by
  have hperm := List.mergeSort_perm l authorizationBefore
  have hsorted := pairwise_mergeSort_authorizations l
  have hpolicy : satisfiesPolicy predecessor.rotationPolicy
      ((l.mergeSort authorizationBefore).map fun a => a.signerServiceId) = true
      ↔ predecessor.rotationPolicy.minimumSignatures.toNat
          ≤ (l.map (·.signer)).length
        ∧ (predecessor.rotationPolicy.requireDistinctServices = true →
          predecessor.rotationPolicy.minimumSignatures.toNat
            ≤ ((l.map (·.signer)).map fun signer => signer.1).toFinset.card) := by
    rw [satisfiesPolicy_iff, List.length_map, List.length_map, List.length_mergeSort,
      List.toFinset_eq_of_perm _ _ (hperm.map fun a => a.signerServiceId),
      List.map_map]
    rfl
  have hloop := @verifyAuthorizations_iff P predecessor successor
    (l.mergeSort authorizationBefore) none hsorted
  unfold assembleServiceTrustBundleAuthorizations
  rw [check_eq_ok, ite_failure_eq_ok, ite_failure_eq_ok, check_eq_ok,
    ite_failure_eq_ok, ite_failure_eq_ok]
  constructor
  · intro h
    obtain ⟨hrotation, hinput, hlimit, hverified, hmet, -, hset⟩ := h
    simp only [not_or, Bool.not_eq_true] at hinput
    obtain ⟨hchain, hbound⟩ := hloop.mp hverified
    rw [Bool.not_eq_true', Bool.not_eq_false, hpolicy] at hmet
    have htrans : Trans signsBefore signsBefore signsBefore := ⟨signsBefore_trans⟩
    have hstrict : (l.mergeSort authorizationBefore).Pairwise signsBefore :=
      List.isChain_iff_pairwise.mp hchain
    have hdistinct : (l.map (·.signer)).Nodup := by
      apply (hperm.map _).nodup_iff.mp
      rw [List.Nodup, List.pairwise_map]
      exact hstrict.imp signsBefore_ne
    exact ⟨⟨hrotation, UInt32.not_lt.mp hinput.1, not_lt.mp hlimit,
      fun a ha => hbound a (hperm.mem_iff.mpr ha), hdistinct, hmet.1, hmet.2⟩,
      (Except.ok.inj hset).symm⟩
  · intro h
    obtain ⟨h, hset⟩ := h
    have hne : l.isEmpty = false := by
      have hcount := h.policy.count
      have hpos := (minimum_pos (rotation_bundles h.rotation).1).1
      rw [List.length_map] at hcount
      rw [List.isEmpty_eq_false_iff, ← List.length_pos_iff]
      omega
    have hstrict := strict_of_distinct hsorted
      ((hperm.map _).nodup_iff.mpr h.policy.distinct)
    refine ⟨h.rotation, ?_, not_lt.mpr h.limit, ?_, ?_, ?_, ?_⟩
    · rw [hne]
      exact fun hor => hor.elim (fun hlt => UInt32.not_lt.mpr h.schema hlt)
        Bool.noConfusion
    · exact hloop.mpr ⟨hstrict.isChain,
        fun a ha => h.bound a (hperm.mem_iff.mp ha)⟩
    · rw [Bool.not_eq_true', Bool.not_eq_false, hpolicy]
      exact ⟨h.policy.count, h.policy.services⟩
    · rw [Bool.not_eq_true', Bool.not_eq_false]
      exact valid_canonicalSet h
    · rw [hset]
      rfl

/-- What carries a rotation carries it in any order, as one set. -/
theorem Carries.perm {l l' : List ServiceTrustBundleAuthorization}
    (h : Carries P predecessor successor l) (hperm : l.Perm l') :
    Carries P predecessor successor l'
      ∧ canonicalSet P predecessor successor l
        = canonicalSet P predecessor successor l' := by
  have hservices : ((l.map (·.signer)).map fun signer => signer.1).toFinset
      = ((l'.map (·.signer)).map fun signer => signer.1).toFinset :=
    List.toFinset_eq_of_perm _ _ ((hperm.map _).map _)
  refine ⟨⟨h.rotation, h.schema, hperm.length_eq ▸ h.limit,
    fun a ha => h.bound a (hperm.mem_iff.mpr ha),
    (hperm.map _).nodup_iff.mp h.policy.distinct, ?_, ?_⟩, ?_⟩
  · rw [← (hperm.map (·.signer)).length_eq]
    exact h.policy.count
  · rw [← hservices]
    exact h.policy.services
  · unfold canonicalSet
    rw [mergeSort_perm_eq hperm h.policy.distinct]

/-- A permutation assembles to the same set, or neither assembles. -/
theorem assembleAuthorizations_perm {l l' : List ServiceTrustBundleAuthorization}
    (hperm : l.Perm l') {set : ServiceTrustBundleAuthorizationSet} :
    assembleServiceTrustBundleAuthorizations P predecessor successor l = .ok set
      ↔ assembleServiceTrustBundleAuthorizations P predecessor successor l'
        = .ok set := by
  rw [assembleAuthorizations_iff, assembleAuthorizations_iff]
  constructor
  · intro h
    obtain ⟨hcarries, heq⟩ := h.1.perm hperm
    exact ⟨hcarries, h.2.trans heq⟩
  · intro h
    obtain ⟨hcarries, heq⟩ := h.1.perm hperm.symm
    exact ⟨hcarries, h.2.trans heq⟩

-- === verification

/-- **The set form accepts canonical assemblies, and nothing else.** -/
theorem verifySet_iff {set : ServiceTrustBundleAuthorizationSet} :
    verifyServiceTrustBundleSuccessorSet P predecessor successor set = .ok ()
      ↔ ∃ l, Carries P predecessor successor l
        ∧ set = canonicalSet P predecessor successor l := by
  unfold verifyServiceTrustBundleSuccessorSet
  simp only [ite_failure_eq_ok, Bool.not_eq_true', Bool.not_eq_false, bind_eq_ok,
    not_not, ne_eq, and_true]
  constructor
  · intro h
    obtain ⟨hvalid, assembled, hassembled, -⟩ := h
    obtain ⟨hcarries, -⟩ := assembleAuthorizations_iff.mp hassembled
    refine ⟨set.authorizations, hcarries, ?_⟩
    unfold validServiceTrustBundleAuthorizationSet at hvalid
    simp only [Bool.and_eq_true, beq_iff_eq, Bool.not_eq_true'] at hvalid
    obtain ⟨⟨⟨⟨-, hne⟩, hall⟩, hordered⟩, hid⟩ := hvalid
    have hstrict : set.authorizations.Pairwise signsBefore :=
      pairwise_of_strictlyOrdered hordered
    obtain ⟨a, ha⟩ := List.exists_mem_of_ne_nil _ (List.isEmpty_eq_false_iff.mp hne)
    have hfields := List.all_eq_true.mp hall a ha
    simp only [Bool.and_eq_true, beq_iff_eq] at hfields
    obtain ⟨⟨⟨⟨-, hpredecessor⟩, hsuccessor⟩, hsequence⟩, hnext⟩ := hfields
    have hbound := hcarries.bound a ha
    -- the fields of the set are those of its authorizations, so of the rotation
    obtain ⟨id, predecessorId, successorId, sequence, next, authorizations⟩ := set
    simp only at hpredecessor hsuccessor hsequence hnext hstrict hid
    rw [hbound.predecessorId] at hpredecessor
    rw [hbound.successorId] at hsuccessor
    rw [hbound.predecessorSequence] at hsequence
    rw [hbound.successorSequence] at hnext
    subst hpredecessor hsuccessor hsequence hnext
    unfold canonicalSet
    rw [mergeSort_of_strict hstrict, ServiceTrustBundleAuthorizationSet.mk.injEq]
    exact ⟨hid.symm, rfl, rfl, rfl, rfl, rfl⟩
  · intro h
    obtain ⟨l, hcarries, rfl⟩ := h
    have hperm : l.Perm
        (canonicalSet P predecessor successor l).authorizations :=
      (List.mergeSort_perm l authorizationBefore).symm
    obtain ⟨hcarries', heq⟩ := hcarries.perm hperm
    exact ⟨valid_canonicalSet hcarries, _,
      assembleAuthorizations_iff.mpr ⟨hcarries', rfl⟩, by rw [← heq]⟩

/-- What the single form accepts. -/
theorem verifySingle_iff {a : ServiceTrustBundleAuthorization} :
    verifyServiceTrustBundleSuccessor P predecessor successor a = .ok ()
      ↔ predecessor.rotationPolicy.minimumSignatures = 1
        ∧ Carries P predecessor successor [a] := by
  unfold verifyServiceTrustBundleSuccessor
  rw [check_eq_ok, ite_failure_eq_ok, ite_failure_eq_ok, verifyBinding_iff, not_not]
  constructor
  · intro h
    obtain ⟨hrotation, hschema, hminimum, hbound⟩ := h
    refine ⟨hminimum, hrotation, UInt32.not_lt.mp hschema,
      show 1 ≤ 100000 from by decide, ?_, List.nodup_singleton _, ?_, ?_⟩
    · intro b hb
      rw [List.mem_singleton.mp hb]
      exact hbound
    · rw [hminimum]
      exact Nat.le_refl 1
    · intro _
      rw [hminimum]
      exact Nat.le_refl 1
  · intro h
    obtain ⟨hminimum, hcarries⟩ := h
    exact ⟨hcarries.rotation, UInt32.not_lt.mpr hcarries.schema, hminimum,
      hcarries.bound a (List.mem_singleton_self a)⟩

/-- Where one signature is enough, the two formats accept the same. -/
theorem single_iff_set {a : ServiceTrustBundleAuthorization}
    (hminimum : predecessor.rotationPolicy.minimumSignatures = 1) :
    verifyServiceTrustBundleSuccessor P predecessor successor a = .ok ()
      ↔ verifyServiceTrustBundleSuccessorSet P predecessor successor
        (canonicalSet P predecessor successor [a]) = .ok () := by
  rw [verifySingle_iff, verifySet_iff]
  constructor
  · intro h
    exact ⟨[a], h.2, rfl⟩
  · intro h
    obtain ⟨l, hcarries, heq⟩ := h
    have hsorted : [a].mergeSort authorizationBefore
        = l.mergeSort authorizationBefore :=
      congrArg ServiceTrustBundleAuthorizationSet.authorizations heq
    have hperm : l.Perm [a] := by
      have hl := (List.mergeSort_perm l authorizationBefore).symm
      rw [← hsorted] at hl
      exact hl.trans (List.mergeSort_perm _ _)
    exact ⟨hminimum, (hcarries.perm hperm).1⟩

-- === signatures

/-- A key of a valid bundle is found under its own names. -/
theorem key_of_mem {bundle : ServiceTrustBundle} (h : bundle.valid P = true)
    {key : ServicePublicKey} (hmem : key ∈ bundle.keys) :
    validIdentifier key.serviceId = true ∧ validSha256 key.id = true
      ∧ bundle.key P key.serviceId key.id = .ok (some key) := by
  have hall : ∀ k ∈ bundle.keys, validServicePublicKey P k = true := by
    intro k hk
    have hvalid := h
    unfold ServiceTrustBundle.valid at hvalid
    simp only [Bool.and_eq_true, List.all_eq_true] at hvalid
    exact (hvalid.1.1.2 k hk).1
  have hkey := hall key hmem
  simp only [validServicePublicKey, Bool.and_eq_true] at hkey
  have hservice : validIdentifier key.serviceId = true := hkey.1.1.1.1.1.1.1.2
  have hid : validSha256 key.id = true := hkey.1.1.1.1.1.1.1.1
  refine ⟨hservice, hid, ?_⟩
  unfold ServiceTrustBundle.key
  rw [h, hservice, hid]
  cases hfind : bundle.keys.find? fun candidate =>
      candidate.serviceId == key.serviceId && candidate.id == key.id with
  | none =>
      have hnone := List.find?_eq_none.mp hfind key hmem
      simp at hnone
  | some found =>
      have hmatch := List.find?_some hfind
      simp only [Bool.and_eq_true, beq_iff_eq] at hmatch
      rw [key_unique h hmem (List.mem_of_find?_eq_some hfind) hmatch.1 hmatch.2]
      rfl

/-- The authorization a signature of a rotation makes, with its identity. -/
def authorizationOf (P : Platform) (predecessor successor : ServiceTrustBundle)
    (signer : ServicePublicKey × Bytes) : ServiceTrustBundleAuthorization :=
  let authorization : ServiceTrustBundleAuthorization :=
    { predecessorBundleId := predecessor.id
      successorBundleId := successor.id
      predecessorSequence := predecessor.sequence
      successorSequence := successor.sequence
      signerServiceId := signer.1.serviceId
      signerKeyId := signer.1.id
      authenticationTag := signer.2 }
  { authorization with
    id := serviceTrustBundleAuthorizationIdentity P authorization }

/-- **What is bound to a rotation is a signature of it**, and no more. -/
theorem boundAuthorization_iff
    (hrotation : validateServiceTrustBundleRotation P predecessor successor
      = .ok ()) {a : ServiceTrustBundleAuthorization} :
    BoundAuthorization P predecessor successor a
      ↔ ∃ signer : ServicePublicKey × Bytes,
        RotationSigner P predecessor successor signer.1 signer.2
        ∧ a = authorizationOf P predecessor successor signer := by
  obtain ⟨hpredecessor, hsuccessor, hlast, hnext⟩ := rotation_bundles hrotation
  constructor
  · intro h
    obtain ⟨key, -, hservice, hid, hsigner⟩ := h.signer
    refine ⟨(key, a.authenticationTag), hsigner, ?_⟩
    have hvalid := h.valid
    unfold validServiceTrustBundleAuthorization at hvalid
    simp only [Bool.and_eq_true, beq_iff_eq] at hvalid
    obtain ⟨⟨⟨-, halgorithm⟩, -⟩, hidentity⟩ := hvalid
    have hpredecessorId := h.predecessorId
    have hsuccessorId := h.successorId
    have hpredecessorSequence := h.predecessorSequence
    have hsuccessorSequence := h.successorSequence
    -- the identity is a function of the other fields
    obtain ⟨id, predecessorId, successorId, sequence, next, service, keyId,
      algorithm, tag⟩ := a
    simp only at halgorithm hservice hid hpredecessorId hsuccessorId
    simp only at hpredecessorSequence hsuccessorSequence
    subst halgorithm hservice hid hpredecessorId hsuccessorId
    subst hpredecessorSequence hsuccessorSequence
    unfold authorizationOf
    rw [ServiceTrustBundleAuthorization.mk.injEq]
    exact ⟨hidentity.symm, rfl, rfl, rfl, rfl, rfl, rfl, rfl, rfl⟩
  · intro h
    obtain ⟨signer, hsigner, rfl⟩ := h
    obtain ⟨hservice, hid, hkey⟩ := key_of_mem hpredecessor hsigner.mem
    obtain ⟨signature, hsignature, -⟩ := hsigner.signed
    have hsequence := (minimum_pos hpredecessor).2
    have hpositive : predecessor.sequence > 0 := by
      rw [gt_iff_lt, UInt64.lt_iff_toNat_lt]
      exact Nat.pos_of_ne_zero fun h => hsequence (UInt64.toNat_inj.mp h)
    have hdecoded : (decodeHex signer.2 kEd25519SignatureBytes).isOk = true := by
      rw [hsignature]
      rfl
    refine ⟨?_, rfl, rfl, rfl, rfl, signer.1, hkey, rfl, rfl, hsigner⟩
    unfold validServiceTrustBundleAuthorization authorizationOf
    simp only [Bool.and_eq_true, bne_iff_ne, beq_iff_eq, decide_eq_true_eq]
    exact ⟨⟨⟨⟨⟨⟨⟨⟨⟨⟨hlast, P.validSha256_digest _⟩, (bundle_valid hpredecessor).1⟩,
      (bundle_valid hsuccessor).1⟩, hpositive⟩, hnext⟩, hservice⟩, hid⟩, trivial⟩,
      hdecoded⟩, rfl⟩

/-- **What carries a rotation**: the authorizations of a quorum. -/
theorem carries_iff {l : List ServiceTrustBundleAuthorization} :
    Carries P predecessor successor l
      ↔ validateServiceTrustBundleRotation P predecessor successor = .ok ()
        ∧ 2 ≤ predecessor.storageSchema ∧ l.length ≤ 100000
        ∧ ∃ signers, SignedQuorum P predecessor successor signers
          ∧ l = signers.map (authorizationOf P predecessor successor) := by
  have hsigners : ∀ signers : List (ServicePublicKey × Bytes),
      (signers.map (authorizationOf P predecessor successor)).map (·.signer)
        = signers.map fun s => (s.1.serviceId, s.1.id) := by
    intro signers
    rw [List.map_map]
    rfl
  constructor
  · intro h
    refine ⟨h.rotation, h.schema, h.limit, ?_⟩
    have hsigned : ∀ a ∈ l, ∃ signer : ServicePublicKey × Bytes,
        RotationSigner P predecessor successor signer.1 signer.2
        ∧ a = authorizationOf P predecessor successor signer :=
      fun a ha => (boundAuthorization_iff h.rotation).mp (h.bound a ha)
    obtain ⟨signers, hall, hl⟩ : ∃ signers : List (ServicePublicKey × Bytes),
        (∀ s ∈ signers, RotationSigner P predecessor successor s.1 s.2)
        ∧ l = signers.map (authorizationOf P predecessor successor) := by
      clear h
      induction l with
      | nil => exact ⟨[], fun s hs => absurd hs List.not_mem_nil, rfl⟩
      | cons a l ih =>
          obtain ⟨signer, hsigner, ha⟩ := hsigned a List.mem_cons_self
          obtain ⟨signers, hall, hl⟩ :=
            ih fun b hb => hsigned b (List.mem_cons_of_mem a hb)
          refine ⟨signer :: signers, List.forall_mem_cons.mpr ⟨hsigner, hall⟩, ?_⟩
          rw [List.map_cons, ← ha, ← hl]
    refine ⟨signers, ⟨hall, ?_⟩, hl⟩
    rw [← hsigners, ← hl]
    exact h.policy
  · intro h
    obtain ⟨hrotation, hschema, hlimit, signers, hquorum, rfl⟩ := h
    refine ⟨hrotation, hschema, hlimit, ?_, ?_⟩
    · intro a ha
      obtain ⟨signer, hsigner, rfl⟩ := List.mem_map.mp ha
      exact (boundAuthorization_iff hrotation).mpr
        ⟨signer, hquorum.signed signer hsigner, rfl⟩
    · rw [hsigners]
      exact hquorum.policy

-- === histories

/-- The link between neighbours of a history carries a quorum. -/
theorem quorum_of_entryLinked {schema : UInt32}
    {previous record : ServiceTrustRotationRecord}
    (h : entryLinked P schema (some (predecessor, previous)) successor record
      = true) :
    ∃ signers, SignedQuorum P predecessor successor signers := by
  have hquorum : ∀ {l}, Carries P predecessor successor l →
      ∃ signers, SignedQuorum P predecessor successor signers := by
    intro l hcarries
    obtain ⟨-, -, -, signers, hsigned, -⟩ := carries_iff.mp hcarries
    exact ⟨signers, hsigned⟩
  unfold entryLinked at h
  simp only [Bool.and_eq_true] at h
  replace h := h.2
  split at h
  · split at h
    · obtain ⟨-, hcarries⟩ := verifySingle_iff.mp (eq_ok_of_isOk h)
      exact hquorum hcarries
    · cases h
  · split at h
    · obtain ⟨l, hcarries, -⟩ := verifySet_iff.mp (eq_ok_of_isOk h)
      exact hquorum hcarries
    · cases h

/-- What is opened is valid. -/
theorem valid_of_openHistory {files : TrustHistoryFiles}
    {expectedRoot expectedHead : Bytes} {options : ServiceTrustHistoryLoadOptions}
    {history : ServiceTrustHistory}
    (h : ServiceTrustHistory.openHistory P files expectedRoot expectedHead options
      = .ok history) :
    history.valid P = true := by
  unfold ServiceTrustHistory.openHistory at h
  rw [ite_failure_eq_ok, bind_eq_ok] at h
  obtain ⟨-, ⟨schema, root⟩, -, h⟩ := h
  rw [ite_failure_eq_ok, bind_eq_ok] at h
  obtain ⟨-, decoded, -, h⟩ := h
  rw [ite_failure_eq_ok, bind_eq_ok] at h
  obtain ⟨-, replayed, -, h⟩ := h
  rw [ite_failure_eq_ok, ite_failure_eq_ok] at h
  obtain ⟨hvalid, -, hhistory⟩ := h
  rw [← Except.ok.inj hhistory]
  simpa using hvalid

/-- What is signed names the rotation and the signer. -/
theorem rotationMessage_inj {predecessor' successor' : ServiceTrustBundle}
    {key key' : ServicePublicKey}
    (h : rotationMessage P predecessor successor key
      = rotationMessage P predecessor' successor' key') :
    predecessor.id = predecessor'.id ∧ successor.id = successor'.id
      ∧ predecessor.sequence = predecessor'.sequence
      ∧ successor.sequence = successor'.sequence
      ∧ key.serviceId = key'.serviceId ∧ key.id = key'.id := by
  have hfields := fields_of_message_eq h
  simp only [rotationAuthorizationFields, List.cons.injEq, Prod.mk.injEq, true_and,
    and_true, Json.string.injEq] at hfields
  obtain ⟨hpredecessor, hsequence, hkey, hservice, hsuccessor, hnext⟩ := hfields
  exact ⟨hpredecessor, hsuccessor, UInt64.toNat_inj.mp (Json.uint_inj hsequence),
    UInt64.toNat_inj.mp (Json.uint_inj hnext), hservice, hkey⟩

end

-- === the result

/-- **Every rotation carries a quorum.** In a valid history, of either
schema, opened or not, each record after the root stands between two
bundles, and keys of the first, as many as its policy asks for, signed
exactly this rotation. The set form accepts the assembly of the
signatures of a quorum and nothing else; what is assembled depends on the
signers and not on their order; and where one signature is enough the
single form accepts what a set of one does. -/
theorem rotations_carry_quorums (P : Platform) :
    (∀ history : ServiceTrustHistory,
      (history.valid P = true ∨ ∃ files root head options,
        ServiceTrustHistory.openHistory P files root head options = .ok history) →
      ∀ i record, history.records[i + 1]? = some record →
      ∃ predecessor successor, history.bundles[i]? = some predecessor
        ∧ history.bundles[i + 1]? = some successor
        ∧ record.bundleId = successor.id
        ∧ ∃ signers, SignedQuorum P predecessor successor signers)
    ∧ (∀ predecessor successor set,
      verifyServiceTrustBundleSuccessorSet P predecessor successor set = .ok ()
        ↔ ∃ signers, SignedQuorum P predecessor successor signers
          ∧ assembleServiceTrustBundleAuthorizations P predecessor successor
            (signers.map (authorizationOf P predecessor successor)) = .ok set)
    ∧ (∀ predecessor successor signers,
      validateServiceTrustBundleRotation P predecessor successor = .ok () →
      2 ≤ predecessor.storageSchema → signers.length ≤ 100000 →
      SignedQuorum P predecessor successor signers →
      assembleServiceTrustBundleAuthorizations P predecessor successor
          (signers.map (authorizationOf P predecessor successor))
        = .ok (canonicalSet P predecessor successor
          (signers.map (authorizationOf P predecessor successor))))
    ∧ (∀ predecessor successor l l' set, l.Perm l' →
      (assembleServiceTrustBundleAuthorizations P predecessor successor l = .ok set
        ↔ assembleServiceTrustBundleAuthorizations P predecessor successor l'
          = .ok set))
    ∧ (∀ predecessor successor a,
      predecessor.rotationPolicy.minimumSignatures = 1 →
      (verifyServiceTrustBundleSuccessor P predecessor successor a = .ok ()
        ↔ verifyServiceTrustBundleSuccessorSet P predecessor successor
          (canonicalSet P predecessor successor [a]) = .ok ()))
    ∧ (∀ predecessor successor predecessor' successor' key key',
      rotationMessage P predecessor successor key
          = rotationMessage P predecessor' successor' key' →
      predecessor.id = predecessor'.id ∧ successor.id = successor'.id
        ∧ predecessor.sequence = predecessor'.sequence
        ∧ successor.sequence = successor'.sequence
        ∧ key.serviceId = key'.serviceId ∧ key.id = key'.id) := by
  refine ⟨?_, ?_, ?_, ?_, ?_, ?_⟩
  · intro history haccepted i record hrecord
    have hvalid : history.valid P = true := by
      rcases haccepted with hvalid | ⟨files, root, head, options, hopen⟩
      · exact hvalid
      · exact valid_of_openHistory hopen
    have hlt : i + 1 < history.records.length :=
      (List.getElem?_eq_some_iff.mp hrecord).1
    obtain ⟨predecessor, -, hpredecessor, -, -⟩ :=
      history_entry hvalid (Nat.lt_of_succ_lt hlt)
    obtain ⟨successor, named, hsuccessor, hnamed, hentry⟩ := history_entry hvalid hlt
    rw [hrecord, Option.some.injEq] at hnamed
    obtain ⟨previous, linking, hlinking, hlinked⟩ :=
      history_linked hvalid hpredecessor hsuccessor
    have hid := hentry.bundleId
    rw [← hnamed] at hid
    exact ⟨predecessor, successor, hpredecessor, hsuccessor, hid,
      quorum_of_entryLinked hlinked⟩
  · intro predecessor successor set
    rw [verifySet_iff]
    constructor
    · intro h
      obtain ⟨l, hcarries, hset⟩ := h
      obtain ⟨-, -, -, signers, hquorum, rfl⟩ := carries_iff.mp hcarries
      exact ⟨signers, hquorum, assembleAuthorizations_iff.mpr ⟨hcarries, hset⟩⟩
    · intro h
      obtain ⟨signers, -, hassembled⟩ := h
      exact ⟨_, assembleAuthorizations_iff.mp hassembled⟩
  · intro predecessor successor signers hrotation hschema hlimit hquorum
    apply assembleAuthorizations_iff.mpr
    refine ⟨carries_iff.mpr ⟨hrotation, hschema, ?_, signers, hquorum, rfl⟩, rfl⟩
    rw [List.length_map]
    exact hlimit
  · intro predecessor successor l l' set hperm
    exact assembleAuthorizations_perm hperm
  · intro predecessor successor a hminimum
    exact single_iff_set hminimum
  · intro predecessor successor predecessor' successor' key key' h
    exact rotationMessage_inj h

/-- A history with a rotation, and the key that signed it. -/
theorem rotations_carry_quorums_sample :
    ∃ predecessor successor,
      (revocationHistory (host fun _ _ _ => true)).bundles[1]? = some successor
      ∧ ∃ signers, SignedQuorum (host fun _ _ _ => true) predecessor successor
        signers := by
  have hvalid := valid_revocationHistory (host fun _ _ _ => true) fun _ _ _ => rfl
  have hrecord : (revocationHistory (host fun _ _ _ => true)).records[0 + 1]?
      = some (revokingRecord (host fun _ _ _ => true)) := rfl
  obtain ⟨predecessor, successor, -, hsuccessor, -, hquorum⟩ :=
    (rotations_carry_quorums (host fun _ _ _ => true)).1 _ (.inl hvalid) 0 _ hrecord
  exact ⟨predecessor, successor, hsuccessor, hquorum⟩

end RbfSafe
