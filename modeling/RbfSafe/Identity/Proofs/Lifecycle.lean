/-
The life of a key through a trust history.

A rotation looks at two neighbouring bundles only: every key of the one
is looked up in the other and compared. What holds of a key from any
bundle to any later one is the closure of that comparison
(`KeySuccession`), which is reflexive and transitive, so the chain is an
induction over the distance of the two bundles. A lookup finds the key
it is asked for because the keys of a bundle are strictly ordered by
service and id: no second key has them.

# Endings

`retired` and `revoked` are final for rotation and `revoked` for every
use: a state is only left towards the end of the order, and the two
queries that hand out authority ask for a state before it.
-/
import RbfSafe.Identity.Proofs.Checkpoint
import RbfSafe.Execution.Deployment

namespace RbfSafe

-- === states

/-- The steps a key takes. -/
inductive StateStep : ServiceKeyState → ServiceKeyState → Prop
  | activate : StateStep .pending .active
  | retire : StateStep .active .retired
  | revoke (state : ServiceKeyState) : StateStep state .revoked

/-- The table of the source allows no state but one a few steps on. -/
theorem steps_of_validStateTransition {previous next : ServiceKeyState}
    (h : validStateTransition previous next = true) :
    Relation.ReflTransGen StateStep previous next := by
  cases previous <;> cases next <;> first
    | exact Relation.ReflTransGen.refl
    | exact Relation.ReflTransGen.single .activate
    | exact Relation.ReflTransGen.single .retire
    | exact Relation.ReflTransGen.single (.revoke _)
    | cases h

/-- A retired key stays retired or is revoked. -/
theorem retired_or_revoked {previous next : ServiceKeyState}
    (h : Relation.ReflTransGen StateStep previous next)
    (hended : previous = .revoked ∨ previous = .retired) :
    next = .revoked ∨ next = .retired := by
  induction h with
  | refl => exact hended
  | tail _ step ih =>
      cases step with
      | activate => rcases ih with h | h <;> cases h
      | retire => rcases ih with h | h <;> cases h
      | revoke => exact Or.inl rfl

/-- A revoked key stays revoked. -/
theorem revoked_stays {next : ServiceKeyState}
    (h : Relation.ReflTransGen StateStep .revoked next) : next = .revoked := by
  induction h with
  | refl => rfl
  | tail _ step ih =>
      cases step with
      | activate => cases ih
      | retire => cases ih
      | revoke => rfl

-- === successions

/-- What a later bundle may have made of a key. -/
structure KeySuccession (key later : ServicePublicKey) : Prop where
  serviceId : later.serviceId = key.serviceId
  id : later.id = key.id
  publicKey : later.publicKey = key.publicKey
  validFromSequence : later.validFromSequence = key.validFromSequence
  allowFetch : later.allowFetch = key.allowFetch
  allowPublish : later.allowPublish = key.allowPublish
  allowRotate : later.allowRotate = key.allowRotate
  state : Relation.ReflTransGen StateStep key.state later.state
  window : key.validThroughSequence ≠ 0 →
    later.validThroughSequence = key.validThroughSequence

theorem KeySuccession.refl (key : ServicePublicKey) : KeySuccession key key :=
  ⟨rfl, rfl, rfl, rfl, rfl, rfl, rfl, .refl, fun _ => rfl⟩

theorem KeySuccession.trans {key middle later : ServicePublicKey}
    (h : KeySuccession key middle) (h' : KeySuccession middle later) :
    KeySuccession key later where
  serviceId := h'.serviceId.trans h.serviceId
  id := h'.id.trans h.id
  publicKey := h'.publicKey.trans h.publicKey
  validFromSequence := h'.validFromSequence.trans h.validFromSequence
  allowFetch := h'.allowFetch.trans h.allowFetch
  allowPublish := h'.allowPublish.trans h.allowPublish
  allowRotate := h'.allowRotate.trans h.allowRotate
  state := h.state.trans h'.state
  window hfixed := by
    have hmiddle := h.window hfixed
    rw [← hmiddle] at hfixed
    exact (h'.window hfixed).trans hmiddle

/-- One rotation. -/
theorem succession_of_validateRotation {previous next : ServicePublicKey}
    (h : validateRotation previous next = .ok ()) :
    KeySuccession previous next := by
  unfold validateRotation at h
  simp only [ite_failure_eq_ok, Bool.or_eq_true, Bool.not_eq_true',
    not_or, Bool.not_eq_false, ne_eq, not_and, not_not] at h
  obtain ⟨⟨hsame, hstate⟩, hwindow, -⟩ := h
  unfold sameImmutableKeyPolicy at hsame
  simp only [Bool.and_eq_true, beq_iff_eq] at hsame
  obtain ⟨⟨⟨⟨⟨⟨⟨hid, hservice⟩, -⟩, hkey⟩, hfrom⟩, hfetch⟩, hpublish⟩, hrotate⟩ :=
    hsame
  exact ⟨hservice.symm, hid.symm, hkey.symm, hfrom.symm, hfetch.symm,
    hpublish.symm, hrotate.symm, steps_of_validStateTransition hstate, hwindow⟩

-- === bundles

section
variable {P : Platform}

/-- The keys of a valid bundle, each of which stands alone. -/
theorem bundle_keys {bundle : ServiceTrustBundle} (h : bundle.valid P = true) :
    bundle.keys.Pairwise fun a b =>
      signerBefore a.serviceId a.id b.serviceId b.id = true := by
  unfold ServiceTrustBundle.valid at h
  simp only [Bool.and_eq_true] at h
  exact pairwise_of_strictlyOrdered h.1.2

/-- A service and a key id name one key of a bundle. -/
theorem key_unique {bundle : ServiceTrustBundle} (h : bundle.valid P = true)
    {key other : ServicePublicKey} (hkey : key ∈ bundle.keys)
    (hother : other ∈ bundle.keys) (hservice : other.serviceId = key.serviceId)
    (hid : other.id = key.id) : other = key := by
  have hirrefl : ∀ s k : Bytes, signerBefore s k s k ≠ true := by
    intro s k hlt
    have hnot := signerBefore_asymm hlt
    rw [hlt] at hnot
    cases hnot
  have hordered := List.pairwise_iff_getElem.mp (bundle_keys h)
  obtain ⟨i, hi, rfl⟩ := List.mem_iff_getElem.mp hkey
  obtain ⟨j, hj, rfl⟩ := List.mem_iff_getElem.mp hother
  rcases Nat.lt_trichotomy i j with hlt | rfl | hlt
  · have hbefore := hordered i j hi hj hlt
    rw [hservice, hid] at hbefore
    exact absurd hbefore (hirrefl _ _)
  · rfl
  · have hbefore := hordered j i hj hi hlt
    rw [hservice, hid] at hbefore
    exact absurd hbefore (hirrefl _ _)

/-- A lookup returns the key with the service and the id. -/
theorem mem_of_key {bundle : ServiceTrustBundle} {serviceId keyId : Bytes}
    {found : ServicePublicKey}
    (h : bundle.key P serviceId keyId = .ok (some found)) :
    found ∈ bundle.keys ∧ found.serviceId = serviceId ∧ found.id = keyId := by
  unfold ServiceTrustBundle.key at h
  rw [ite_failure_eq_ok, Except.ok.injEq] at h
  have hmatch := List.find?_some h.2
  simp only [Bool.and_eq_true, beq_iff_eq] at hmatch
  exact ⟨List.mem_of_find?_eq_some h.2, hmatch.1, hmatch.2⟩

/-- The loop over the keys of the predecessor. -/
theorem succession_of_validateKeys {successor : ServiceTrustBundle} :
    ∀ {keys : List ServicePublicKey},
    validateKeys P successor keys = .ok () → ∀ key ∈ keys,
    ∃ later ∈ successor.keys, KeySuccession key later := by
  intro keys
  induction keys with
  | nil => exact fun _ key hkey => absurd hkey List.not_mem_nil
  | cons oldKey rest ih =>
      intro h key hkey
      unfold validateKeys at h
      obtain ⟨replacement, hfound, hrest⟩ := bind_eq_ok.mp h
      cases replacement with
      | none => cases hrest
      | some replacement =>
          obtain ⟨hrotation, hkeys⟩ := check_eq_ok.mp hrest
          rcases List.mem_cons.mp hkey with rfl | hkey
          · unfold ServiceTrustBundle.key at hfound
            rw [ite_failure_eq_ok, Except.ok.injEq] at hfound
            exact ⟨replacement, List.mem_of_find?_eq_some hfound.2,
              succession_of_validateRotation hrotation⟩
          · exact ih hkeys key hkey

/-- A rotation keeps every key of the predecessor. -/
theorem succession_of_rotation {predecessor successor : ServiceTrustBundle}
    (h : validateServiceTrustBundleRotation P predecessor successor = .ok ()) :
    ∀ key ∈ predecessor.keys, ∃ later ∈ successor.keys,
    KeySuccession key later := by
  unfold validateServiceTrustBundleRotation at h
  simp only [ite_failure_eq_ok] at h
  exact succession_of_validateKeys h.2.2

-- === the chain

/-- A single authorization is verified after the rotation. -/
theorem rotation_of_successor {predecessor successor : ServiceTrustBundle}
    {authorization : ServiceTrustBundleAuthorization}
    (h : verifyServiceTrustBundleSuccessor P predecessor successor authorization
      = .ok ()) :
    validateServiceTrustBundleRotation P predecessor successor = .ok () := by
  unfold verifyServiceTrustBundleSuccessor at h
  exact (check_eq_ok.mp h).1

/-- So is a set of them. -/
theorem rotation_of_successorSet {predecessor successor : ServiceTrustBundle}
    {set : ServiceTrustBundleAuthorizationSet}
    (h : verifyServiceTrustBundleSuccessorSet P predecessor successor set
      = .ok ()) :
    validateServiceTrustBundleRotation P predecessor successor = .ok () := by
  unfold verifyServiceTrustBundleSuccessorSet at h
  rw [ite_failure_eq_ok] at h
  obtain ⟨assembled, hassembled, -⟩ := bind_eq_ok.mp h.2
  unfold assembleServiceTrustBundleAuthorizations at hassembled
  exact (check_eq_ok.mp hassembled).1

theorem eq_ok_of_isOk {r : Result Unit} (h : r.isOk = true) : r = .ok () := by
  cases r with
  | error e => cases h
  | ok u => rfl

/-- The link of an entry to the one before it. -/
theorem rotation_of_entryLinked {schema : UInt32}
    {previous : ServiceTrustBundle × ServiceTrustRotationRecord}
    {bundle : ServiceTrustBundle} {record : ServiceTrustRotationRecord}
    (h : entryLinked P schema (some previous) bundle record = true) :
    validateServiceTrustBundleRotation P previous.1 bundle = .ok () := by
  unfold entryLinked at h
  simp only [Bool.and_eq_true] at h
  replace h := h.2
  split at h
  · split at h
    · exact rotation_of_successor (eq_ok_of_isOk h)
    · cases h
  · split at h
    · exact rotation_of_successorSet (eq_ok_of_isOk h)
    · cases h

/-- Neighbours of a valid chain are linked. -/
theorem entriesValid_linked {schema : UInt32} :
    ∀ {entries : List (ServiceTrustBundle × ServiceTrustRotationRecord)}
    {index : Nat}
    {previous : Option (ServiceTrustBundle × ServiceTrustRotationRecord)},
    entriesValid P schema index previous entries = true →
    ∀ {i : Nat} {entry next : ServiceTrustBundle × ServiceTrustRotationRecord},
    entries[i]? = some entry → entries[i + 1]? = some next →
    entryLinked P schema (some entry) next.1 next.2 = true := by
  intro entries
  induction entries with
  | nil =>
      intro index previous _ i entry next hi
      cases hi
  | cons first entries ih =>
      intro index previous h i entry next hi hnext
      obtain ⟨bundle, record⟩ := first
      rw [entriesValid, Bool.and_eq_true] at h
      rw [List.getElem?_cons_succ] at hnext
      cases i with
      | zero =>
          rw [List.getElem?_cons_zero, Option.some.injEq] at hi
          cases entries with
          | nil => cases hnext
          | cons second entries =>
              rw [List.getElem?_cons_zero, Option.some.injEq] at hnext
              subst hi hnext
              obtain ⟨nextBundle, nextRecord⟩ := second
              have hsecond := h.2
              rw [entriesValid, Bool.and_eq_true] at hsecond
              have hentry := hsecond.1
              unfold entryValid at hentry
              simp only [Bool.and_eq_true] at hentry
              exact hentry.2
      | succ i =>
          rw [List.getElem?_cons_succ] at hi
          exact ih h.2 hi hnext

/-- Neighbouring bundles of a valid history, and the record that links
them. -/
theorem history_linked {history : ServiceTrustHistory}
    (hvalid : history.valid P = true) {i : Nat}
    {earlier later : ServiceTrustBundle}
    (hi : history.bundles[i]? = some earlier)
    (hnext : history.bundles[i + 1]? = some later) :
    ∃ previous record, history.records[i + 1]? = some record
      ∧ entryLinked P history.storageSchema (some (earlier, previous)) later record
        = true := by
  obtain ⟨root, current, h⟩ := validHistory_iff.mp hvalid
  have hentry : ∀ {k : Nat} {bundle : ServiceTrustBundle},
      history.bundles[k]? = some bundle → ∃ record,
      history.records[k]? = some record
      ∧ (history.bundles.zip history.records)[k]? = some (bundle, record) := by
    intro k bundle hk
    have hlt : k < history.records.length :=
      h.lengths ▸ (List.getElem?_eq_some_iff.mp hk).1
    have hrecord := List.getElem?_eq_getElem hlt
    exact ⟨history.records[k], hrecord, List.getElem?_zip_eq_some.mpr ⟨hk, hrecord⟩⟩
  obtain ⟨record, -, hentryOf⟩ := hentry hi
  obtain ⟨nextRecord, hrecord, hnextOf⟩ := hentry hnext
  exact ⟨record, nextRecord, hrecord,
    entriesValid_linked h.entries hentryOf hnextOf⟩

/-- Neighbouring bundles of a valid history. -/
theorem history_rotation {history : ServiceTrustHistory}
    (hvalid : history.valid P = true) {i : Nat}
    {earlier later : ServiceTrustBundle}
    (hi : history.bundles[i]? = some earlier)
    (hnext : history.bundles[i + 1]? = some later) :
    validateServiceTrustBundleRotation P earlier later = .ok () := by
  obtain ⟨previous, record, -, hlinked⟩ := history_linked hvalid hi hnext
  have hrotation := rotation_of_entryLinked hlinked
  exact hrotation

/-- Every key of a bundle lives on in every later one. -/
theorem history_succession {history : ServiceTrustHistory}
    (hvalid : history.valid P = true) {i j : Nat} (hij : i ≤ j)
    {earlier later : ServiceTrustBundle}
    (hi : history.bundles[i]? = some earlier)
    (hj : history.bundles[j]? = some later) :
    ∀ key ∈ earlier.keys, ∃ successor ∈ later.keys,
    KeySuccession key successor := by
  induction hij generalizing later with
  | refl =>
      rw [hi, Option.some.injEq] at hj
      subst hj
      exact fun key hkey => ⟨key, hkey, .refl key⟩
  | @step j _ ih =>
      have hlt : j < history.bundles.length :=
        Nat.lt_of_succ_lt (List.getElem?_eq_some_iff.mp hj).1
      have hmiddle := List.getElem?_eq_getElem hlt
      intro key hkey
      obtain ⟨middle, hmem, hto⟩ := ih hmiddle key hkey
      obtain ⟨successor, hsuccessor, hfrom⟩ :=
        succession_of_rotation (history_rotation hvalid hmiddle hj) middle hmem
      exact ⟨successor, hsuccessor, hto.trans hfrom⟩

/-- A key that is trusted for an operation is not revoked. -/
theorem trusted_not_revoked {bundle : ServiceTrustBundle}
    {serviceId keyId : Bytes} {operation : ArtifactTransferOperation}
    {sequence : UInt64} {found : ServicePublicKey}
    (h : trustedServicePublicKey P bundle serviceId keyId operation sequence
      = .ok found) :
    found ∈ bundle.keys ∧ found.serviceId = serviceId ∧ found.id = keyId
      ∧ found.state ≠ .revoked := by
  unfold trustedServicePublicKey at h
  rw [ite_failure_eq_ok] at h
  obtain ⟨key, hkey, hrest⟩ := bind_eq_ok.mp h.2
  cases key with
  | none => cases hrest
  | some key =>
      simp only [ite_failure_eq_ok, Except.ok.injEq, Bool.or_eq_true, not_or,
        Bool.not_eq_true', Bool.not_eq_false, beq_iff_eq] at hrest
      obtain ⟨⟨⟨hstate, -⟩, -⟩, rfl⟩ := hrest
      obtain ⟨hmem, hservice, hid⟩ := mem_of_key hkey
      refine ⟨hmem, hservice, hid, fun hrevoked => ?_⟩
      rw [hrevoked] at hstate
      rcases hstate with h | h <;> cases h

end

-- === a history with a revocation

section
variable (P : Platform)

/-- A bundle with a key of either service. -/
def revocableBundle (sequence : UInt64) (parentId : Bytes)
    (alpha : ServicePublicKey) : ServiceTrustBundle :=
  let bundle : ServiceTrustBundle :=
    { sequence := sequence
      storageSchema := 2
      parentId := parentId
      keys := [alpha, sampleKey P (ascii "beta")] }
  { bundle with id := serviceTrustBundleIdentity P bundle }

def revocableRoot : ServiceTrustBundle :=
  revocableBundle P 1 [] (sampleKey P (ascii "alpha"))

/-- Its successor, in which the first key is revoked. -/
def revokingSuccessor : ServiceTrustBundle :=
  revocableBundle P 2 (revocableRoot P).id
    { sampleKey P (ascii "alpha") with state := .revoked }

def revocationSignature : Bytes :=
  [133, 118, 198, 78, 81, 147, 105, 105, 244, 87, 214, 16, 243, 255, 212, 121,
    32, 76, 118, 3, 255, 89, 188, 233, 231, 26, 36, 158, 41, 172, 250, 192,
    164, 145, 148, 53, 42, 61, 193, 41, 63, 30, 26, 150, 214, 131, 102, 94,
    147, 27, 103, 11, 73, 142, 96, 209, 210, 194, 245, 119, 171, 81, 149, 12]

def revocationAuthorization : ServiceTrustBundleAuthorization :=
  let authorization : ServiceTrustBundleAuthorization :=
    { predecessorBundleId := (revocableRoot P).id
      successorBundleId := (revokingSuccessor P).id
      predecessorSequence := 1
      successorSequence := 2
      signerServiceId := ascii "beta"
      signerKeyId := (sampleKey P (ascii "beta")).id
      authenticationTag := encodeHex revocationSignature }
  { authorization with
    id := serviceTrustBundleAuthorizationIdentity P authorization }

def revocableRecord : ServiceTrustRotationRecord :=
  let record : ServiceTrustRotationRecord :=
    { sequence := 1
      bundleId := (revocableRoot P).id }
  { record with id := serviceTrustRotationRecordIdentity P record }

def revokingRecord : ServiceTrustRotationRecord :=
  let record : ServiceTrustRotationRecord :=
    { sequence := 2
      parentId := (revocableRecord P).id
      type := .successorAuthorized
      bundleId := (revokingSuccessor P).id
      authorization := some (revocationAuthorization P) }
  { record with id := serviceTrustRotationRecordIdentity P record }

def revocationHistory : ServiceTrustHistory :=
  { rootBundleId := (revocableRoot P).id
    currentBundleId := (revokingSuccessor P).id
    bundles := [revocableRoot P, revokingSuccessor P]
    records := [revocableRecord P, revokingRecord P] }

theorem valid_revocableBundle {sequence : UInt64} {parentId : Bytes}
    {alpha : ServicePublicKey} (halpha : validServicePublicKey P alpha = true)
    (hservice : alpha.serviceId = ascii "alpha") (hsequence : sequence ≠ 0)
    (hfirst : sequence = 1 → parentId = [])
    (hlater : sequence > 1 → validSha256 parentId = true) :
    (revocableBundle P sequence parentId alpha).valid P = true := by
  have hordered : strictlyOrdered ServicePublicKey.serviceId ServicePublicKey.id
      [alpha, sampleKey P (ascii "beta")] = true := by
    obtain ⟨hlt, hne⟩ := alpha_before_beta
    show (!(decide (ascii "beta" < alpha.serviceId)
      || (alpha.serviceId == ascii "beta" && !_)) && _) = true
    rw [hservice, decide_eq_false (List.lt_asymm hlt),
      beq_eq_false_iff_ne.mpr hne]
    rfl
  have hkeys : [alpha, sampleKey P (ascii "beta")].all (fun key =>
      validServicePublicKey P key && !((2 : UInt32) == 1 && key.allowRotate))
      = true := by
    simp only [List.all_cons, List.all_nil, halpha,
      valid_sampleKey P validIdentifier_services.2]
    rfl
  have hparent : (!decide (sequence > 1) || validSha256 parentId) = true := by
    by_cases h : sequence > 1
    · rw [hlater h, Bool.or_true]
    · rw [decide_eq_false h]
      rfl
  have hroot : (sequence != 1 || parentId.isEmpty) = true := by
    by_cases h : sequence = 1
    · rw [hfirst h]
      simp
    · simp [h]
  unfold ServiceTrustBundle.valid revocableBundle
  simp only [Bool.and_eq_true]
  exact ⟨⟨⟨⟨⟨⟨⟨⟨⟨⟨rfl, bne_iff_ne.mpr hsequence⟩, rfl⟩, hroot⟩, hparent⟩,
    P.validSha256_digest _⟩, rfl⟩, rfl⟩, hkeys⟩, hordered⟩, beq_self_eq_true _⟩

theorem valid_revocableRoot : (revocableRoot P).valid P = true :=
  valid_revocableBundle P (valid_sampleKey P validIdentifier_services.1) rfl
    (by decide) (fun _ => rfl) (fun h => absurd h (by decide))

theorem valid_revokedKey : validServicePublicKey P
    { sampleKey P (ascii "alpha") with state := .revoked } = true := by
  have hactive := valid_sampleKey P validIdentifier_services.1
  unfold validServicePublicKey at hactive ⊢
  simp only [Bool.and_eq_true] at hactive ⊢
  obtain ⟨⟨h, -⟩, hid⟩ := hactive
  exact ⟨⟨h, rfl⟩, hid⟩

theorem valid_revokingSuccessor : (revokingSuccessor P).valid P = true :=
  valid_revocableBundle P (valid_revokedKey P) rfl (by decide)
    (fun h => absurd h (by decide)) (fun _ => P.validSha256_digest _)

/-- A lookup in either bundle, by the place of the key. -/
theorem key_revocableBundle {sequence : UInt64} {parentId : Bytes}
    {alpha : ServicePublicKey}
    (hvalid : (revocableBundle P sequence parentId alpha).valid P = true)
    (hservice : alpha.serviceId = ascii "alpha")
    (hid : alpha.id = (sampleKey P (ascii "alpha")).id) :
    (revocableBundle P sequence parentId alpha).key P (ascii "alpha")
        (sampleKey P (ascii "alpha")).id = .ok (some alpha) ∧
      (revocableBundle P sequence parentId alpha).key P (ascii "beta")
        (sampleKey P (ascii "beta")).id
        = .ok (some (sampleKey P (ascii "beta"))) := by
  have hdigest : ∀ service, validSha256 (sampleKey P service).id = true :=
    fun service => P.validSha256_digest _
  have hne := alpha_before_beta.2
  have hkeys : (revocableBundle P sequence parentId alpha).keys
      = [alpha, sampleKey P (ascii "beta")] := rfl
  have hbeta : (sampleKey P (ascii "beta")).serviceId = ascii "beta" := rfl
  unfold ServiceTrustBundle.key
  rw [hvalid, hdigest, hdigest, validIdentifier_services.1,
    validIdentifier_services.2, hkeys]
  simp only [Bool.not_true, Bool.or_self, Bool.false_eq_true, if_false]
  constructor
  · rw [List.find?_cons_of_pos]
    simp [hservice, hid]
  · rw [List.find?_cons_of_neg, List.find?_cons_of_pos]
    · simp [hbeta]
    · simp [hservice, hne]

/-- A rotation may change the state alone. -/
theorem validateRotation_state {key : ServicePublicKey} {state : ServiceKeyState}
    (hstep : validStateTransition key.state state = true)
    (hstate : state ≠ .retired) :
    validateRotation key { key with state := state } = .ok () := by
  unfold validateRotation sameImmutableKeyPolicy
  simp [hstep, hstate]
  exact fun h hne => absurd h hne

theorem rotation_revokingSuccessor : validateServiceTrustBundleRotation P
    (revocableRoot P) (revokingSuccessor P) = .ok () := by
  obtain ⟨halpha, hbeta⟩ := key_revocableBundle P (valid_revokingSuccessor P)
    rfl rfl
  have hkeys : (revocableRoot P).keys
      = [sampleKey P (ascii "alpha"), sampleKey P (ascii "beta")] := rfl
  have hfirst : (revocableRoot P).sequence = 1 := rfl
  have hsecond : (revokingSuccessor P).sequence = 2 := rfl
  unfold validateServiceTrustBundleRotation
  rw [valid_revocableRoot, valid_revokingSuccessor, hkeys, ite_failure_eq_ok,
    ite_failure_eq_ok, hfirst, hsecond]
  refine ⟨by simp, ?_, ?_⟩
  · rintro (h | h | h | h | h | h)
    · exact absurd h (by decide)
    · exact absurd h (by decide)
    all_goals exact h rfl
  · unfold validateKeys validateKeys validateKeys
    refine bind_eq_ok.mpr ⟨_, halpha, check_eq_ok.mpr ⟨?_, ?_⟩⟩
    · exact validateRotation_state rfl (by decide)
    · refine bind_eq_ok.mpr ⟨_, hbeta, check_eq_ok.mpr ⟨?_, rfl⟩⟩
      exact validateRotation_state rfl (by decide)

theorem valid_revocationAuthorization :
    validServiceTrustBundleAuthorization P (revocationAuthorization P) = true := by
  have hdecode : decodeHex (encodeHex revocationSignature) kEd25519SignatureBytes
      = .ok revocationSignature := decodeHex_encodeHex revocationSignature
  unfold validServiceTrustBundleAuthorization revocationAuthorization
  simp only [hdecode, validIdentifier_services.2, Bool.and_eq_true]
  exact ⟨⟨⟨⟨⟨⟨⟨⟨⟨⟨rfl, P.validSha256_digest _⟩, P.validSha256_digest _⟩,
    P.validSha256_digest _⟩, rfl⟩, rfl⟩, trivial⟩, P.validSha256_digest _⟩, rfl⟩,
    rfl⟩, beq_self_eq_true _⟩

theorem successor_revokingSuccessor (hcheck : ∀ signature key message,
    P.ed25519Check signature key message = true) :
    verifyServiceTrustBundleSuccessor P (revocableRoot P) (revokingSuccessor P)
      (revocationAuthorization P) = .ok () := by
  have hkey := (key_revocableBundle P (valid_revocableRoot P) rfl rfl).2
  have hdecode : decodeHex (encodeHex revocationSignature) kEd25519SignatureBytes
      = .ok revocationSignature := decodeHex_encodeHex revocationSignature
  have hauthorized : rotationKeyIsAuthorized (sampleKey P (ascii "beta"))
      (revokingSuccessor P).sequence = true := rfl
  unfold verifyServiceTrustBundleSuccessor
  refine check_eq_ok.mpr ⟨rotation_revokingSuccessor P, ?_⟩
  have hschema : (revocableRoot P).storageSchema = 2 := rfl
  have hquorum : (revocableRoot P).rotationPolicy.minimumSignatures = 1 := rfl
  rw [hschema, hquorum, if_neg (by decide), if_neg (by decide)]
  unfold verifyRotationAuthorizationBinding
  rw [valid_revocationAuthorization, ite_failure_eq_ok, ite_failure_eq_ok]
  refine ⟨by simp, ?_, bind_eq_ok.mpr ⟨_, hkey, ?_⟩⟩
  · rintro (h | h | h | h)
    all_goals exact h rfl
  · simp only [hauthorized, Bool.not_true, Bool.false_eq_true, if_false]
    refine bind_eq_ok.mpr ⟨_, hdecode, ?_⟩
    unfold ed25519Verify
    rw [if_neg, if_neg]
    · simp [hcheck]
    · simp [kEd25519PublicKeyBytes, kEd25519SignatureBytes, revocationSignature]

theorem valid_revocationHistory (hcheck : ∀ signature key message,
    P.ed25519Check signature key message = true) :
    (revocationHistory P).valid P = true := by
  have hrootRecord : validRecordStructure P (revocableRecord P) = true := by
    unfold validRecordStructure
    simp only [Bool.and_eq_true]
    exact ⟨⟨⟨⟨rfl, rfl⟩, P.validSha256_digest _⟩, P.validSha256_digest _⟩,
      beq_self_eq_true _⟩
  have hsuccessorRecord : validRecordStructure P (revokingRecord P) = true := by
    have hparent : validSha256 (revokingRecord P).parentId = true :=
      P.validSha256_digest _
    unfold validRecordStructure
    rw [hparent]
    simp only [Bool.and_eq_true]
    exact ⟨⟨⟨⟨rfl, rfl⟩, P.validSha256_digest _⟩, P.validSha256_digest _⟩,
      beq_self_eq_true _⟩
  have hroot : entryValid P kLegacyHistorySchema 0 none (revocableRoot P)
      (revocableRecord P) = true := by
    unfold entryValid
    simp only [Bool.and_eq_true]
    exact ⟨⟨⟨⟨⟨⟨⟨valid_revocableRoot P, rfl⟩, rfl⟩, rfl⟩, rfl⟩,
      beq_self_eq_true _⟩, hrootRecord⟩, rfl⟩
  have hlinked : entryLinked P kLegacyHistorySchema
      (some (revocableRoot P, revocableRecord P)) (revokingSuccessor P)
      (revokingRecord P) = true := by
    show (_ && _ == _ && (verifyServiceTrustBundleSuccessor P (revocableRoot P)
      (revokingSuccessor P) (revocationAuthorization P)).isOk) = true
    rw [successor_revokingSuccessor P hcheck]
    simp only [Bool.and_eq_true]
    exact ⟨⟨rfl, beq_self_eq_true _⟩, rfl⟩
  have hsuccessor : entryValid P kLegacyHistorySchema 1
      (some (revocableRoot P, revocableRecord P)) (revokingSuccessor P)
      (revokingRecord P) = true := by
    unfold entryValid
    rw [hlinked]
    simp only [Bool.and_eq_true]
    exact ⟨⟨⟨⟨⟨⟨⟨valid_revokingSuccessor P, rfl⟩, rfl⟩, rfl⟩, rfl⟩,
      beq_self_eq_true _⟩, hsuccessorRecord⟩, trivial⟩
  refine validHistory_iff.mpr ⟨revocableRoot P, revokingSuccessor P, rfl, rfl,
    rfl, rfl, P.validSha256_digest _, rfl, rfl, ?_⟩
  show (entryValid P kLegacyHistorySchema 0 none (revocableRoot P)
    (revocableRecord P) && (entryValid P kLegacyHistorySchema 1
      (some (revocableRoot P, revocableRecord P)) (revokingSuccessor P)
      (revokingRecord P) && true)) = true
  rw [hroot, hsuccessor]
  rfl

end

-- === the result

section
variable {P : Platform}

/-- **The lifecycle of a key is monotone.** A key of a bundle is the one
key of its name in every later bundle, with what it was created with, a
state a few steps on and the end of its window once it has one. When it
is retired or revoked it rotates no bundle any more, and when it is
revoked no operation trusts it, at any sequence. -/
theorem keyLifecycle_monotone {history : ServiceTrustHistory}
    (hvalid : history.valid P = true) {i j : Nat} (hij : i ≤ j)
    {earlier later : ServiceTrustBundle}
    (hi : history.bundles[i]? = some earlier)
    (hj : history.bundles[j]? = some later)
    {key : ServicePublicKey} (hkey : key ∈ earlier.keys) :
    ∃ successor ∈ later.keys, KeySuccession key successor ∧
      (∀ other ∈ later.keys, other.serviceId = key.serviceId →
        other.id = key.id → other = successor) ∧
      (key.state = .revoked ∨ key.state = .retired → ∀ sequence,
        rotationKeyIsAuthorized successor sequence = false) ∧
      (key.state = .revoked → ∀ operation sequence found,
        trustedServicePublicKey P later key.serviceId key.id operation sequence
          ≠ .ok found) := by
  obtain ⟨successor, hmem, hsuccession⟩ :=
    history_succession hvalid hij hi hj key hkey
  have hlater : later.valid P = true := by
    have hlt : j < history.records.length :=
      history_lengths hvalid ▸ (List.getElem?_eq_some_iff.mp hj).1
    obtain ⟨bundle, record, hbundle, -, hentry⟩ := history_entry hvalid hlt
    rw [hj, Option.some.injEq] at hbundle
    rw [hbundle]
    exact hentry.valid
  have hunique : ∀ other ∈ later.keys, other.serviceId = key.serviceId →
      other.id = key.id → other = successor := by
    intro other hother hservice hid
    exact key_unique hlater hmem hother
      (hservice.trans hsuccession.serviceId.symm) (hid.trans hsuccession.id.symm)
  refine ⟨successor, hmem, hsuccession, hunique, ?_, ?_⟩
  · intro hended sequence
    have hstate : successor.state ≠ .active := by
      rcases retired_or_revoked hsuccession.state hended with h | h
      all_goals
        rw [h]
        exact fun h => nomatch h
    unfold rotationKeyIsAuthorized
    rw [beq_eq_false_iff_ne.mpr hstate]
    rfl
  · intro hrevoked operation sequence found htrusted
    obtain ⟨hfound, hservice, hid, hstate⟩ := trusted_not_revoked htrusted
    rw [hunique found hfound hservice hid] at hstate
    have hsteps := hsuccession.state
    rw [hrevoked] at hsteps
    exact hstate (revoked_stays hsteps)

end

theorem keyLifecycle_monotone_sample :
    let P := host fun _ _ _ => true
    ∃ successor ∈ (revokingSuccessor P).keys,
      KeySuccession (sampleKey P (ascii "alpha")) successor := by
  intro P
  have hvalid := valid_revocationHistory P fun _ _ _ => rfl
  have hroot : (revocationHistory P).bundles[0]? = some (revocableRoot P) := rfl
  have hsuccessor : (revocationHistory P).bundles[1]?
      = some (revokingSuccessor P) := rfl
  have hkey : sampleKey P (ascii "alpha") ∈ (revocableRoot P).keys :=
    List.mem_cons_self
  obtain ⟨successor, hmem, hsuccession, -⟩ :=
    keyLifecycle_monotone hvalid (Nat.zero_le 1) hroot hsuccessor hkey
  exact ⟨successor, hmem, hsuccession⟩

end RbfSafe
