/-
A rotation record is what its id says.

The id of a record is the digest of its fields and of the id of what
authorized it; the id of an authorization is the digest of its message
and its signature. So records of one id are one record, as long as the
digests at hand do not collide (`rotationRecord_eq`).

The ids of an authorization set are printed as one array, of any length:
the document is told here without the limits of the parser
(`plain_dump_injective`).
-/
import RbfSafe.Identity.Proofs.History

namespace RbfSafe

open Json

-- === authorizations

/-- The fields of `authorizationJson`. -/
def rotationAuthorizationFields (a : ServiceTrustBundleAuthorization) :
    List (String × Json) :=
  [("algorithm", num a.algorithm.toNat),
    ("format", string (ascii "rbfsafe-service-trust-bundle-authorization")),
    ("predecessor_bundle_id", string a.predecessorBundleId),
    ("predecessor_sequence", uint a.predecessorSequence.toNat),
    ("schema", num 1),
    ("signer_key_id", string a.signerKeyId),
    ("signer_service_id", string a.signerServiceId),
    ("successor_bundle_id", string a.successorBundleId),
    ("successor_sequence", uint a.successorSequence.toNat)]

/-- What the id of an authorization is the digest of. -/
def authorizationDocument (P : Platform) (a : ServiceTrustBundleAuthorization) :
    Bytes :=
  ascii "rbfsafe-service-trust-bundle-authorization-identity-v1\n"
    ++ serviceTrustBundleAuthorizationMessage P a ++ ascii "\n"
    ++ a.authenticationTag

theorem fits_rotationAuthorizationFields {a : ServiceTrustBundleAuthorization} :
    ∀ field ∈ rotationAuthorizationFields a, Fits 64 field.2 := by
  intro field hfield
  simp only [rotationAuthorizationFields, List.mem_cons, List.not_mem_nil, or_false]
    at hfield
  rcases hfield with rfl | rfl | rfl | rfl | rfl | rfl | rfl | rfl | rfl
  · apply fits_num
    cases a.algorithm <;> decide
  · exact .string _
  · exact .string _
  · exact .string _
  · exact fits_num (by decide)
  all_goals exact .string _

/-- A signature that is read has the length of one. -/
theorem length_of_decodeHex {text : Bytes} {n : Nat}
    (h : (decodeHex text n).isOk = true) : text.length = n * 2 := by
  by_contra hlength
  rw [decodeHex, if_pos hlength] at h
  cases h

/-- Messages that print alike say the same. -/
theorem fields_of_message_eq {P : Platform} {a a' : ServiceTrustBundleAuthorization}
    (hmessage : serviceTrustBundleAuthorizationMessage P a
      = serviceTrustBundleAuthorizationMessage P a') :
    rotationAuthorizationFields a = rotationAuthorizationFields a' := by
  apply values_of_dump_eq P.toLibc
  · rfl
  · show [ascii "algorithm", ascii "format", ascii "predecessor_bundle_id",
      ascii "predecessor_sequence", ascii "schema", ascii "signer_key_id",
      ascii "signer_service_id", ascii "successor_bundle_id",
      ascii "successor_sequence"].Nodup
    decide
  · exact fits_rotationAuthorizationFields
  · exact fits_rotationAuthorizationFields
  · exact List.append_cancel_left hmessage

/-- **Authorizations of one document are one.** -/
theorem authorization_eq {P : Platform} {a a' : ServiceTrustBundleAuthorization}
    (h : validServiceTrustBundleAuthorization P a = true)
    (h' : validServiceTrustBundleAuthorization P a' = true)
    (hid : a.id = a'.id)
    (hdocument : authorizationDocument P a = authorizationDocument P a') :
    a = a' := by
  simp only [validServiceTrustBundleAuthorization, Bool.and_eq_true, beq_iff_eq]
    at h h'
  have halgorithm : a.algorithm = a'.algorithm := h.1.1.2.trans h'.1.1.2.symm
  have hlength : a.authenticationTag.length = a'.authenticationTag.length :=
    (length_of_decodeHex h.1.2).trans (length_of_decodeHex h'.1.2).symm
  obtain ⟨hmessage, htag⟩ := List.append_inj' hdocument hlength
  have hmessage' := List.append_cancel_left
    (List.append_cancel_right hmessage)
  have hfields := fields_of_message_eq hmessage'
  simp only [rotationAuthorizationFields, List.cons.injEq, Prod.mk.injEq, true_and,
    and_true, Json.string.injEq] at hfields
  obtain ⟨-, hpredecessor, hpredecessor', hkey, hservice, hsuccessor,
    hsuccessor'⟩ := hfields
  cases a
  cases a'
  simp only [ServiceTrustBundleAuthorization.mk.injEq]
  exact ⟨hid, hpredecessor, hsuccessor, UInt64.toNat_inj.mp (uint_inj hpredecessor'),
    UInt64.toNat_inj.mp (uint_inj hsuccessor'), hservice, hkey, halgorithm, htag⟩

/-- What the id of an authorization set is the digest of. -/
def authorizationSetDocument (P : Platform)
    (set : ServiceTrustBundleAuthorizationSet) : Bytes :=
  (authorizationSetJson set).dump P.toLibc false 0

theorem plain_authorizationSetJson (set : ServiceTrustBundleAuthorizationSet) :
    Plain (authorizationSetJson set) := by
  have hids : Plain (array (set.authorizations.map fun a => string a.id)) := by
    apply Plain.array
    intro item hitem
    obtain ⟨a, -, rfl⟩ := List.mem_map.mp hitem
    exact .string _
  apply plain_obj
  simp only [List.forall_mem_cons, List.not_mem_nil, false_imp_iff, implies_true,
    and_true]
  exact ⟨hids, .string _, .string _, .string _, .num (by decide), .string _,
    .string _⟩

/-- The text of a value. -/
def textOf : Json → Bytes
  | string s => s
  | _ => []

/-- The document of a set tells the ids of its authorizations. -/
theorem ids_of_setDocument {P : Platform}
    {set set' : ServiceTrustBundleAuthorizationSet}
    (h : authorizationSetDocument P set = authorizationSetDocument P set') :
    set.authorizations.map (·.id) = set'.authorizations.map (·.id) := by
  have hdocument := plain_dump_injective P.toLibc
    (plain_authorizationSetJson set) (plain_authorizationSetJson set') h
  have hfind : ∀ set : ServiceTrustBundleAuthorizationSet,
      find (ascii "authorization_ids") (authorizationSetJson set)
        = some (array (set.authorizations.map fun a => string a.id)) := by
    intro set
    rw [authorizationSetJson, find_obj_lookup]
    rfl
  have hids := hfind set
  rw [hdocument, hfind set', Option.some.injEq, Json.array.injEq] at hids
  have hmap := congrArg (List.map textOf) hids
  rw [List.map_map, List.map_map] at hmap
  exact hmap.symm

/-- **Authorization sets of one document are one**, if their
authorizations do not collide. -/
theorem authorizationSet_eq {P : Platform}
    {set set' : ServiceTrustBundleAuthorizationSet}
    (h : validServiceTrustBundleAuthorizationSet P set = true)
    (h' : validServiceTrustBundleAuthorizationSet P set' = true)
    (hid : set.id = set'.id)
    (hdocument : authorizationSetDocument P set
      = authorizationSetDocument P set')
    (hdigest : ∀ a ∈ set.authorizations, ∀ a' ∈ set'.authorizations,
      P.sha256 (authorizationDocument P a) = P.sha256 (authorizationDocument P a')
        → authorizationDocument P a = authorizationDocument P a') :
    set = set' := by
  have hids : set.authorizations.map (·.id) = set'.authorizations.map (·.id) :=
    ids_of_setDocument hdocument
  simp only [validServiceTrustBundleAuthorizationSet, Bool.and_eq_true,
    beq_iff_eq, List.all_eq_true, Bool.not_eq_true', List.isEmpty_eq_false_iff]
    at h h'
  obtain ⟨⟨⟨⟨-, hnonempty⟩, hall⟩, -⟩, -⟩ := h
  obtain ⟨⟨⟨⟨-, -⟩, hall'⟩, -⟩, -⟩ := h'
  have hsame : set.authorizations = set'.authorizations := by
    apply List.ext_getElem
    · simpa using congrArg List.length hids
    · intro i hi hi'
      have hmem := hall _ (List.getElem_mem hi)
      have hmem' := hall' _ (List.getElem_mem hi')
      have hidi : set.authorizations[i].id = set'.authorizations[i].id := by
        have hget := congrArg (fun ids => ids[i]?) hids
        simpa [List.getElem?_map, List.getElem?_eq_getElem hi,
          List.getElem?_eq_getElem hi'] using hget
      apply authorization_eq hmem.1.1.1.1 hmem'.1.1.1.1 hidi
      apply hdigest _ (List.getElem_mem hi) _ (List.getElem_mem hi')
      have hidentity : ∀ {a : ServiceTrustBundleAuthorization},
          validServiceTrustBundleAuthorization P a = true →
          P.sha256 (authorizationDocument P a) = a.id := by
        intro a ha
        simp only [validServiceTrustBundleAuthorization, Bool.and_eq_true,
          beq_iff_eq] at ha
        exact ha.2
      rw [hidentity hmem.1.1.1.1, hidentity hmem'.1.1.1.1, hidi]
  obtain ⟨a, ha⟩ := List.exists_mem_of_ne_nil _ hnonempty
  have hbound := hall a ha
  have hbound' := hall' a (hsame ▸ ha)
  cases set
  cases set'
  simp only [ServiceTrustBundleAuthorizationSet.mk.injEq]
  exact ⟨hid, hbound.1.1.1.2.symm.trans hbound'.1.1.1.2,
    hbound.1.1.2.symm.trans hbound'.1.1.2, hbound.1.2.symm.trans hbound'.1.2,
    hbound.2.symm.trans hbound'.2, hsame⟩

-- === records

/-- What `ServiceTrustHistory::valid` has checked of a record alone. -/
structure SoundRotation (P : Platform) (record : ServiceTrustRotationRecord) :
    Prop where
  structured : validRecordStructure P record = true
  authorization : ∀ a ∈ record.authorization,
    validServiceTrustBundleAuthorization P a = true
  authorizationSet : ∀ set ∈ record.authorizationSet,
    validServiceTrustBundleAuthorizationSet P set = true

/-- What the ids of a record and of its authorizations are digests of. -/
def rotationDocuments (P : Platform) (record : ServiceTrustRotationRecord) :
    Set Bytes :=
  {document | document = (rotationRecordJson record).dump P.toLibc false 0
    ∨ (∃ a ∈ record.authorization, document = authorizationDocument P a)
    ∨ ∃ set ∈ record.authorizationSet,
      document = authorizationSetDocument P set
        ∨ ∃ a ∈ set.authorizations, document = authorizationDocument P a}

/-- The id of what authorized a record. -/
def authorizationId (record : ServiceTrustRotationRecord) : Bytes :=
  if record.storageSchema ≥ 2 then record.authorizationSet.elim [] (·.id)
  else record.authorization.elim [] (·.id)

/-- The schema a record names in its document. -/
def namedSchema (record : ServiceTrustRotationRecord) : Nat :=
  if record.storageSchema ≥ 2 then record.storageSchema.toNat else 1

/-- The fields of `rotationRecordJson`. -/
def rotationFields (record : ServiceTrustRotationRecord) :
    List (String × Json) :=
  [(if record.storageSchema ≥ 2 then "authorization_set_id"
      else "authorization_id", string (authorizationId record)),
    ("bundle_id", string record.bundleId),
    ("format", string (ascii "rbfsafe-service-trust-rotation-record")),
    ("parent_id", string record.parentId),
    ("schema", num (namedSchema record)),
    ("sequence", uint record.sequence.toNat),
    ("type", num record.type.toNat)]

theorem rotationRecordJson_eq (record : ServiceTrustRotationRecord) :
    rotationRecordJson record = object (obj (rotationFields record)) := by
  unfold rotationRecordJson rotationFields authorizationId namedSchema
  by_cases h : record.storageSchema ≥ 2
  · rw [if_pos h, if_pos h, if_pos h, if_pos h]
    cases record.authorizationSet <;> rfl
  · rw [if_neg h, if_neg h, if_neg h, if_neg h]
    cases record.authorization <;> rfl

theorem namedSchema_lt (record : ServiceTrustRotationRecord) :
    namedSchema record < 2 ^ 53 := by
  unfold namedSchema
  split
  · have := record.storageSchema.toNat_lt
    omega
  · norm_num

theorem fits_rotationFields {record : ServiceTrustRotationRecord} :
    ∀ field ∈ rotationFields record, Fits 64 field.2 := by
  intro field hfield
  simp only [rotationFields, List.mem_cons, List.not_mem_nil, or_false]
    at hfield
  rcases hfield with rfl | rfl | rfl | rfl | rfl | rfl | rfl
  · exact .string _
  · exact .string _
  · exact .string _
  · exact .string _
  · exact fits_num (namedSchema_lt record)
  · exact .string _
  · apply fits_num
    cases record.type <;> decide

/-- What the structure of a record leaves open. -/
theorem rotation_structure {P : Platform} {record : ServiceTrustRotationRecord}
    (h : validRecordStructure P record = true) :
    (record.storageSchema = 1 ∧ record.authorizationSet = none
        ∨ record.storageSchema = 2 ∧ record.authorization = none)
      ∧ P.sha256 ((rotationRecordJson record).dump P.toLibc false 0)
        = record.id := by
  simp only [validRecordStructure, Bool.and_eq_true, Bool.or_eq_true,
    beq_iff_eq, Option.isNone_iff_eq_none, kLegacyHistorySchema,
    kCurrentHistorySchema] at h
  obtain ⟨⟨⟨⟨hschema, hkind⟩, -⟩, -⟩, hid⟩ := h
  refine ⟨?_, hid⟩
  rcases hkind with (hroot | hlegacy) | hcurrent
  · rcases hschema with hone | htwo
    · exact .inl ⟨hone, hroot.2.2⟩
    · exact .inr ⟨htwo, hroot.2.1⟩
  · exact .inl ⟨hlegacy.1.1.1.1.1, hlegacy.2⟩
  · exact .inr ⟨hcurrent.1.1.1.1.1, hcurrent.1.2⟩

/-- The ids of what authorized a record, once it is valid. -/
theorem authorization_id {P : Platform} {a : ServiceTrustBundleAuthorization}
    (h : validServiceTrustBundleAuthorization P a = true) :
    a.id ≠ [] ∧ P.sha256 (authorizationDocument P a) = a.id := by
  simp only [validServiceTrustBundleAuthorization, Bool.and_eq_true, beq_iff_eq]
    at h
  exact ⟨validSha256_ne_nil h.1.1.1.1.1.1.1.1.1.2, h.2⟩

theorem authorizationSet_id {P : Platform}
    {set : ServiceTrustBundleAuthorizationSet}
    (h : validServiceTrustBundleAuthorizationSet P set = true) :
    set.id ≠ [] ∧ P.sha256 (authorizationSetDocument P set) = set.id := by
  simp only [validServiceTrustBundleAuthorizationSet, Bool.and_eq_true,
    beq_iff_eq] at h
  exact ⟨validSha256_ne_nil h.1.1.1.1.1.1.1.1.1, h.2⟩

/-- Optional values are told apart by ids that are not empty. -/
theorem option_eq_of_id {α : Type} (id : α → Bytes) {x y : Option α}
    (h : x.elim [] id = y.elim [] id)
    (hx : ∀ a ∈ x, id a ≠ []) (hy : ∀ a ∈ y, id a ≠ [])
    (hid : ∀ a ∈ x, ∀ b ∈ y, id a = id b → a = b) : x = y := by
  cases x with
  | none =>
      cases y with
      | none => rfl
      | some b => exact absurd h.symm (hy b rfl)
  | some a =>
      cases y with
      | none => exact absurd h (hx a rfl)
      | some b => rw [hid a rfl b rfl h]

/-- **Records of one id are one record**, as long as their documents do
not collide. -/
theorem rotationRecord_eq {P : Platform}
    {record record' : ServiceTrustRotationRecord}
    (h : SoundRotation P record) (h' : SoundRotation P record')
    (hdigest : Set.InjOn P.sha256
      (rotationDocuments P record ∪ rotationDocuments P record'))
    (hid : record.id = record'.id) : record = record' := by
  obtain ⟨hkind, hidentity⟩ := rotation_structure h.structured
  obtain ⟨hkind', hidentity'⟩ := rotation_structure h'.structured
  have hdump : (rotationRecordJson record).dump P.toLibc false 0
      = (rotationRecordJson record').dump P.toLibc false 0 :=
    hdigest (.inl (.inl rfl)) (.inr (.inl rfl))
      (by rw [hidentity, hidentity', hid])
  rw [rotationRecordJson_eq, rotationRecordJson_eq] at hdump
  have hobj := dump_injective P.toLibc false (fits_obj fits_rotationFields)
    (fits_obj fits_rotationFields) hdump
  have hlookup := congrArg (find (ascii "schema")) hobj
  rw [find_obj_lookup, find_obj_lookup] at hlookup
  have hnamed : namedSchema record = namedSchema record' := by
    have hfound : ∀ record : ServiceTrustRotationRecord,
        (rotationFields record).lookup "schema"
          = some (num (namedSchema record)) := by
      intro record
      unfold rotationFields
      by_cases h : record.storageSchema ≥ 2
      · rw [if_pos h]
        rfl
      · rw [if_neg h]
        rfl
    rw [hfound, hfound] at hlookup
    exact num_inj (namedSchema_lt _) (namedSchema_lt _)
      (Option.some.inj hlookup)
  have hschema : record.storageSchema = record'.storageSchema := by
    have hvalue : ∀ {record : ServiceTrustRotationRecord},
        (record.storageSchema = 1 ∧ record.authorizationSet = none
          ∨ record.storageSchema = 2 ∧ record.authorization = none) →
        namedSchema record = record.storageSchema.toNat := by
      intro record hkind
      unfold namedSchema
      rcases hkind with ⟨hone, -⟩ | ⟨htwo, -⟩
      · rw [hone]
        rfl
      · rw [htwo]
        rfl
    rw [hvalue hkind, hvalue hkind'] at hnamed
    exact UInt32.toNat_inj.mp hnamed
  have hfields : rotationFields record = rotationFields record' := by
    apply values_of_dump_eq P.toLibc
    · unfold rotationFields
      rw [hschema]
      rfl
    · show [ascii (if record.storageSchema ≥ 2 then "authorization_set_id"
        else "authorization_id"), ascii "bundle_id", ascii "format",
        ascii "parent_id", ascii "schema", ascii "sequence",
        ascii "type"].Nodup
      split <;> decide
    · exact fits_rotationFields
    · exact fits_rotationFields
    · exact hdump
  simp only [rotationFields, List.cons.injEq, Prod.mk.injEq, true_and,
    and_true, Json.string.injEq] at hfields
  obtain ⟨⟨-, hauthorization⟩, hbundle, hparent, -, hsequence, htype⟩ := hfields
  have htype' : record.type = record'.type := by
    have hnat := num_inj (by cases record.type <;> decide)
      (by cases record'.type <;> decide) htype
    cases hr : record.type <;> cases hr' : record'.type <;>
      simp_all [ServiceTrustRotationEventType.toNat]
  have hauthorized : record.authorization = record'.authorization
      ∧ record.authorizationSet = record'.authorizationSet := by
    rcases hkind with ⟨hone, hnone⟩ | ⟨htwo, hnone⟩
    · -- the legacy schema: one authorization, or none at the root
      obtain ⟨-, hnone'⟩ := hkind'.resolve_right fun hother =>
        absurd ((hone.symm.trans hschema).trans hother.1) (by decide)
      refine ⟨?_, hnone.trans hnone'.symm⟩
      have hnot : ¬record.storageSchema ≥ 2 := by
        rw [hone]
        decide
      have hnot' : ¬record'.storageSchema ≥ 2 := hschema ▸ hnot
      rw [authorizationId, authorizationId, if_neg hnot, if_neg hnot']
        at hauthorization
      apply option_eq_of_id ServiceTrustBundleAuthorization.id hauthorization
      · exact fun a ha => (authorization_id (h.authorization a ha)).1
      · exact fun a ha => (authorization_id (h'.authorization a ha)).1
      · intro a ha a' ha' hsame
        have hvalid := h.authorization a ha
        have hvalid' := h'.authorization a' ha'
        apply authorization_eq hvalid hvalid' hsame
        apply hdigest (.inl (.inr (.inl ⟨a, ha, rfl⟩)))
          (.inr (.inr (.inl ⟨a', ha', rfl⟩)))
        rw [(authorization_id hvalid).2, (authorization_id hvalid').2, hsame]
    · -- the current schema: a set of authorizations, or none at the root
      obtain ⟨-, hnone'⟩ := hkind'.resolve_left fun hother =>
        absurd ((htwo.symm.trans hschema).trans hother.1) (by decide)
      refine ⟨hnone.trans hnone'.symm, ?_⟩
      have hcurrent : record.storageSchema ≥ 2 := by
        rw [htwo]
        decide
      have hcurrent' : record'.storageSchema ≥ 2 := hschema ▸ hcurrent
      rw [authorizationId, authorizationId, if_pos hcurrent, if_pos hcurrent']
        at hauthorization
      apply option_eq_of_id ServiceTrustBundleAuthorizationSet.id hauthorization
      · exact fun set hset => (authorizationSet_id (h.authorizationSet set hset)).1
      · exact fun set hset =>
          (authorizationSet_id (h'.authorizationSet set hset)).1
      · intro set hset set' hset' hsame
        have hvalid := h.authorizationSet set hset
        have hvalid' := h'.authorizationSet set' hset'
        apply authorizationSet_eq hvalid hvalid' hsame
        · apply hdigest (.inl (.inr (.inr ⟨set, hset, .inl rfl⟩)))
            (.inr (.inr (.inr ⟨set', hset', .inl rfl⟩)))
          rw [(authorizationSet_id hvalid).2, (authorizationSet_id hvalid').2,
            hsame]
        · intro a ha a' ha' hcollide
          exact hdigest (.inl (.inr (.inr ⟨set, hset, .inr ⟨a, ha, rfl⟩⟩)))
            (.inr (.inr (.inr ⟨set', hset', .inr ⟨a', ha', rfl⟩⟩))) hcollide
  cases record
  cases record'
  simp only [ServiceTrustRotationRecord.mk.injEq]
  exact ⟨hschema, UInt64.toNat_inj.mp (uint_inj hsequence), hid, hparent, htype',
    hbundle, hauthorized.1, hauthorized.2⟩

-- === histories

/-- What makes a history trust a bundle is valid by itself. -/
theorem authorization_valid {P : Platform}
    {predecessor successor : ServiceTrustBundle}
    {authorization : ServiceTrustBundleAuthorization}
    (h : (verifyServiceTrustBundleSuccessor P predecessor successor
      authorization).isOk = true) :
    validServiceTrustBundleAuthorization P authorization = true := by
  cases hok : verifyServiceTrustBundleSuccessor P predecessor successor
      authorization with
  | error e =>
      rw [hok] at h
      cases h
  | ok u =>
      cases u
      rw [verifyServiceTrustBundleSuccessor, check_eq_ok, ite_failure_eq_ok,
        ite_failure_eq_ok, verifyRotationAuthorizationBinding,
        ite_failure_eq_ok] at hok
      simpa using hok.2.2.2.1

theorem authorizationSet_valid {P : Platform}
    {predecessor successor : ServiceTrustBundle}
    {set : ServiceTrustBundleAuthorizationSet}
    (h : (verifyServiceTrustBundleSuccessorSet P predecessor successor
      set).isOk = true) :
    validServiceTrustBundleAuthorizationSet P set = true := by
  cases hok : verifyServiceTrustBundleSuccessorSet P predecessor successor
      set with
  | error e =>
      rw [hok] at h
      cases h
  | ok u =>
      cases u
      rw [verifyServiceTrustBundleSuccessorSet, ite_failure_eq_ok] at hok
      simpa using hok.1

theorem sound_of_entryValid {P : Platform} {schema : UInt32} {index : Nat}
    {previous : Option (ServiceTrustBundle × ServiceTrustRotationRecord)}
    {bundle : ServiceTrustBundle} {record : ServiceTrustRotationRecord}
    (h : entryValid P schema index previous bundle record = true) :
    SoundRotation P record := by
  unfold entryValid at h
  simp only [Bool.and_eq_true] at h
  obtain ⟨⟨-, hstructured⟩, hlinked⟩ := h
  unfold entryLinked at hlinked
  cases previous with
  | none =>
      simp only [Bool.and_eq_true, Option.isNone_iff_eq_none] at hlinked
      refine ⟨hstructured, ?_, ?_⟩
      · rw [hlinked.1.2]
        exact fun a ha => absurd ha (by simp)
      · rw [hlinked.2]
        exact fun set hset => absurd hset (by simp)
  | some before =>
      simp only [Bool.and_eq_true] at hlinked
      replace hlinked := hlinked.2
      split at hlinked
      · split at hlinked
        · next a ha hset =>
            refine ⟨hstructured, fun a' ha' => ?_, fun set hset' => ?_⟩
            · rw [ha] at ha'
              cases ha'
              exact authorization_valid hlinked
            · rw [hset] at hset'
              cases hset'
        · cases hlinked
      · split at hlinked
        · next set ha hset =>
            refine ⟨hstructured, fun a ha' => ?_, fun set' hset' => ?_⟩
            · rw [ha] at ha'
              cases ha'
            · rw [hset] at hset'
              cases hset'
              exact authorizationSet_valid hlinked
        · cases hlinked

/-- **The records of a valid history are sound.** -/
theorem history_sound {P : Platform} {history : ServiceTrustHistory}
    (hvalid : history.valid P = true) :
    ∀ record ∈ history.records, SoundRotation P record := by
  obtain ⟨root, current, h⟩ := validHistory_iff.mp hvalid
  have hentries : ∀ {entries : List (ServiceTrustBundle × ServiceTrustRotationRecord)}
      {index : Nat}
      {previous : Option (ServiceTrustBundle × ServiceTrustRotationRecord)},
      entriesValid P history.storageSchema index previous entries = true →
      ∀ entry ∈ entries, SoundRotation P entry.2 := by
    intro entries
    induction entries with
    | nil =>
        intro index previous _ entry hentry
        cases hentry
    | cons first entries ih =>
        intro index previous hall entry hentry
        obtain ⟨bundle, record⟩ := first
        rw [entriesValid, Bool.and_eq_true] at hall
        rcases List.mem_cons.mp hentry with rfl | hrest
        · exact sound_of_entryValid hall.1
        · exact ih hall.2 entry hrest
  intro record hrecord
  obtain ⟨i, hi, hget⟩ := List.mem_iff_getElem.mp hrecord
  obtain ⟨bundle, record', hbundle, hrecord', -⟩ := history_entry hvalid hi
  have hsame : record' = record := by
    rw [← hget]
    exact (Option.some.inj ((List.getElem?_eq_getElem hi).symm.trans
      hrecord')).symm
  rw [← hsame]
  apply hentries h.entries (bundle, record')
  exact List.mem_of_getElem? (List.getElem?_zip_eq_some.mpr ⟨hbundle, hrecord'⟩)

end RbfSafe
