/-
Which provenance bundles can be saved.

A bundle is read back from its file under any limits its lists are within
(`load_fileText_ok`). Saving takes one limit for the entries of a list
from the two policies, and holds the scopes of every statement against it
as well. So a bundle is saved exactly if no statement has more scopes than
the longest list of a policy has entries (`bundle_saved_iff`).
-/
import RbfSafe.Provenance.Proofs.Decoding

namespace RbfSafe

open Json
open Lib.Sorting (sort)

namespace ProvenanceFile

variable {P : Platform}

-- === documents

theorem fits_stringArray {α : Type} {levels : Nat} {text : α → Bytes} {l : List α}
    (h : l.length ≤ 10000000) :
    Fits (levels + 2) (array (l.map fun a => string (text a))) := by
  apply Fits.array
  · intro item hitem
    obtain ⟨a, -, rfl⟩ := List.mem_map.mp hitem
    exact .string _
  · rwa [List.length_map]

theorem fits_scopeJson {levels : Nat} {scopes : List HardwareAttestationScope}
    (h : scopes.length ≤ 10000000) : Fits (levels + 2) (scopeJson scopes) := by
  apply Fits.array
  · intro item hitem
    obtain ⟨scope, -, rfl⟩ := List.mem_map.mp hitem
    apply fits_num
    cases scope <;> decide
  · rwa [List.length_map]

/-- There are nine scopes, and each comes once. -/
theorem length_scopes_le {scopes : List HardwareAttestationScope}
    (h : sortedUniqueScopes scopes = true) : scopes.length ≤ 9 := by
  unfold sortedUniqueScopes at h
  rw [Bool.and_eq_true] at h
  have hnodup : (scopes.map HardwareAttestationScope.toNat).Nodup := by
    rw [List.Nodup, List.pairwise_map]
    apply (pairwise_of_sortedUnique h.2).imp
    intro a b hlt
    exact Nat.ne_of_lt hlt
  have hsubset : scopes.map HardwareAttestationScope.toNat ⊆ List.range 9 := by
    intro n hn
    obtain ⟨scope, -, rfl⟩ := List.mem_map.mp hn
    rw [List.mem_range]
    cases scope <;> decide
  have hle := (hnodup.subperm hsubset).length_le
  rwa [List.length_map, List.length_range] at hle

theorem fits_hardwareStatementJson {levels : Nat}
    {s : HardwareKeyAttestationStatement} (h : s.valid P = true) :
    Fits (levels + 3) (hardwareStatementJson s true true) := by
  have hscopes : s.scopes.length ≤ 9 := by
    simp only [HardwareKeyAttestationStatement.valid, Bool.and_eq_true] at h
    obtain ⟨⟨⟨⟨⟨⟨⟨⟨-, hscopes⟩, -⟩, -⟩, -⟩, -⟩, -⟩, -⟩, -⟩ := h
    exact length_scopes_le hscopes
  have hadapter : Fits (levels + 2) (adapterJson s.adapter) := by
    apply fits_obj
    simp only [List.forall_mem_cons, List.not_mem_nil, false_imp_iff,
      implies_true, and_true]
    exact ⟨.string _, .string _, .string _⟩
  have hdocument : hardwareStatementJson s true true
      = object (obj (hardwareStatementFields s ++ [("id", string s.id)]
        ++ [("authentication_tag", string s.authenticationTag)])) :=
    withField_both _
  rw [hdocument]
  apply fits_obj
  unfold hardwareStatementFields
  simp only [List.cons_append, List.nil_append, List.forall_mem_cons,
    List.not_mem_nil, false_imp_iff, implies_true, and_true]
  exact ⟨hadapter, fits_num (algorithm_small _), .string _, .string _, .string _,
    .string _, .string _, .string _, fits_scopeJson (hscopes.trans (by decide)),
    .string _, .string _, .string _, .string _, .string _, .string _, .string _,
    .string _, .string _, .string _⟩

theorem fits_timeAssertionJson {levels : Nat} (a : ExternalTimeAssertion) :
    Fits (levels + 2) (timeAssertionJson a true true) := by
  have hdocument : timeAssertionJson a true true
      = object (obj (timeAssertionFields a ++ [("id", string a.id)]
        ++ [("authentication_tag", string a.authenticationTag)])) :=
    withField_both _
  rw [hdocument]
  apply fits_obj
  unfold timeAssertionFields
  simp only [List.cons_append, List.nil_append, List.forall_mem_cons,
    List.not_mem_nil, false_imp_iff, implies_true, and_true]
  exact ⟨fits_num (algorithm_small _), .string _, .string _, .string _, .string _,
    .string _, .string _, .string _, .string _, .string _, .string _, .string _,
    .string _, .string _⟩

theorem fits_hardwarePolicyJson {levels : Nat} {p : HardwareKeyProvenancePolicy}
    (h : p.valid P = true) : Fits (levels + 4) (hardwarePolicyJson p true) := by
  simp only [HardwareKeyProvenancePolicy.valid, Bool.and_eq_true,
    decide_eq_true_eq] at h
  obtain ⟨⟨⟨⟨⟨⟨⟨⟨⟨⟨⟨⟨-, hscopes⟩, hadapters⟩, hauthorities⟩, hvendors⟩, -⟩, -⟩, -⟩,
    -⟩, -⟩, -⟩, -⟩, -⟩ := h
  have hlimit : kMaximumPolicyEntries ≤ 10000000 := by decide
  have hadapterArray : Fits (levels + 3)
      (array (p.allowedAdapters.map adapterJson)) := by
    apply Fits.array
    · intro item hitem
      obtain ⟨a, -, rfl⟩ := List.mem_map.mp hitem
      apply fits_obj
      simp only [List.forall_mem_cons, List.not_mem_nil, false_imp_iff,
        implies_true, and_true]
      exact ⟨.string _, .string _, .string _⟩
    · rw [List.length_map]
      exact hadapters.trans hlimit
  have hauthorityArray : Fits (levels + 3)
      (array (p.allowedAuthorities.map authorityJson)) := by
    apply Fits.array
    · intro item hitem
      obtain ⟨a, -, rfl⟩ := List.mem_map.mp hitem
      apply fits_obj
      simp only [List.forall_mem_cons, List.not_mem_nil, false_imp_iff,
        implies_true, and_true]
      exact ⟨.string _, .string _⟩
    · rw [List.length_map]
      exact hauthorities.trans hlimit
  have hdocument : hardwarePolicyJson p true
      = object (obj (hardwarePolicyFields p ++ [("id", string p.id)])) :=
    withField_id _
  rw [hdocument]
  apply fits_obj
  unfold hardwarePolicyFields
  simp only [List.cons_append, List.nil_append, List.forall_mem_cons,
    List.not_mem_nil, false_imp_iff, implies_true, and_true]
  exact ⟨hadapterArray, hauthorityArray,
    fits_stringArray (hvendors.trans hlimit), .string _, .string _,
    fits_scopeJson (hscopes.trans hlimit), .bool _, .string _, .string _⟩

theorem fits_freshnessPolicyJson {levels : Nat} {p : ExternalTimeFreshnessPolicy}
    (h : p.valid P = true) : Fits (levels + 4) (freshnessPolicyJson p true) := by
  simp only [ExternalTimeFreshnessPolicy.valid, Bool.and_eq_true,
    decide_eq_true_eq] at h
  obtain ⟨⟨⟨⟨⟨⟨-, hsources⟩, -⟩, -⟩, -⟩, -⟩, -⟩ := h
  have hlimit : kMaximumPolicyEntries ≤ 10000000 := by decide
  have hsourceArray : Fits (levels + 3)
      (array (p.allowedSources.map timeSourceJson)) := by
    apply Fits.array
    · intro item hitem
      obtain ⟨s, -, rfl⟩ := List.mem_map.mp hitem
      apply fits_obj
      simp only [List.forall_mem_cons, List.not_mem_nil, false_imp_iff,
        implies_true, and_true]
      exact ⟨.string _, .string _⟩
    · rw [List.length_map]
      exact hsources.trans hlimit
  have hdocument : freshnessPolicyJson p true
      = object (obj (freshnessPolicyFields p ++ [("id", string p.id)])) :=
    withField_id _
  rw [hdocument]
  apply fits_obj
  unfold freshnessPolicyFields
  simp only [List.cons_append, List.nil_append, List.forall_mem_cons,
    List.not_mem_nil, false_imp_iff, implies_true, and_true]
  exact ⟨hsourceArray, .string _, .string _, .string _, .string _, .string _,
    .string _, .bool _, .string _, .string _⟩

theorem fits_servicePublicKeyJson {levels : Nat} (key : ServicePublicKey) :
    Fits (levels + 2) (servicePublicKeyJson key) := by
  have hstate : key.state.toNat < 2 ^ 53 := by
    cases key.state <;> decide
  apply fits_obj
  unfold servicePublicKeyFields
  simp only [List.forall_mem_cons, List.not_mem_nil, false_imp_iff, implies_true,
    and_true]
  exact ⟨fits_num (algorithm_small _), .bool _, .bool _, .bool _, .string _,
    .string _, .string _, fits_num hstate, .string _, .string _⟩

variable {b : VerifiableProvenanceBundle}

/-- What `valid` says of the parts of a bundle. -/
structure ValidParts (P : Platform) (b : VerifiableProvenanceBundle) : Prop where
  schema : b.storageSchema = 1
  id : validSha256 b.id = true
  trust : validSha256 b.trustBundleId = true
  subject : validServicePublicKey P b.subjectKey = true
  hardware : b.hardwarePolicy.valid P = true
  freshness : b.freshnessPolicy.valid P = true
  statements : ∀ s ∈ b.hardwareStatements, s.valid P = true
  assertions : ∀ a ∈ b.timeAssertions, a.valid P = true
  chain : b.hardwareStatements.length ≤ 1000000
  times : b.timeAssertions.length ≤ 1000000

theorem validParts (h : b.valid P = true) : ValidParts P b := by
  simp only [VerifiableProvenanceBundle.valid, Bool.and_eq_true, beq_iff_eq,
    decide_eq_true_eq, List.all_eq_true] at h
  obtain ⟨⟨⟨⟨⟨⟨⟨⟨⟨⟨⟨hschema, hid⟩, htrust⟩, -⟩, hsubject⟩, hhardware⟩, hfreshness⟩,
    hchain⟩, htimes⟩, hstatements⟩, hassertions⟩, -⟩ := h
  have hmaximum : b.hardwarePolicy.maximumChainLength.toNat ≤ 1000000 := by
    have hpolicy := hhardware
    simp only [HardwareKeyProvenancePolicy.valid, Bool.and_eq_true,
      decide_eq_true_eq] at hpolicy
    obtain ⟨⟨⟨⟨⟨⟨⟨⟨⟨⟨⟨⟨⟨⟨⟨⟨⟨⟨-, hmaximum⟩, -⟩, -⟩, -⟩, -⟩, -⟩, -⟩, -⟩, -⟩, -⟩, -⟩, -⟩,
      -⟩, -⟩, -⟩, -⟩, -⟩, -⟩ := hpolicy
    exact UInt64.le_iff_toNat_le.mp hmaximum
  have hmaximum' : b.freshnessPolicy.maximumAssertions.toNat ≤ 1000000 := by
    have hpolicy := hfreshness
    simp only [ExternalTimeFreshnessPolicy.valid, Bool.and_eq_true,
      decide_eq_true_eq] at hpolicy
    obtain ⟨⟨⟨⟨⟨⟨⟨⟨-, hmaximum⟩, -⟩, -⟩, -⟩, -⟩, -⟩, -⟩, -⟩ := hpolicy
    exact UInt64.le_iff_toNat_le.mp hmaximum
  exact ⟨hschema, hid, htrust, hsubject, hhardware, hfreshness,
    fun s hs => (hstatements s hs).1.1, fun a ha => (hassertions a ha).1.1.1,
    hchain.trans hmaximum, htimes.trans hmaximum'⟩

theorem fits_provenanceBundleDocument (h : ValidParts P b) :
    Fits 65 (provenanceBundleDocument P b) := by
  have hstatements : Fits 63 (array (b.hardwareStatements.map fun s =>
      hardwareStatementJson s true true)) := by
    apply Fits.array
    · intro item hitem
      obtain ⟨s, hs, rfl⟩ := List.mem_map.mp hitem
      exact fits_hardwareStatementJson (h.statements s hs)
    · rw [List.length_map]
      exact h.chain.trans (by decide)
  have hassertions : Fits 63 (array (b.timeAssertions.map fun a =>
      timeAssertionJson a true true)) := by
    apply Fits.array
    · intro item hitem
      obtain ⟨a, -, rfl⟩ := List.mem_map.mp hitem
      exact fits_timeAssertionJson a
    · rw [List.length_map]
      exact h.times.trans (by decide)
  have hpayload : Fits 64 (provenanceBundlePayloadJson b) := by
    apply fits_obj
    unfold payloadFields
    simp only [List.forall_mem_cons, List.not_mem_nil, false_imp_iff,
      implies_true, and_true]
    exact ⟨fits_freshnessPolicyJson h.freshness,
      fits_hardwarePolicyJson h.hardware, hstatements, .string _, .string _,
      fits_servicePublicKeyJson _, hassertions, .string _, .string _⟩
  apply fits_obj
  unfold documentFields
  simp only [List.forall_mem_cons, List.not_mem_nil, false_imp_iff, implies_true,
    and_true]
  exact ⟨.string _, .string _, .string _, hpayload, fits_num (by decide)⟩

-- === loading

/-- Limits the lists of a bundle are within. -/
structure WithinLimits (options : VerifiableProvenanceBundleLoadOptions)
    (b : VerifiableProvenanceBundle) : Prop where
  statements : b.hardwareStatements.length ≤ options.maximumStatements
  assertions : b.timeAssertions.length ≤ options.maximumTimeAssertions
  requiredScopes : b.hardwarePolicy.requiredScopes.length
    ≤ options.maximumPolicyEntries
  adapters : b.hardwarePolicy.allowedAdapters.length
    ≤ options.maximumPolicyEntries
  authorities : b.hardwarePolicy.allowedAuthorities.length
    ≤ options.maximumPolicyEntries
  vendors : b.hardwarePolicy.allowedVendorIds.length
    ≤ options.maximumPolicyEntries
  sources : b.freshnessPolicy.allowedSources.length
    ≤ options.maximumPolicyEntries
  scopes : ∀ s ∈ b.hardwareStatements,
    s.scopes.length ≤ options.maximumPolicyEntries

/-- Limits `load_verifiable_provenance_bundle` takes. -/
structure PositiveLimits (options : VerifiableProvenanceBundleLoadOptions) :
    Prop where
  statements : options.maximumStatements ≠ 0
  assertions : options.maximumTimeAssertions ≠ 0
  entries : options.maximumPolicyEntries ≠ 0
  bytes : options.maximumPayloadBytes ≠ 0

variable {options : VerifiableProvenanceBundleLoadOptions} {path : Bytes}

/-- Loading the file of a bundle comes down to decoding its payload. -/
theorem load_fileText (h : ValidParts P b) (hpath : path ≠ [])
    (hpositive : PositiveLimits options)
    (hbytes : (fileText P b).length ≤ options.maximumPayloadBytes) :
    loadVerifiableProvenanceBundle P path (fileText P b) options
      = decodePayload P options (provenanceBundlePayloadJson b) := by
  have hblank : Blank (ascii "\n") := by
    intro c hc
    have hnewline : ascii "\n" = [10] := by decide
    rw [hnewline, List.mem_singleton] at hc
    exact Or.inr (Or.inl hc)
  have hparse : parse P.toLibc (fileText P b)
      = .ok (provenanceBundleDocument P b) :=
    parse_dump P.toLibc true (fits_provenanceBundleDocument h) hblank
  have h1 : provenanceStringField (provenanceBundleDocument P b) "format"
      = .ok (ascii "rbfsafe-verifiable-provenance-bundle") :=
    stringField_storable rfl ⟨by decide, Nat.le_refl 36⟩ (by decide)
  have h2 : provenanceEnumField (provenanceBundleDocument P b) "schema"
      (2 ^ 32 - 1) = .ok 1 := enumField_num rfl (by decide) (by decide)
  have h3 : provenanceStringField (provenanceBundleDocument P b) "checksum"
      = .ok (P.sha256 ((provenanceBundlePayloadJson b).dump P.toLibc false 0)) :=
    stringField_sha256 rfl (P.validSha256_digest _)
  have h4 : find (ascii "payload") (provenanceBundleDocument P b)
      = some (object (obj (payloadFields b))) := by
    rw [provenanceBundleDocument, find_obj_lookup]
    rfl
  have hread : readBoundedProvenanceJson P path (fileText P b) options
      = .ok (provenanceBundleDocument P b) := by
    rw [readBoundedProvenanceJson, if_neg (not_lt.mpr hbytes), hparse]
  have hheader : documentHeader (provenanceBundleDocument P b)
      = .ok ⟨ascii "rbfsafe-verifiable-provenance-bundle", 1,
        P.sha256 ((provenanceBundlePayloadJson b).dump P.toLibc false 0),
        object (obj (payloadFields b))⟩ := by
    simp only [documentHeader, h1, h2, h3, h4, ok_bind]
  unfold loadVerifiableProvenanceBundle
  rw [if_neg, hread, ok_bind]
  · simp only [hheader, ne_eq, not_true_eq_false, if_false]
    rw [if_neg]
    · rfl
    · intro hbad
      rcases hbad with hbad | hbad
      · rw [P.validSha256_digest] at hbad
        cases hbad
      · exact hbad rfl
  · intro hbad
    rcases hbad with hbad | hbad | hbad | hbad | hbad
    · exact hpath (List.isEmpty_iff.mp hbad)
    · exact hpositive.statements hbad
    · exact hpositive.assertions hbad
    · exact hpositive.entries hbad
    · exact hpositive.bytes hbad

theorem statementsField {maximum : Nat} :
    provenanceArrayField (provenanceBundlePayloadJson b) "hardware_statements"
      maximum
      = if (b.hardwareStatements.map fun s =>
          hardwareStatementJson s true true).length > maximum then
          failure .resourceLimit "provenance array exceeds configured entry limit"
            (ascii "hardware_statements")
        else .ok (b.hardwareStatements.map fun s =>
          hardwareStatementJson s true true) :=
  arrayField_items rfl

/-- **The payload of a bundle is read back**, within the limits. -/
theorem decodePayload_document (hvalid : b.valid P = true)
    (hlimits : WithinLimits options b) :
    decodePayload P options (provenanceBundlePayloadJson b) = .ok b := by
  have h := validParts hvalid
  have h1 : provenanceArrayField (provenanceBundlePayloadJson b)
      "hardware_statements" options.maximumStatements
      = .ok (b.hardwareStatements.map fun s =>
        hardwareStatementJson s true true) := by
    rw [statementsField, if_neg]
    rw [List.length_map]
    exact not_lt.mpr hlimits.statements
  have h2 : provenanceArrayField (provenanceBundlePayloadJson b)
      "time_assertions" options.maximumTimeAssertions
      = .ok (b.timeAssertions.map fun a => timeAssertionJson a true true) := by
    apply arrayField_ok rfl
    rw [List.length_map]
    exact hlimits.assertions
  have h3 : provenanceDecimalField (provenanceBundlePayloadJson b)
      "storage_schema" = .ok b.storageSchema.toUInt64 := decimalField_uint32 rfl
  have h4 : provenanceStringField (provenanceBundlePayloadJson b) "id"
      = .ok b.id := stringField_sha256 rfl h.id
  have h5 : provenanceStringField (provenanceBundlePayloadJson b)
      "trust_bundle_id" = .ok b.trustBundleId := stringField_sha256 rfl h.trust
  have h6 : provenanceDecimalField (provenanceBundlePayloadJson b)
      "trust_bundle_sequence" = .ok b.trustBundleSequence :=
    decimalField_uint rfl
  have h7 : find (ascii "subject_key") (provenanceBundlePayloadJson b)
      = some (servicePublicKeyJson b.subjectKey) := by
    rw [provenanceBundlePayloadJson, find_obj_lookup]
    rfl
  have h8 : find (ascii "hardware_policy") (provenanceBundlePayloadJson b)
      = some (hardwarePolicyJson b.hardwarePolicy true) := by
    rw [provenanceBundlePayloadJson, find_obj_lookup]
    rfl
  have h9 : find (ascii "freshness_policy") (provenanceBundlePayloadJson b)
      = some (freshnessPolicyJson b.freshnessPolicy true) := by
    rw [provenanceBundlePayloadJson, find_obj_lookup]
    rfl
  have hheader : payloadHeader (provenanceBundlePayloadJson b)
      = .ok ⟨b.storageSchema.toUInt64, b.id, b.trustBundleId,
        b.trustBundleSequence, servicePublicKeyJson b.subjectKey,
        hardwarePolicyJson b.hardwarePolicy true,
        freshnessPolicyJson b.freshnessPolicy true⟩ := by
    simp only [payloadHeader, h3, h4, h5, h6, h7, h8, h9, ok_bind]
  have hstatements : decodeAll
      (decodeProvenanceStatement P options.maximumPolicyEntries)
      (b.hardwareStatements.map fun s => hardwareStatementJson s true true)
      = .ok b.hardwareStatements :=
    decodeAll_map fun s hs =>
      decodeStatement_document (h.statements s hs) (hlimits.scopes s hs)
  have hassertions : decodeAll (decodeProvenanceTimeAssertion P)
      (b.timeAssertions.map fun a => timeAssertionJson a true true)
      = .ok b.timeAssertions :=
    decodeAll_map fun a ha => decodeTimeAssertion_document (h.assertions a ha)
  have hhardware := decodeHardwarePolicy_document h.hardware
    hlimits.requiredScopes hlimits.adapters hlimits.authorities hlimits.vendors
  have hfreshness := decodeFreshnessPolicy_document h.freshness hlimits.sources
  have hschema : ¬b.storageSchema.toUInt64 ≠ 1 := by
    rw [h.schema]
    decide
  simp only [decodePayload, h1, h2, hheader, hstatements, hassertions, hhardware,
    hfreshness, decodeServiceKey_document h.subject, ok_bind, if_neg hschema,
    UInt32.toNat_toUInt64, UInt32.ofNat_toNat, hvalid, Bool.not_true,
    Bool.false_eq_true, if_false]

/-- **A bundle is read back from its file.** -/
theorem load_fileText_ok (hvalid : b.valid P = true) (hpath : path ≠ [])
    (hpositive : PositiveLimits options) (hlimits : WithinLimits options b)
    (hbytes : (fileText P b).length ≤ options.maximumPayloadBytes) :
    loadVerifiableProvenanceBundle P path (fileText P b) options = .ok b := by
  rw [load_fileText (validParts hvalid) hpath hpositive hbytes]
  exact decodePayload_document hvalid hlimits

/-- A payload that is read back has its scopes within the limit. -/
theorem scopes_of_decodePayload {b' : VerifiableProvenanceBundle}
    (h : decodePayload P options (provenanceBundlePayloadJson b) = .ok b') :
    ∀ s ∈ b.hardwareStatements,
      s.scopes.length ≤ options.maximumPolicyEntries := by
  intro s hs
  unfold decodePayload at h
  rw [statementsField] at h
  obtain ⟨statements, hstatements, h⟩ := bind_eq_ok.mp h
  rw [ite_failure_eq_ok] at hstatements
  obtain ⟨-, hstatements⟩ := hstatements
  obtain ⟨assertions, -, h⟩ := bind_eq_ok.mp h
  generalize payloadHeader (provenanceBundlePayloadJson b) = header at h
  cases header with
  | error e => cases h
  | ok header =>
      dsimp only at h
      obtain ⟨_, -, h⟩ := bind_eq_ok.mp h
      obtain ⟨_, -, h⟩ := bind_eq_ok.mp h
      obtain ⟨_, -, h⟩ := bind_eq_ok.mp h
      obtain ⟨decoded, hdecoded, -⟩ := bind_eq_ok.mp h
      rw [← Except.ok.inj hstatements] at hdecoded
      obtain ⟨s', hs'⟩ := decodeAll_ok hdecoded _ (List.mem_map_of_mem hs)
      exact scopes_of_decodeStatement hs'

/-- The scopes of a bundle that is read back were within the limit. -/
theorem scopes_of_load {b' : VerifiableProvenanceBundle} (hvalid : b.valid P = true)
    (hpath : path ≠ []) (hpositive : PositiveLimits options)
    (hbytes : (fileText P b).length ≤ options.maximumPayloadBytes)
    (h : loadVerifiableProvenanceBundle P path (fileText P b) options = .ok b') :
    ∀ s ∈ b.hardwareStatements,
      s.scopes.length ≤ options.maximumPolicyEntries := by
  rw [load_fileText (validParts hvalid) hpath hpositive hbytes] at h
  exact scopes_of_decodePayload h

-- === saving

theorem positiveLimits_verifyOptions {document : Bytes} :
    PositiveLimits (verifyOptions b document) := by
  constructor
  · exact Nat.ne_of_gt (Nat.le_max_left 1 _)
  · exact Nat.ne_of_gt (Nat.le_max_left 1 _)
  · exact Nat.ne_of_gt (Nat.le_max_left 1 _)
  · exact Nat.ne_of_gt (Nat.le_max_right _ 1)

/-- The limits of a save hold for all lists of the bundle but the scopes of
its statements. -/
theorem withinLimits_verifyOptions {document : Bytes}
    (h : ∀ s ∈ b.hardwareStatements, s.scopes.length ≤ policyEntries b) :
    WithinLimits (verifyOptions b document) b where
  statements := Nat.le_max_right 1 _
  assertions := Nat.le_max_right 1 _
  requiredScopes := by
    show _ ≤ policyEntries b
    unfold policyEntries
    omega
  adapters := by
    show _ ≤ policyEntries b
    unfold policyEntries
    omega
  authorities := by
    show _ ≤ policyEntries b
    unfold policyEntries
    omega
  vendors := by
    show _ ≤ policyEntries b
    unfold policyEntries
    omega
  sources := by
    show _ ≤ policyEntries b
    unfold policyEntries
    omega
  scopes := h

variable {temporary : Bytes} {destinationExists overwrite : Bool}

/-- **Which bundles are saved**, and what is written. -/
theorem save_iff (hvalid : b.valid P = true) (hpath : path ≠ [])
    (htemporary : temporary ≠ [])
    (hdestination : destinationExists = true → overwrite = true) {text : Bytes} :
    saveVerifiableProvenanceBundle P b path temporary destinationExists overwrite
        = .ok text
      ↔ (∀ s ∈ b.hardwareStatements, s.scopes.length ≤ policyEntries b)
        ∧ fileText P b = text := by
  have harguments : ¬((!b.valid P || path.isEmpty) = true) := by
    intro hbad
    rw [hvalid, Bool.not_true, Bool.false_or, List.isEmpty_iff] at hbad
    exact hpath hbad
  have hexists : ¬((destinationExists && !overwrite) = true) := by
    intro hbad
    rw [Bool.and_eq_true, Bool.not_eq_true'] at hbad
    rw [hdestination hbad.1] at hbad
    exact Bool.noConfusion hbad.2
  have hbytes : (fileText P b).length
      ≤ (verifyOptions b (fileText P b)).maximumPayloadBytes :=
    Nat.le_max_left _ 1
  unfold saveVerifiableProvenanceBundle
  rw [if_neg harguments, if_neg hexists]
  constructor
  · intro h
    obtain ⟨verified, hload, h⟩ := bind_eq_ok.mp h
    rw [ite_failure_eq_ok] at h
    exact ⟨scopes_of_load hvalid htemporary positiveLimits_verifyOptions hbytes
      hload, Except.ok.inj h.2⟩
  · rintro ⟨hscopes, rfl⟩
    show (loadVerifiableProvenanceBundle P temporary (fileText P b)
      (verifyOptions b (fileText P b)) >>= _) = _
    rw [load_fileText_ok hvalid htemporary positiveLimits_verifyOptions
      (withinLimits_verifyOptions hscopes) hbytes, ok_bind, if_neg]
    exact not_not_intro rfl

/-- A bundle can be saved, and what is saved is read back as the bundle,
under all limits its lists and its file are within. -/
def SavedAndReloaded (P : Platform) (b : VerifiableProvenanceBundle) : Prop :=
  ∀ (path temporary : Bytes) (destinationExists overwrite : Bool),
    path ≠ [] → temporary ≠ [] → (destinationExists = true → overwrite = true) →
    ∃ text,
      saveVerifiableProvenanceBundle P b path temporary destinationExists
          overwrite = .ok text
        ∧ ∀ options, PositiveLimits options → WithinLimits options b →
          text.length ≤ options.maximumPayloadBytes →
          loadVerifiableProvenanceBundle P path text options = .ok b

theorem savedAndReloaded_iff (hvalid : b.valid P = true) :
    SavedAndReloaded P b
      ↔ ∀ s ∈ b.hardwareStatements, s.scopes.length ≤ policyEntries b := by
  have hname : ascii "p" ≠ [] := by decide
  constructor
  · intro h
    obtain ⟨text, hsave, -⟩ :=
      h (ascii "p") (ascii "p") false false hname hname (fun hbad => hbad)
    exact ((save_iff hvalid hname hname (fun hbad => hbad)).mp hsave).1
  · intro hscopes path temporary destinationExists overwrite hpath htemporary
      hdestination
    refine ⟨fileText P b,
      (save_iff hvalid hpath htemporary hdestination).mpr ⟨hscopes, rfl⟩, ?_⟩
    intro options hpositive hlimits hbytes
    exact load_fileText_ok hvalid hpath hpositive hlimits hbytes

end ProvenanceFile

-- === a bundle of one statement, for samples

section
variable (P : Platform)

def samplePin : HardwareAttestationAdapterPin :=
  ⟨ascii "adapter", ascii "one", ascii "format"⟩

/-- A policy with one entry in each list. -/
def sampleHardwarePolicy : HardwareKeyProvenancePolicy :=
  let policy : HardwareKeyProvenancePolicy :=
    { requiredScopes := [.artifactFetch]
      allowedAdapters := [samplePin]
      allowedAuthorities := [⟨ascii "beta", (sampleKey P (ascii "beta")).id⟩]
      allowedVendorIds := [ascii "vendor"] }
  { policy with id := hardwareKeyProvenancePolicyIdentity P policy }

/-- A policy with one source. -/
def sampleFreshnessPolicy : ExternalTimeFreshnessPolicy :=
  let policy : ExternalTimeFreshnessPolicy :=
    { clockId := ascii "clock"
      allowedSources := [⟨ascii "beta", (sampleKey P (ascii "beta")).id⟩] }
  { policy with id := externalTimeFreshnessPolicyIdentity P policy }

/-- The key of the one service, attested by the other for the scopes. -/
def sampleStatement (scopes : List HardwareAttestationScope) :
    HardwareKeyAttestationStatement :=
  let statement : HardwareKeyAttestationStatement :=
    { sequence := 1
      subjectServiceId := ascii "alpha"
      subjectKeyId := (sampleKey P (ascii "alpha")).id
      subjectPublicKey := (sampleKey P (ascii "alpha")).publicKey
      adapter := samplePin
      vendorId := ascii "vendor"
      productId := ascii "product"
      evidenceDigest := P.sha256 (ascii "evidence")
      nonceDigest := P.sha256 (ascii "nonce")
      scopes := scopes
      trustBundleId := (sampleBundle P).id
      trustBundleSequence := 1
      attesterServiceId := ascii "beta"
      attesterKeyId := (sampleKey P (ascii "beta")).id
      authenticationTag := List.replicate 128 97 }
  { statement with id := hardwareKeyAttestationIdentity P statement }

/-- A bundle with that statement, and no assertion of time. -/
def sampleProvenance (scopes : List HardwareAttestationScope) :
    VerifiableProvenanceBundle :=
  let bundle : VerifiableProvenanceBundle :=
    { trustBundleId := (sampleBundle P).id
      trustBundleSequence := 1
      subjectKey := sampleKey P (ascii "alpha")
      hardwarePolicy := sampleHardwarePolicy P
      freshnessPolicy := sampleFreshnessPolicy P
      hardwareStatements := [sampleStatement P scopes] }
  { bundle with id := verifiableProvenanceBundleIdentity P bundle }

/-- What the samples name is well formed. -/
theorem sample_names_valid : samplePin.valid = true
    ∧ validIdentifier (ascii "vendor") = true
    ∧ validIdentifier (ascii "product") = true
    ∧ validIdentifier (ascii "clock") = true := by
  decide

theorem valid_sampleHardwarePolicy : (sampleHardwarePolicy P).valid P = true := by
  have hkey : validSha256 (sampleKey P (ascii "beta")).id = true :=
    P.validSha256_digest _
  obtain ⟨hpin, hvendor, -, -⟩ := sample_names_valid
  have hauthority : (HardwareAttestationAuthority.mk (ascii "beta")
      (sampleKey P (ascii "beta")).id).valid = true := by
    rw [HardwareAttestationAuthority.valid, validIdentifier_services.2, hkey]
    rfl
  have hpins : (sampleHardwarePolicy P).allowedAdapters.all
      (fun value => value.valid) = true := by
    show (samplePin.valid && true) = true
    rw [hpin]
    rfl
  have hauthorities : (sampleHardwarePolicy P).allowedAuthorities.all
      (fun value => value.valid) = true := by
    show ((HardwareAttestationAuthority.mk (ascii "beta")
      (sampleKey P (ascii "beta")).id).valid && true) = true
    rw [hauthority]
    rfl
  have hvendors : (sampleHardwarePolicy P).allowedVendorIds.all validIdentifier
      = true := by
    show (validIdentifier (ascii "vendor") && true) = true
    rw [hvendor]
    rfl
  rw [HardwareKeyProvenancePolicy.valid, hpins, hauthorities, hvendors]
  simp only [Bool.and_eq_true, beq_iff_eq]
  exact ⟨⟨⟨⟨⟨⟨⟨⟨⟨⟨⟨⟨⟨⟨⟨⟨⟨⟨⟨⟨⟨rfl, P.validSha256_digest _⟩, rfl⟩, rfl⟩, rfl⟩, rfl⟩,
    rfl⟩, rfl⟩, rfl⟩, rfl⟩, rfl⟩, rfl⟩, rfl⟩, rfl⟩, rfl⟩, rfl⟩, trivial⟩, rfl⟩,
    trivial⟩, rfl⟩, trivial⟩, rfl⟩

theorem valid_sampleFreshnessPolicy :
    (sampleFreshnessPolicy P).valid P = true := by
  have hkey : validSha256 (sampleKey P (ascii "beta")).id = true :=
    P.validSha256_digest _
  have hclock : validIdentifier (sampleFreshnessPolicy P).clockId = true :=
    sample_names_valid.2.2.2
  have hsources : (sampleFreshnessPolicy P).allowedSources.all
      (fun source => source.valid) = true := by
    show (validIdentifier (ascii "beta")
      && validSha256 (sampleKey P (ascii "beta")).id && true) = true
    rw [validIdentifier_services.2, hkey]
    rfl
  rw [ExternalTimeFreshnessPolicy.valid, hclock, hsources]
  simp only [Bool.and_eq_true, beq_iff_eq]
  exact ⟨⟨⟨⟨⟨⟨⟨⟨⟨⟨⟨⟨rfl, P.validSha256_digest _⟩, trivial⟩, rfl⟩, rfl⟩, rfl⟩, rfl⟩,
    rfl⟩, rfl⟩, rfl⟩, trivial⟩, rfl⟩, rfl⟩

/-- The identity of a statement does not cover the identity itself. -/
theorem hardwareKeyAttestationIdentity_id (s : HardwareKeyAttestationStatement)
    (id : Bytes) :
    hardwareKeyAttestationIdentity P { s with id := id }
      = hardwareKeyAttestationIdentity P s := by
  have hfields : hardwareStatementFields { s with id := id }
      = hardwareStatementFields s := rfl
  unfold hardwareKeyAttestationIdentity hardwareStatementJson
  rw [withField_false, withField_false, hfields]

theorem valid_sampleStatement {scopes : List HardwareAttestationScope}
    (hscopes : sortedUniqueScopes scopes = true) :
    (sampleStatement P scopes).valid P = true := by
  obtain ⟨hpin, hvendor, hproduct, -⟩ := sample_names_valid
  have htag : validAuthenticationTag (List.replicate 128 97) = true := by
    decide +kernel
  rw [HardwareKeyAttestationStatement.valid]
  simp only [Bool.and_eq_true, beq_iff_eq]
  exact ⟨⟨⟨⟨⟨⟨⟨⟨⟨⟨⟨⟨⟨⟨⟨⟨⟨⟨rfl, rfl⟩, P.validSha256_digest _⟩, rfl⟩,
    validIdentifier_services.1⟩, P.validSha256_digest _⟩, hpin⟩, hvendor⟩,
    hproduct⟩, P.validSha256_digest _⟩, P.validSha256_digest _⟩, hscopes⟩,
    P.validSha256_digest _⟩, rfl⟩, validIdentifier_services.2⟩,
    P.validSha256_digest _⟩, rfl⟩, htag⟩,
    (hardwareKeyAttestationIdentity_id P _ _).symm⟩

theorem valid_sampleProvenance {scopes : List HardwareAttestationScope}
    (hscopes : sortedUniqueScopes scopes = true) :
    (sampleProvenance P scopes).valid P = true := by
  have hstatements : (sampleProvenance P scopes).hardwareStatements.all
      (fun statement => statement.valid P
        && statement.trustBundleId == (sampleProvenance P scopes).trustBundleId
        && statement.trustBundleSequence
          == (sampleProvenance P scopes).trustBundleSequence) = true := by
    rw [List.all_eq_true]
    intro statement hmem
    rw [List.mem_singleton.mp hmem]
    simp only [Bool.and_eq_true, beq_iff_eq]
    exact ⟨⟨valid_sampleStatement P hscopes, rfl⟩, rfl⟩
  rw [VerifiableProvenanceBundle.valid, hstatements]
  simp only [Bool.and_eq_true, beq_iff_eq]
  exact ⟨⟨⟨⟨⟨⟨⟨⟨⟨⟨⟨rfl, P.validSha256_digest _⟩, P.validSha256_digest _⟩, rfl⟩,
    valid_sampleKey P validIdentifier_services.1⟩,
    valid_sampleHardwarePolicy P⟩, valid_sampleFreshnessPolicy P⟩, rfl⟩, rfl⟩,
    trivial⟩, rfl⟩, rfl⟩

theorem create_sampleProvenance {scopes : List HardwareAttestationScope}
    (hscopes : sortedUniqueScopes scopes = true) :
    VerifiableProvenanceBundle.create P (sampleKey P (ascii "alpha"))
        (sampleHardwarePolicy P) (sampleFreshnessPolicy P)
        [sampleStatement P scopes] [] (sampleBundle P)
      = .ok (sampleProvenance P scopes) := by
  unfold VerifiableProvenanceBundle.create
  rw [valid_sampleKey P validIdentifier_services.1,
    valid_sampleHardwarePolicy P, valid_sampleFreshnessPolicy P,
    valid_sampleBundle P]
  have hsorted : sort HardwareKeyAttestationStatement.sortKey
      [sampleStatement P scopes] = [sampleStatement P scopes] :=
    List.mergeSort_singleton _
  have hnone : sort ExternalTimeAssertion.sortKey [] = [] := List.mergeSort_nil
  rw [hsorted, hnone]
  show (if !(sampleProvenance P scopes).valid P then _
    else Except.ok (sampleProvenance P scopes)) = _
  rw [valid_sampleProvenance P hscopes]
  rfl

end

-- === created

section
variable {P : Platform}

/-- A bundle that was created is valid. -/
theorem VerifiableProvenanceBundle.valid_of_create {subjectKey : ServicePublicKey}
    {hardwarePolicy : HardwareKeyProvenancePolicy}
    {freshnessPolicy : ExternalTimeFreshnessPolicy}
    {hardwareStatements : List HardwareKeyAttestationStatement}
    {timeAssertions : List ExternalTimeAssertion}
    {trustBundle : ServiceTrustBundle} {b : VerifiableProvenanceBundle}
    (h : VerifiableProvenanceBundle.create P subjectKey hardwarePolicy
      freshnessPolicy hardwareStatements timeAssertions trustBundle = .ok b) :
    b.valid P = true := by
  unfold VerifiableProvenanceBundle.create at h
  rw [ite_failure_eq_ok] at h
  obtain ⟨-, h⟩ := h
  rw [ite_failure_eq_ok] at h
  obtain ⟨hvalid, h⟩ := h
  rw [Bool.not_eq_true, Bool.not_eq_false'] at hvalid
  rw [← Except.ok.inj h]
  exact hvalid

/-- **A created bundle can be saved and reloaded if and only if no statement
has more scopes than the longest list of the policies has entries.** -/
theorem bundle_saved_iff {subjectKey : ServicePublicKey}
    {hardwarePolicy : HardwareKeyProvenancePolicy}
    {freshnessPolicy : ExternalTimeFreshnessPolicy}
    {hardwareStatements : List HardwareKeyAttestationStatement}
    {timeAssertions : List ExternalTimeAssertion}
    {trustBundle : ServiceTrustBundle} {b : VerifiableProvenanceBundle}
    (hcreated : VerifiableProvenanceBundle.create P subjectKey hardwarePolicy
      freshnessPolicy hardwareStatements timeAssertions trustBundle = .ok b) :
    ProvenanceFile.SavedAndReloaded P b
      ↔ ∀ s ∈ b.hardwareStatements,
        s.scopes.length ≤ ProvenanceFile.policyEntries b := by
  apply ProvenanceFile.savedAndReloaded_iff
  exact VerifiableProvenanceBundle.valid_of_create hcreated

end

-- The longest lists of the sample's policies have one entry.

/-- A statement for one scope is within them. -/
theorem bundle_saved_sample :
    ∃ b, VerifiableProvenanceBundle.create (host fun _ _ _ => true)
        (sampleKey (host fun _ _ _ => true) (ascii "alpha"))
        (sampleHardwarePolicy (host fun _ _ _ => true))
        (sampleFreshnessPolicy (host fun _ _ _ => true))
        [sampleStatement (host fun _ _ _ => true) [.artifactFetch]] []
        (sampleBundle (host fun _ _ _ => true)) = .ok b
      ∧ ProvenanceFile.SavedAndReloaded (host fun _ _ _ => true) b := by
  refine ⟨_, create_sampleProvenance _ (by decide), ?_⟩
  apply (bundle_saved_iff (create_sampleProvenance _ (by decide))).mpr
  intro s hs
  rw [List.mem_singleton.mp hs]
  exact Nat.le_max_left 1 _

/-- A statement for two scopes is not, and its bundle is not saved. -/
theorem bundle_not_saved :
    ∃ b, VerifiableProvenanceBundle.create (host fun _ _ _ => true)
        (sampleKey (host fun _ _ _ => true) (ascii "alpha"))
        (sampleHardwarePolicy (host fun _ _ _ => true))
        (sampleFreshnessPolicy (host fun _ _ _ => true))
        [sampleStatement (host fun _ _ _ => true)
          [.artifactFetch, .artifactPublish]] []
        (sampleBundle (host fun _ _ _ => true)) = .ok b
      ∧ ¬ProvenanceFile.SavedAndReloaded (host fun _ _ _ => true) b := by
  refine ⟨_, create_sampleProvenance _ (by decide), ?_⟩
  intro hsaved
  have hscopes := (ProvenanceFile.savedAndReloaded_iff
    (valid_sampleProvenance _ (by decide))).mp hsaved _ (List.mem_singleton_self _)
  exact absurd hscopes (by decide : ¬(2 ≤ 1))

end RbfSafe
