/-
Every part of a provenance file is read back as what it was made of.

One lemma for each decoder: it succeeds on the document of a valid value,
since `valid` bounds every string, and what is decoded is the value. The
lists of a policy are sorted and come once already, so creating the
policy again changes nothing. The one limit a valid value can exceed is
that on entries, which the scopes of a statement are held against as
well.
-/
import RbfSafe.Core.Proofs.Files
import RbfSafe.Provenance.Persistence
import RbfSafe.Provenance.Proofs.Evaluation

namespace RbfSafe

open Json
open Lib.Sorting (sort sortUnique)

namespace ProvenanceFile

-- === readers

theorem storable_tag {tag : Bytes} (h : validAuthenticationTag tag = true) :
    Storable 128 tag := by
  simp only [validAuthenticationTag, Bool.and_eq_true, beq_iff_eq] at h
  refine ⟨?_, h.1.le⟩
  rintro rfl
  cases h.1

section
variable {fields : List (String × Json)} {key : String}

theorem stringField_storable {m : Nat} {value : Bytes} {allowEmpty : Bool}
    (hlookup : fields.lookup key = some (string value)) (h : Storable m value)
    (hle : m ≤ kMaximumStorageStringBytes) :
    provenanceStringField (object (obj fields)) key allowEmpty = .ok value :=
  readStringField_storable hlookup h hle

theorem stringField_sha256 {value : Bytes} {allowEmpty : Bool}
    (hlookup : fields.lookup key = some (string value))
    (h : validSha256 value = true) :
    provenanceStringField (object (obj fields)) key allowEmpty = .ok value :=
  stringField_storable hlookup (storable_sha256 h) (by decide)

theorem stringField_identifier {value : Bytes}
    (hlookup : fields.lookup key = some (string value))
    (h : validIdentifier value = true) :
    provenanceStringField (object (obj fields)) key = .ok value :=
  stringField_storable hlookup (storable_identifier h) (by decide)

theorem stringField_tag {value : Bytes}
    (hlookup : fields.lookup key = some (string value))
    (h : validAuthenticationTag value = true) :
    provenanceStringField (object (obj fields)) key = .ok value :=
  stringField_storable hlookup (storable_tag h) (by decide)

/-- The parent of the first of a chain is empty. -/
theorem stringField_parent {sequence : UInt64} {value : Bytes}
    (hlookup : fields.lookup key = some (string value))
    (h : (if sequence = 1 then value.isEmpty else validSha256 value) = true) :
    provenanceStringField (object (obj fields)) key true = .ok value := by
  apply readStringField_ok hlookup _ (Or.inl rfl)
  by_cases hfirst : sequence = 1
  · rw [if_pos hfirst, List.isEmpty_iff] at h
    rw [h]
    exact Nat.zero_le _
  · rw [if_neg hfirst] at h
    exact (storable_sha256 h).2.trans (by decide)

/-- The bytes of a key, in hexadecimal. -/
theorem stringField_key {bytes : Vector UInt8 32}
    (hlookup : fields.lookup key = some (string (encodeHex bytes.toList))) :
    provenanceStringField (object (obj fields)) key
      = .ok (encodeHex bytes.toList) := by
  have hlength : (encodeHex bytes.toList).length = 64 := by
    rw [length_encodeHex, Vector.length_toList]
  apply readStringField_ok hlookup
  · rw [hlength]
    decide
  · apply Or.inr
    intro hnil
    rw [hnil] at hlength
    cases hlength

theorem decimalField_uint {value : UInt64}
    (hlookup : fields.lookup key = some (uint value.toNat)) :
    provenanceDecimalField (object (obj fields)) key = .ok value :=
  readDecimalField_uint hlookup (by decide)

theorem decimalField_uint32 {value : UInt32}
    (hlookup : fields.lookup key = some (uint value.toNat)) :
    provenanceDecimalField (object (obj fields)) key = .ok value.toUInt64 := by
  apply decimalField_uint
  rwa [UInt32.toNat_toUInt64]

theorem boolField_bool {value : Bool}
    (hlookup : fields.lookup key = some (Json.bool value)) :
    provenanceBoolField (object (obj fields)) key = .ok value :=
  readBoolField_ok hlookup

theorem enumField_num {n maximum : Nat}
    (hlookup : fields.lookup key = some (num n)) (h : n ≤ maximum)
    (hsmall : n < 2 ^ 53) :
    provenanceEnumField (object (obj fields)) key maximum = .ok n := by
  rw [provenanceEnumField, readNumberField_num hlookup hsmall, ok_bind,
    integralUpTo_natCast h]
  rfl

theorem arrayField_items {items : List Json} {maximum : Nat}
    (hlookup : fields.lookup key = some (array items)) :
    provenanceArrayField (object (obj fields)) key maximum
      = if items.length > maximum then
          failure .resourceLimit "provenance array exceeds configured entry limit"
            (ascii key)
        else .ok items := by
  simp only [provenanceArrayField, find_obj_lookup, hlookup]

theorem arrayField_ok {items : List Json} {maximum : Nat}
    (hlookup : fields.lookup key = some (array items))
    (h : items.length ≤ maximum) :
    provenanceArrayField (object (obj fields)) key maximum = .ok items := by
  rw [arrayField_items hlookup, if_neg (not_lt.mpr h)]

end

theorem decodeAll_map {α : Type} {decode : Json → Result α} {encode : α → Json} :
    ∀ {l : List α}, (∀ a ∈ l, decode (encode a) = .ok a) →
    decodeAll decode (l.map encode) = .ok l := by
  intro l
  induction l with
  | nil =>
      intro _
      rfl
  | cons a l ih =>
      intro h
      rw [List.map_cons, decodeAll, h a List.mem_cons_self, ok_bind,
        ih fun b hb => h b (List.mem_cons_of_mem _ hb), ok_bind]

/-- What decodes as a whole decodes item by item. -/
theorem decodeAll_ok {α : Type} {decode : Json → Result α} :
    ∀ {items : List Json} {l : List α}, decodeAll decode items = .ok l →
    ∀ item ∈ items, ∃ a, decode item = .ok a := by
  intro items
  induction items with
  | nil =>
      intro l _ item hitem
      exact absurd hitem List.not_mem_nil
  | cons first items ih =>
      intro l h item hitem
      rw [decodeAll, bind_eq_ok] at h
      obtain ⟨a, ha, h⟩ := h
      rw [bind_eq_ok] at h
      obtain ⟨rest, hrest, -⟩ := h
      rcases List.mem_cons.mp hitem with rfl | hitem
      · exact ⟨a, ha⟩
      · exact ih hrest item hitem

theorem keyBytes_toList (bytes : Vector UInt8 32) :
    keyBytes bytes.toList = bytes := by
  ext k hk
  unfold keyBytes
  rw [Vector.getElem_ofFn, List.getD_eq_getElem?_getD,
    List.getElem?_eq_getElem (by rw [Vector.length_toList]; exact hk)]
  simp

theorem decodeHex_key (bytes : Vector UInt8 32) :
    decodeHex (encodeHex bytes.toList) kEd25519PublicKeyBytes
      = .ok bytes.toList := by
  have hdecode := decodeHex_encodeHex bytes.toList
  rwa [Vector.length_toList] at hdecode

theorem algorithm_le (algorithm : ArtifactAuthenticationAlgorithm) :
    algorithm.toNat ≤ ArtifactAuthenticationAlgorithm.ed25519.toNat := by
  cases algorithm <;> decide

theorem algorithm_small (algorithm : ArtifactAuthenticationAlgorithm) :
    algorithm.toNat < 2 ^ 53 := by
  cases algorithm <;> decide

theorem keyStateFromNat_toNat (state : ServiceKeyState) :
    keyStateFromNat state.toNat = state := by
  cases state <;> rfl

theorem scopeFromNat_toNat (scope : HardwareAttestationScope) :
    scopeFromNat scope.toNat = scope := by
  cases scope <;> rfl

-- === scopes

theorem decodeScope_num (scope : HardwareAttestationScope) :
    decodeScope (num scope.toNat) = .ok scope := by
  have hle : scope.toNat ≤ HardwareAttestationScope.externalTime.toNat := by
    cases scope <;> decide
  have hsmall : scope.toNat < 2 ^ 53 := by
    cases scope <;> decide
  have hvalue : (FiniteDouble.value (doubleOfNat scope.toNat)).toRat
      = (scope.toNat : ℚ) := doubleOfNat_small hsmall
  unfold num decodeScope
  dsimp only
  rw [hvalue, integralUpTo_natCast hle]
  simp only [if_true, Rat.num_natCast, Int.toNat_natCast, scopeFromNat_toNat]

theorem decodeScopes_document {fields : List (String × Json)} {key : String}
    {scopes : List HardwareAttestationScope} {maximum : Nat}
    (hlookup : fields.lookup key = some (scopeJson scopes))
    (h : scopes.length ≤ maximum) :
    decodeProvenanceScopes (object (obj fields)) key maximum = .ok scopes := by
  unfold decodeProvenanceScopes
  rw [arrayField_ok hlookup (by rwa [List.length_map]), ok_bind]
  exact decodeAll_map fun scope _ => decodeScope_num scope

-- === sorted lists

/-- What `sorted_unique` accepts. -/
theorem pairwise_of_sortedUnique {α κ : Type} [LT κ] [DecidableLT κ] [LE κ]
    [Std.IsLinearOrder κ] [Std.LawfulOrderLT κ] {key : α → κ} : ∀ {l : List α},
    sortedUnique key l = true → l.Pairwise fun a b => key a < key b := by
  have htrans : Trans (fun a b : κ => a < b) (fun a b => a < b)
      (fun a b => a < b) := ⟨Std.lt_trans⟩
  intro l h
  have hchain : (l.map key).IsChain (· < ·) := by
    induction l with
    | nil => exact List.isChain_nil
    | cons a l ih =>
        cases l with
        | nil => exact List.isChain_singleton _
        | cons b l =>
            rw [sortedUnique, Bool.and_eq_true, decide_eq_true_eq] at h
            rw [List.map_cons, List.map_cons, List.isChain_cons_cons]
            exact ⟨h.1, ih h.2⟩
  exact List.pairwise_map.mp (List.isChain_iff_pairwise.mp hchain)

/-- A list in order is left as it is. -/
theorem sortUnique_of_sortedUnique {α κ : Type} [LT κ] [DecidableLT κ] [LE κ]
    [Std.IsLinearOrder κ] [Std.LawfulOrderLT κ] [DecidableEq κ] {key : α → κ}
    {l : List α} (h : sortedUnique key l = true) : sortUnique key l = l := by
  have hstrict := pairwise_of_sortedUnique h
  have hsort : sort key l = l :=
    Lib.Sorting.sort_eq_self key (hstrict.imp fun hlt => Std.le_of_lt hlt)
  unfold sortUnique
  rw [hsort]
  apply List.destutter_of_isChain
  have hne : l.Pairwise fun a b => key a ≠ key b := by
    apply hstrict.imp
    intro a b hlt heq
    rw [heq] at hlt
    exact Std.lt_irrefl hlt
  exact hne.isChain

-- === parts

theorem decodeAdapter_document {a : HardwareAttestationAdapterPin}
    (h : a.valid = true) : decodeProvenanceAdapter (adapterJson a) = .ok a := by
  have hchecks := h
  simp only [HardwareAttestationAdapterPin.valid, Bool.and_eq_true] at hchecks
  obtain ⟨⟨hid, hversion⟩, hformat⟩ := hchecks
  have h1 : provenanceStringField (adapterJson a) "adapter_id"
      = .ok a.adapterId := stringField_identifier rfl hid
  have h2 : provenanceStringField (adapterJson a) "adapter_version"
      = .ok a.adapterVersion := stringField_identifier rfl hversion
  have h3 : provenanceStringField (adapterJson a) "statement_format"
      = .ok a.statementFormat := stringField_identifier rfl hformat
  simp only [decodeProvenanceAdapter, h1, h2, h3, ok_bind, h, Bool.not_true,
    Bool.false_eq_true, if_false]

theorem decodeAuthority_document {a : HardwareAttestationAuthority}
    (h : a.valid = true) :
    decodeProvenanceAuthority (authorityJson a) = .ok a := by
  have hchecks := h
  simp only [HardwareAttestationAuthority.valid, Bool.and_eq_true] at hchecks
  have h1 : provenanceStringField (authorityJson a) "service_id"
      = .ok a.serviceId := stringField_identifier rfl hchecks.1
  have h2 : provenanceStringField (authorityJson a) "key_id" = .ok a.keyId :=
    stringField_sha256 rfl hchecks.2
  simp only [decodeProvenanceAuthority, h1, h2, ok_bind, h, Bool.not_true,
    Bool.false_eq_true, if_false]

theorem decodeTimeSource_document {s : ExternalTimeSource} (h : s.valid = true) :
    decodeProvenanceTimeSource (timeSourceJson s) = .ok s := by
  have hchecks := h
  simp only [ExternalTimeSource.valid, Bool.and_eq_true] at hchecks
  have h1 : provenanceStringField (timeSourceJson s) "service_id"
      = .ok s.serviceId := stringField_identifier rfl hchecks.1
  have h2 : provenanceStringField (timeSourceJson s) "key_id" = .ok s.keyId :=
    stringField_sha256 rfl hchecks.2
  simp only [decodeProvenanceTimeSource, h1, h2, ok_bind, h, Bool.not_true,
    Bool.false_eq_true, if_false]

theorem decodeVendor_string {vendor : Bytes} (h : validIdentifier vendor = true) :
    decodeVendor (string vendor) = .ok vendor := by
  have hstorable := storable_identifier h
  have hlimit : kMaximumIdentifierBytes ≤ kMaximumStorageStringBytes := by decide
  unfold decodeVendor
  dsimp only
  rw [if_neg]
  intro hbad
  rcases hbad with hempty | hlong
  · exact hstorable.1 (List.isEmpty_iff.mp hempty)
  · exact absurd (hstorable.2.trans hlimit) (Nat.not_le.mpr hlong)

variable {P : Platform}

theorem decodeServiceKey_document {key : ServicePublicKey}
    (h : validServicePublicKey P key = true) :
    decodeProvenanceServiceKey P (servicePublicKeyJson key) = .ok key := by
  have hchecks := h
  simp only [validServicePublicKey, Bool.and_eq_true] at hchecks
  have hid : validSha256 key.id = true := hchecks.1.1.1.1.1.1.1.1
  have hservice : validIdentifier key.serviceId = true := hchecks.1.1.1.1.1.1.1.2
  have hstate : key.state.toNat ≤ ServiceKeyState.revoked.toNat := by
    cases key.state <;> decide
  have hstateSmall : key.state.toNat < 2 ^ 53 := by
    cases key.state <;> decide
  have h1 : provenanceStringField (servicePublicKeyJson key) "id" = .ok key.id :=
    stringField_sha256 rfl hid
  have h2 : provenanceStringField (servicePublicKeyJson key) "service_id"
      = .ok key.serviceId := stringField_identifier rfl hservice
  have h3 : provenanceEnumField (servicePublicKeyJson key) "algorithm"
      ArtifactAuthenticationAlgorithm.ed25519.toNat = .ok key.algorithm.toNat :=
    enumField_num rfl (algorithm_le _) (algorithm_small _)
  have h4 : provenanceStringField (servicePublicKeyJson key) "public_key"
      = .ok (encodeHex key.publicKey.toList) := stringField_key rfl
  have h5 : provenanceDecimalField (servicePublicKeyJson key)
      "valid_from_sequence" = .ok key.validFromSequence := decimalField_uint rfl
  have h6 : provenanceDecimalField (servicePublicKeyJson key)
      "valid_through_sequence" = .ok key.validThroughSequence :=
    decimalField_uint rfl
  have h7 : provenanceEnumField (servicePublicKeyJson key) "state"
      ServiceKeyState.revoked.toNat = .ok key.state.toNat :=
    enumField_num rfl hstate hstateSmall
  have h8 : provenanceBoolField (servicePublicKeyJson key) "allow_fetch"
      = .ok key.allowFetch := boolField_bool rfl
  have h9 : provenanceBoolField (servicePublicKeyJson key) "allow_publish"
      = .ok key.allowPublish := boolField_bool rfl
  have h10 : provenanceBoolField (servicePublicKeyJson key) "allow_rotate"
      = .ok key.allowRotate := boolField_bool rfl
  simp only [decodeProvenanceServiceKey, serviceKeyHeader, h1, h2, h3, h4, h5, h6,
    h7, h8, h9, h10, ok_bind, decodeHex_key, keyBytes_toList,
    ArtifactAuthenticationAlgorithm.fromNat_toNat, keyStateFromNat_toNat, h,
    Bool.not_true, Bool.false_eq_true, if_false]

-- === statements

/-- A document with its id and its tag is one brace list. -/
theorem withField_both {id tag : Bytes} (fields : List (String × Json)) :
    object (withField true "authentication_tag" tag
      (withField true "id" id (obj fields)))
      = object (obj (fields ++ [("id", string id)]
        ++ [("authentication_tag", string tag)])) := by
  unfold withField
  rw [if_pos rfl, if_pos rfl, emplace_obj, emplace_obj]

theorem withField_id {id : Bytes} (fields : List (String × Json)) :
    object (withField true "id" id (obj fields))
      = object (obj (fields ++ [("id", string id)])) := by
  unfold withField
  rw [if_pos rfl, emplace_obj]

/-- **A statement is read back**, if its scopes are within the limit. -/
theorem decodeStatement_document {s : HardwareKeyAttestationStatement}
    (h : s.valid P = true) {maximum : Nat} (hscopes : s.scopes.length ≤ maximum) :
    decodeProvenanceStatement P maximum (hardwareStatementJson s true true)
      = .ok s := by
  have hchecks := h
  simp only [HardwareKeyAttestationStatement.valid, Bool.and_eq_true,
    beq_iff_eq] at hchecks
  obtain ⟨⟨⟨⟨⟨⟨⟨⟨⟨⟨⟨⟨⟨⟨⟨⟨⟨⟨hschema, -⟩, hid⟩, hparent⟩, hsubject⟩, hsubjectKey⟩,
    hadapter⟩, hvendor⟩, hproduct⟩, hevidence⟩, hnonce⟩, -⟩, htrust⟩, -⟩,
    hattester⟩, hattesterKey⟩, -⟩, htag⟩, -⟩ := hchecks
  have hdocument : hardwareStatementJson s true true
      = object (obj (hardwareStatementFields s ++ [("id", string s.id)]
        ++ [("authentication_tag", string s.authenticationTag)])) :=
    withField_both _
  have h1 : provenanceDecimalField (hardwareStatementJson s true true)
      "storage_schema" = .ok s.storageSchema.toUInt64 := by
    rw [hdocument]
    exact decimalField_uint32 rfl
  have h2 : provenanceDecimalField (hardwareStatementJson s true true) "sequence"
      = .ok s.sequence := by
    rw [hdocument]
    exact decimalField_uint rfl
  have h3 : provenanceStringField (hardwareStatementJson s true true) "id"
      = .ok s.id := by
    rw [hdocument]
    exact stringField_sha256 rfl hid
  have h4 : provenanceStringField (hardwareStatementJson s true true)
      "parent_statement_id" true = .ok s.parentStatementId := by
    rw [hdocument]
    exact stringField_parent rfl hparent
  have h5 : provenanceStringField (hardwareStatementJson s true true)
      "subject_service_id" = .ok s.subjectServiceId := by
    rw [hdocument]
    exact stringField_identifier rfl hsubject
  have h6 : provenanceStringField (hardwareStatementJson s true true)
      "subject_key_id" = .ok s.subjectKeyId := by
    rw [hdocument]
    exact stringField_sha256 rfl hsubjectKey
  have h7 : provenanceStringField (hardwareStatementJson s true true)
      "subject_public_key" = .ok (encodeHex s.subjectPublicKey.toList) := by
    rw [hdocument]
    exact stringField_key rfl
  have h8 : statementAdapter (hardwareStatementJson s true true)
      = .ok s.adapter := by
    have hfound : find (ascii "adapter") (hardwareStatementJson s true true)
        = some (adapterJson s.adapter) := by
      rw [hdocument, find_obj_lookup]
      rfl
    rw [statementAdapter, hfound]
    exact decodeAdapter_document hadapter
  have h9 : provenanceStringField (hardwareStatementJson s true true) "vendor_id"
      = .ok s.vendorId := by
    rw [hdocument]
    exact stringField_identifier rfl hvendor
  have h10 : provenanceStringField (hardwareStatementJson s true true)
      "product_id" = .ok s.productId := by
    rw [hdocument]
    exact stringField_identifier rfl hproduct
  have h11 : provenanceStringField (hardwareStatementJson s true true)
      "evidence_digest" = .ok s.evidenceDigest := by
    rw [hdocument]
    exact stringField_sha256 rfl hevidence
  have h12 : provenanceStringField (hardwareStatementJson s true true)
      "nonce_digest" = .ok s.nonceDigest := by
    rw [hdocument]
    exact stringField_sha256 rfl hnonce
  have h13 : decodeProvenanceScopes (hardwareStatementJson s true true) "scopes"
      maximum = .ok s.scopes := by
    rw [hdocument]
    exact decodeScopes_document rfl hscopes
  have h14 : provenanceStringField (hardwareStatementJson s true true)
      "trust_bundle_id" = .ok s.trustBundleId := by
    rw [hdocument]
    exact stringField_sha256 rfl htrust
  have h15 : provenanceDecimalField (hardwareStatementJson s true true)
      "trust_bundle_sequence" = .ok s.trustBundleSequence := by
    rw [hdocument]
    exact decimalField_uint rfl
  have h16 : provenanceStringField (hardwareStatementJson s true true)
      "attester_service_id" = .ok s.attesterServiceId := by
    rw [hdocument]
    exact stringField_identifier rfl hattester
  have h17 : provenanceStringField (hardwareStatementJson s true true)
      "attester_key_id" = .ok s.attesterKeyId := by
    rw [hdocument]
    exact stringField_sha256 rfl hattesterKey
  have h18 : provenanceEnumField (hardwareStatementJson s true true) "algorithm"
      ArtifactAuthenticationAlgorithm.ed25519.toNat = .ok s.algorithm.toNat := by
    rw [hdocument]
    exact enumField_num rfl (algorithm_le _) (algorithm_small _)
  have h19 : provenanceStringField (hardwareStatementJson s true true)
      "authentication_tag" = .ok s.authenticationTag := by
    rw [hdocument]
    exact stringField_tag rfl htag
  simp only [decodeProvenanceStatement, statementHeader, h1, h2, h3, h4, h5, h6, h7,
    h8, h9, h10, h11, h12, h13, h14, h15, h16, h17, h18, h19, ok_bind,
    decodeHex_key, keyBytes_toList,
    UInt32.toNat_toUInt64, UInt32.ofNat_toNat,
    ArtifactAuthenticationAlgorithm.fromNat_toNat, h, Bool.not_true,
    Bool.false_eq_true, if_false]

/-- A statement whose fields are all there has scopes that decode. -/
theorem scopes_of_statementHeader {document : Json} {maximum : Nat}
    {r : HardwareKeyAttestationStatement × Bytes}
    (h : statementHeader document maximum = .ok r) :
    ∃ scopes, decodeProvenanceScopes document "scopes" maximum = .ok scopes := by
  unfold statementHeader at h
  -- twelve fields are read before the scopes
  iterate 12 obtain ⟨_, -, h⟩ := bind_eq_ok.mp h
  obtain ⟨scopes, hscopes, -⟩ := bind_eq_ok.mp h
  exact ⟨scopes, hscopes⟩

theorem statementHeader_of_decodeStatement {document : Json} {maximum : Nat}
    {s : HardwareKeyAttestationStatement}
    (h : decodeProvenanceStatement P maximum document = .ok s) :
    ∃ r, statementHeader document maximum = .ok r := by
  unfold decodeProvenanceStatement at h
  cases hr : statementHeader document maximum with
  | ok r => exact ⟨r, rfl⟩
  | error e =>
      rw [hr] at h
      cases h

/-- A statement that is read back has its scopes within the limit. -/
theorem scopes_of_decodeStatement {s s' : HardwareKeyAttestationStatement}
    {maximum : Nat}
    (h : decodeProvenanceStatement P maximum (hardwareStatementJson s true true)
      = .ok s') : s.scopes.length ≤ maximum := by
  obtain ⟨r, hr⟩ := statementHeader_of_decodeStatement h
  obtain ⟨scopes, hscopes⟩ := scopes_of_statementHeader hr
  have hdocument : hardwareStatementJson s true true
      = object (obj (hardwareStatementFields s ++ [("id", string s.id)]
        ++ [("authentication_tag", string s.authenticationTag)])) :=
    withField_both _
  rw [hdocument, decodeProvenanceScopes, bind_eq_ok] at hscopes
  obtain ⟨items, hitems, -⟩ := hscopes
  have hlookup : (hardwareStatementFields s ++ [("id", string s.id)]
      ++ [("authentication_tag", string s.authenticationTag)]).lookup "scopes"
      = some (array (s.scopes.map fun scope => num scope.toNat)) := rfl
  rw [arrayField_items hlookup, ite_failure_eq_ok, List.length_map, not_lt] at hitems
  exact hitems.1

/-- **An assertion is read back.** -/
theorem decodeTimeAssertion_document {a : ExternalTimeAssertion}
    (h : a.valid P = true) :
    decodeProvenanceTimeAssertion P (timeAssertionJson a true true) = .ok a := by
  have hchecks := h
  simp only [ExternalTimeAssertion.valid, Bool.and_eq_true, beq_iff_eq] at hchecks
  obtain ⟨⟨⟨⟨⟨⟨⟨⟨⟨⟨⟨⟨hschema, hid⟩, -⟩, hparent⟩, hsubject⟩, hclock⟩, htrust⟩, -⟩,
    hservice⟩, hkey⟩, -⟩, htag⟩, -⟩ := hchecks
  have hdocument : timeAssertionJson a true true
      = object (obj (timeAssertionFields a ++ [("id", string a.id)]
        ++ [("authentication_tag", string a.authenticationTag)])) :=
    withField_both _
  have h1 : provenanceDecimalField (timeAssertionJson a true true)
      "storage_schema" = .ok a.storageSchema.toUInt64 := by
    rw [hdocument]
    exact decimalField_uint32 rfl
  have h2 : provenanceStringField (timeAssertionJson a true true) "id"
      = .ok a.id := by
    rw [hdocument]
    exact stringField_sha256 rfl hid
  have h3 : provenanceDecimalField (timeAssertionJson a true true)
      "source_sequence" = .ok a.sourceSequence := by
    rw [hdocument]
    exact decimalField_uint rfl
  have h4 : provenanceStringField (timeAssertionJson a true true)
      "parent_assertion_id" true = .ok a.parentAssertionId := by
    rw [hdocument]
    exact stringField_parent rfl hparent
  have h5 : provenanceStringField (timeAssertionJson a true true) "subject_id"
      = .ok a.subjectId := by
    rw [hdocument]
    exact stringField_sha256 rfl hsubject
  have h6 : provenanceStringField (timeAssertionJson a true true) "clock_id"
      = .ok a.clockId := by
    rw [hdocument]
    exact stringField_identifier rfl hclock
  have h7 : provenanceDecimalField (timeAssertionJson a true true)
      "asserted_time_ns" = .ok a.assertedTimeNs := by
    rw [hdocument]
    exact decimalField_uint rfl
  have h8 : provenanceDecimalField (timeAssertionJson a true true)
      "uncertainty_ns" = .ok a.uncertaintyNs := by
    rw [hdocument]
    exact decimalField_uint rfl
  have h9 : provenanceStringField (timeAssertionJson a true true)
      "trust_bundle_id" = .ok a.trustBundleId := by
    rw [hdocument]
    exact stringField_sha256 rfl htrust
  have h10 : provenanceDecimalField (timeAssertionJson a true true)
      "trust_bundle_sequence" = .ok a.trustBundleSequence := by
    rw [hdocument]
    exact decimalField_uint rfl
  have h11 : provenanceStringField (timeAssertionJson a true true)
      "source_service_id" = .ok a.sourceServiceId := by
    rw [hdocument]
    exact stringField_identifier rfl hservice
  have h12 : provenanceStringField (timeAssertionJson a true true)
      "source_key_id" = .ok a.sourceKeyId := by
    rw [hdocument]
    exact stringField_sha256 rfl hkey
  have h13 : provenanceEnumField (timeAssertionJson a true true) "algorithm"
      ArtifactAuthenticationAlgorithm.ed25519.toNat = .ok a.algorithm.toNat := by
    rw [hdocument]
    exact enumField_num rfl (algorithm_le _) (algorithm_small _)
  have h14 : provenanceStringField (timeAssertionJson a true true)
      "authentication_tag" = .ok a.authenticationTag := by
    rw [hdocument]
    exact stringField_tag rfl htag
  simp only [decodeProvenanceTimeAssertion, timeAssertionHeader, h1, h2, h3, h4, h5,
    h6, h7, h8, h9, h10, h11, h12, h13, h14, ok_bind, UInt32.toNat_toUInt64,
    UInt32.ofNat_toNat, ArtifactAuthenticationAlgorithm.fromNat_toNat, h,
    Bool.not_true, Bool.false_eq_true, if_false]

-- === policies

/-- Creating a valid policy again changes nothing. -/
theorem create_hardwarePolicy {p : HardwareKeyProvenancePolicy}
    (h : p.valid P = true) :
    HardwareKeyProvenancePolicy.create P p.minimumStatements
      p.requireDistinctAttesters p.maximumChainLength p.requiredScopes
      p.allowedAdapters p.allowedAuthorities p.allowedVendorIds = .ok p := by
  have hchecks := h
  simp only [HardwareKeyProvenancePolicy.valid, Bool.and_eq_true,
    beq_iff_eq] at hchecks
  obtain ⟨⟨⟨⟨⟨⟨⟨⟨hrest, hscopes⟩, hadapters⟩, -⟩, hauthorities⟩, -⟩, hvendors⟩, -⟩,
    hidentity⟩ := hchecks
  have hschema : p.storageSchema = 1 := by
    obtain ⟨⟨⟨⟨⟨⟨⟨⟨⟨⟨⟨⟨⟨hschema, -⟩, -⟩, -⟩, -⟩, -⟩, -⟩, -⟩, -⟩, -⟩, -⟩, -⟩, -⟩, -⟩ :=
      hrest
    exact hschema
  simp only [sortedUniqueScopes, Bool.and_eq_true] at hscopes
  have hsame : ({ storageSchema := 1
                  id := hardwareKeyProvenancePolicyIdentity P p
                  minimumStatements := p.minimumStatements
                  requireDistinctAttesters := p.requireDistinctAttesters
                  maximumChainLength := p.maximumChainLength
                  requiredScopes := p.requiredScopes
                  allowedAdapters := p.allowedAdapters
                  allowedAuthorities := p.allowedAuthorities
                  allowedVendorIds := p.allowedVendorIds }
      : HardwareKeyProvenancePolicy) = p := by
    rw [← hidentity, ← hschema]
  have hidentity' : hardwareKeyProvenancePolicyIdentity P
      { minimumStatements := p.minimumStatements
        requireDistinctAttesters := p.requireDistinctAttesters
        maximumChainLength := p.maximumChainLength
        requiredScopes := p.requiredScopes
        allowedAdapters := p.allowedAdapters
        allowedAuthorities := p.allowedAuthorities
        allowedVendorIds := p.allowedVendorIds }
      = hardwareKeyProvenancePolicyIdentity P p := by
    unfold hardwareKeyProvenancePolicyIdentity hardwarePolicyJson
      hardwarePolicyFields
    rw [withField_false, withField_false, hschema]
  unfold HardwareKeyProvenancePolicy.create
  rw [sortUnique_of_sortedUnique hscopes.2, sortUnique_of_sortedUnique hadapters,
    sortUnique_of_sortedUnique hauthorities, sortUnique_of_sortedUnique hvendors]
  dsimp only
  rw [hidentity', hsame, h]
  rfl

theorem create_freshnessPolicy {p : ExternalTimeFreshnessPolicy}
    (h : p.valid P = true) :
    ExternalTimeFreshnessPolicy.create P p.clockId p.maximumAgeNs
      p.maximumFutureSkewNs p.maximumUncertaintyNs p.minimumSources
      p.requireDistinctServices p.maximumAssertions p.allowedSources = .ok p := by
  have hchecks := h
  simp only [ExternalTimeFreshnessPolicy.valid, Bool.and_eq_true,
    beq_iff_eq] at hchecks
  obtain ⟨⟨⟨⟨⟨⟨⟨⟨⟨⟨⟨⟨hschema, -⟩, -⟩, -⟩, -⟩, -⟩, -⟩, -⟩, -⟩, hsources⟩, -⟩, -⟩,
    hidentity⟩ := hchecks
  have hsame : ({ storageSchema := 1
                  id := externalTimeFreshnessPolicyIdentity P p
                  clockId := p.clockId
                  maximumAgeNs := p.maximumAgeNs
                  maximumFutureSkewNs := p.maximumFutureSkewNs
                  maximumUncertaintyNs := p.maximumUncertaintyNs
                  minimumSources := p.minimumSources
                  requireDistinctServices := p.requireDistinctServices
                  maximumAssertions := p.maximumAssertions
                  allowedSources := p.allowedSources }
      : ExternalTimeFreshnessPolicy) = p := by
    rw [← hidentity, ← hschema]
  have hidentity' : externalTimeFreshnessPolicyIdentity P
      { clockId := p.clockId
        maximumAgeNs := p.maximumAgeNs
        maximumFutureSkewNs := p.maximumFutureSkewNs
        maximumUncertaintyNs := p.maximumUncertaintyNs
        minimumSources := p.minimumSources
        requireDistinctServices := p.requireDistinctServices
        maximumAssertions := p.maximumAssertions
        allowedSources := p.allowedSources }
      = externalTimeFreshnessPolicyIdentity P p := by
    unfold externalTimeFreshnessPolicyIdentity freshnessPolicyJson
      freshnessPolicyFields
    rw [withField_false, withField_false, hschema]
  unfold ExternalTimeFreshnessPolicy.create
  rw [sortUnique_of_sortedUnique hsources]
  dsimp only
  rw [hidentity', hsame, h]
  rfl

/-- **A hardware policy is read back**, if its lists are within the limit. -/
theorem decodeHardwarePolicy_document {p : HardwareKeyProvenancePolicy}
    (h : p.valid P = true) {maximum : Nat}
    (hscopes : p.requiredScopes.length ≤ maximum)
    (hadapters : p.allowedAdapters.length ≤ maximum)
    (hauthorities : p.allowedAuthorities.length ≤ maximum)
    (hvendors : p.allowedVendorIds.length ≤ maximum) :
    decodeProvenanceHardwarePolicy P maximum (hardwarePolicyJson p true)
      = .ok p := by
  have hchecks := h
  simp only [HardwareKeyProvenancePolicy.valid, Bool.and_eq_true, beq_iff_eq,
    List.all_eq_true] at hchecks
  obtain ⟨⟨⟨⟨⟨⟨⟨⟨hrest, -⟩, -⟩, hadapter⟩, -⟩, hauthority⟩, -⟩, hvendor⟩, -⟩ :=
    hchecks
  obtain ⟨⟨⟨⟨⟨⟨⟨⟨⟨⟨⟨⟨⟨hschema, hid⟩, -⟩, -⟩, -⟩, -⟩, -⟩, -⟩, -⟩, -⟩, -⟩, -⟩, -⟩, -⟩ :=
    hrest
  have hdocument : hardwarePolicyJson p true
      = object (obj (hardwarePolicyFields p ++ [("id", string p.id)])) :=
    withField_id _
  have h1 : decodeProvenanceScopes (hardwarePolicyJson p true) "required_scopes"
      maximum = .ok p.requiredScopes := by
    rw [hdocument]
    exact decodeScopes_document rfl hscopes
  have h2 : provenanceArrayField (hardwarePolicyJson p true) "allowed_adapters"
      maximum = .ok (p.allowedAdapters.map adapterJson) := by
    rw [hdocument]
    exact arrayField_ok rfl (by rwa [List.length_map])
  have h3 : provenanceArrayField (hardwarePolicyJson p true)
      "allowed_authorities" maximum
      = .ok (p.allowedAuthorities.map authorityJson) := by
    rw [hdocument]
    exact arrayField_ok rfl (by rwa [List.length_map])
  have h4 : provenanceArrayField (hardwarePolicyJson p true)
      "allowed_vendor_ids" maximum = .ok (p.allowedVendorIds.map string) := by
    rw [hdocument]
    exact arrayField_ok rfl (by rwa [List.length_map])
  have h5 : provenanceDecimalField (hardwarePolicyJson p true) "storage_schema"
      = .ok p.storageSchema.toUInt64 := by
    rw [hdocument]
    exact decimalField_uint32 rfl
  have h6 : provenanceStringField (hardwarePolicyJson p true) "id" = .ok p.id := by
    rw [hdocument]
    exact stringField_sha256 rfl hid
  have h7 : provenanceDecimalField (hardwarePolicyJson p true)
      "minimum_statements" = .ok p.minimumStatements.toUInt64 := by
    rw [hdocument]
    exact decimalField_uint32 rfl
  have h8 : provenanceBoolField (hardwarePolicyJson p true)
      "require_distinct_attesters" = .ok p.requireDistinctAttesters := by
    rw [hdocument]
    exact boolField_bool rfl
  have h9 : provenanceDecimalField (hardwarePolicyJson p true)
      "maximum_chain_length" = .ok p.maximumChainLength := by
    rw [hdocument]
    exact decimalField_uint rfl
  have hminimum : ¬p.minimumStatements.toNat ≥ 2 ^ 32 :=
    Nat.not_le.mpr p.minimumStatements.toNat_lt
  have hheader : hardwarePolicyHeader (hardwarePolicyJson p true)
      = .ok ⟨p.storageSchema.toUInt64, p.id, p.minimumStatements.toUInt64,
        p.requireDistinctAttesters, p.maximumChainLength⟩ := by
    simp only [hardwarePolicyHeader, h5, h6, h7, h8, h9, ok_bind,
      UInt32.toNat_toUInt64, if_neg hminimum]
  have hitems : decodeAll decodeProvenanceAdapter
      (p.allowedAdapters.map adapterJson) = .ok p.allowedAdapters :=
    decodeAll_map fun a ha => decodeAdapter_document (hadapter a ha)
  have hitems' : decodeAll decodeProvenanceAuthority
      (p.allowedAuthorities.map authorityJson) = .ok p.allowedAuthorities :=
    decodeAll_map fun a ha => decodeAuthority_document (hauthority a ha)
  have hitems'' : decodeAll decodeVendor (p.allowedVendorIds.map string)
      = .ok p.allowedVendorIds :=
    decodeAll_map fun a ha => decodeVendor_string (hvendor a ha)
  simp only [decodeProvenanceHardwarePolicy, h1, h2, h3, h4, hheader, hitems,
    hitems', hitems'', ok_bind, UInt32.toNat_toUInt64, UInt32.ofNat_toNat,
    create_hardwarePolicy h, ne_eq, not_true_eq_false, or_self, if_false]

/-- **A freshness policy is read back**, if its list is within the limit. -/
theorem decodeFreshnessPolicy_document {p : ExternalTimeFreshnessPolicy}
    (h : p.valid P = true) {maximum : Nat}
    (hsources : p.allowedSources.length ≤ maximum) :
    decodeProvenanceFreshnessPolicy P maximum (freshnessPolicyJson p true)
      = .ok p := by
  have hchecks := h
  simp only [ExternalTimeFreshnessPolicy.valid, Bool.and_eq_true, beq_iff_eq,
    List.all_eq_true] at hchecks
  obtain ⟨⟨⟨⟨⟨⟨⟨⟨⟨⟨⟨⟨hschema, hid⟩, hclock⟩, -⟩, -⟩, -⟩, -⟩, -⟩, -⟩, -⟩, hsource⟩,
    -⟩, -⟩ := hchecks
  have hdocument : freshnessPolicyJson p true
      = object (obj (freshnessPolicyFields p ++ [("id", string p.id)])) :=
    withField_id _
  have h1 : provenanceArrayField (freshnessPolicyJson p true) "allowed_sources"
      maximum = .ok (p.allowedSources.map timeSourceJson) := by
    rw [hdocument]
    exact arrayField_ok rfl (by rwa [List.length_map])
  have h2 : provenanceDecimalField (freshnessPolicyJson p true) "storage_schema"
      = .ok p.storageSchema.toUInt64 := by
    rw [hdocument]
    exact decimalField_uint32 rfl
  have h3 : provenanceStringField (freshnessPolicyJson p true) "id" = .ok p.id := by
    rw [hdocument]
    exact stringField_sha256 rfl hid
  have h4 : provenanceStringField (freshnessPolicyJson p true) "clock_id"
      = .ok p.clockId := by
    rw [hdocument]
    exact stringField_identifier rfl hclock
  have h5 : provenanceDecimalField (freshnessPolicyJson p true) "maximum_age_ns"
      = .ok p.maximumAgeNs := by
    rw [hdocument]
    exact decimalField_uint rfl
  have h6 : provenanceDecimalField (freshnessPolicyJson p true)
      "maximum_future_skew_ns" = .ok p.maximumFutureSkewNs := by
    rw [hdocument]
    exact decimalField_uint rfl
  have h7 : provenanceDecimalField (freshnessPolicyJson p true)
      "maximum_uncertainty_ns" = .ok p.maximumUncertaintyNs := by
    rw [hdocument]
    exact decimalField_uint rfl
  have h8 : provenanceDecimalField (freshnessPolicyJson p true) "minimum_sources"
      = .ok p.minimumSources.toUInt64 := by
    rw [hdocument]
    exact decimalField_uint32 rfl
  have h9 : provenanceBoolField (freshnessPolicyJson p true)
      "require_distinct_services" = .ok p.requireDistinctServices := by
    rw [hdocument]
    exact boolField_bool rfl
  have h10 : provenanceDecimalField (freshnessPolicyJson p true)
      "maximum_assertions" = .ok p.maximumAssertions := by
    rw [hdocument]
    exact decimalField_uint rfl
  have hminimum : ¬p.minimumSources.toNat ≥ 2 ^ 32 :=
    Nat.not_le.mpr p.minimumSources.toNat_lt
  have hheader : freshnessPolicyHeader (freshnessPolicyJson p true)
      = .ok ⟨p.storageSchema.toUInt64, p.id, p.clockId, p.maximumAgeNs,
        p.maximumFutureSkewNs, p.maximumUncertaintyNs, p.minimumSources.toUInt64,
        p.requireDistinctServices, p.maximumAssertions⟩ := by
    simp only [freshnessPolicyHeader, h2, h3, h4, h5, h6, h7, h8, h9, h10, ok_bind,
      UInt32.toNat_toUInt64, if_neg hminimum]
  have hitems : decodeAll decodeProvenanceTimeSource
      (p.allowedSources.map timeSourceJson) = .ok p.allowedSources :=
    decodeAll_map fun a ha => decodeTimeSource_document (hsource a ha)
  simp only [decodeProvenanceFreshnessPolicy, h1, hheader, hitems, ok_bind,
    UInt32.toNat_toUInt64, UInt32.ofNat_toNat, create_freshnessPolicy h, ne_eq,
    not_true_eq_false, or_self, if_false]

end ProvenanceFile

end RbfSafe
