/-
What a valid trust history guarantees.

`ServiceTrustHistory::valid` replays the chain entry by entry. Each
entry is checked on its own (`HistoryEntry`) and against the entry
before it only, so the entries of a prefix pass the checks they passed
in the whole (`valid_prefixOf`): a history that was valid when it was
shorter never has to be looked at again.

# Lookup by id

`bundle` returns the first bundle with an id. That it is the bundle a
record names needs that no two bundles of the history share an id. Their
sequences differ, and the document of a bundle tells its sequence
(`told_of_dump_eq`), so two bundles with one id are two documents with
one digest.
-/
import RbfSafe.Core.Proofs.Printed
import RbfSafe.Identity.History

namespace RbfSafe

open Json

-- === what a document of a bundle tells

theorem plain_keyJson (key : ServicePublicKey) (schema : UInt32) :
    Plain (keyJson key schema) := by
  have halgorithm : key.algorithm.toNat < 2 ^ 53 := by
    cases key.algorithm <;> decide
  have hstate : key.state.toNat < 2 ^ 53 := by
    cases key.state <;> decide
  unfold keyJson
  dsimp only
  by_cases hrotate : schema ≥ 2
  · rw [if_pos hrotate, emplace_obj]
    apply plain_obj
    simp only [List.cons_append, List.nil_append, List.forall_mem_cons,
      List.not_mem_nil, false_imp_iff, implies_true, and_true]
    exact ⟨.num halgorithm, .bool _, .bool _, .string _, .string _, .string _,
      .num hstate, .string _, .string _, .bool _⟩
  · rw [if_neg hrotate]
    apply plain_obj
    simp only [List.forall_mem_cons, List.not_mem_nil, false_imp_iff,
      implies_true, and_true]
    exact ⟨.num halgorithm, .bool _, .bool _, .string _, .string _, .string _,
      .num hstate, .string _, .string _⟩

/-- The brace list of a bundle's document, and what is emplaced after it. -/
def bundleFields (bundle : ServiceTrustBundle) : List (String × Json) :=
  [("format", string (ascii "rbfsafe-service-trust-bundle")),
    ("keys", array (bundle.keys.map fun key => keyJson key bundle.storageSchema)),
    ("parent_id", string bundle.parentId),
    ("schema", num bundle.storageSchema.toNat),
    ("sequence", uint bundle.sequence.toNat)]
    ++ if bundle.storageSchema ≥ 3 then
      [("rotation_policy", rotationPolicyJson bundle.rotationPolicy)] else []

theorem bundleJson_eq (bundle : ServiceTrustBundle) :
    bundleJson bundle = object (obj (bundleFields bundle)) := by
  unfold bundleJson bundleFields
  dsimp only
  by_cases hpolicy : bundle.storageSchema ≥ 3
  · rw [if_pos hpolicy, if_pos hpolicy, emplace_obj]
  · rw [if_neg hpolicy, if_neg hpolicy, List.append_nil]

theorem plain_bundleJson (bundle : ServiceTrustBundle) :
    Plain (bundleJson bundle) := by
  have hsmall : ∀ n : UInt32, n.toNat < 2 ^ 53 := by
    intro n
    have := n.toNat_lt
    omega
  have hkeys : Plain (array (bundle.keys.map fun key =>
      keyJson key bundle.storageSchema)) := by
    apply Plain.array
    intro item hitem
    obtain ⟨key, -, rfl⟩ := List.mem_map.mp hitem
    exact plain_keyJson key _
  have hpolicy : Plain (rotationPolicyJson bundle.rotationPolicy) := by
    apply plain_obj
    simp only [List.forall_mem_cons, List.not_mem_nil, false_imp_iff,
      implies_true, and_true]
    exact ⟨.num (hsmall _), .bool _⟩
  rw [bundleJson_eq]
  apply plain_obj
  intro field hfield
  rcases List.mem_append.mp hfield with hfield | hfield
  · simp only [List.mem_cons, List.not_mem_nil, or_false] at hfield
    rcases hfield with rfl | rfl | rfl | rfl | rfl
    · exact .string _
    · exact hkeys
    · exact .string _
    · exact .num (hsmall _)
    · exact .string _
  · by_cases hschema : bundle.storageSchema ≥ 3
    · rw [if_pos hschema, List.mem_singleton] at hfield
      rw [hfield]
      exact hpolicy
    · rw [if_neg hschema] at hfield
      cases hfield

/-- **A bundle's document tells its sequence and its parent.** -/
theorem told_of_dump_eq {L : Libc} {b b' : ServiceTrustBundle}
    (h : (bundleJson b).dump L false 0 = (bundleJson b').dump L false 0) :
    b.sequence.toNat = b'.sequence.toNat ∧ b.parentId = b'.parentId := by
  have hdocument := plain_dump_injective L (plain_bundleJson b)
    (plain_bundleJson b') h
  have hfields : ∀ (b : ServiceTrustBundle),
      find (ascii "sequence") (bundleJson b) = some (uint b.sequence.toNat)
      ∧ find (ascii "parent_id") (bundleJson b) = some (string b.parentId) := by
    intro b
    rw [bundleJson_eq, find_obj_lookup, find_obj_lookup]
    exact ⟨rfl, rfl⟩
  obtain ⟨hsequence, hparent⟩ := hfields b
  rw [hdocument] at hsequence hparent
  obtain ⟨hsequence', hparent'⟩ := hfields b'
  rw [hsequence'] at hsequence
  rw [hparent'] at hparent
  exact ⟨(uint_inj (Option.some.inj hsequence)).symm,
    (Json.string.inj (Option.some.inj hparent)).symm⟩

/-- Bundles with one document have one sequence. -/
theorem sequence_of_dump_eq {L : Libc} {b b' : ServiceTrustBundle}
    (h : (bundleJson b).dump L false 0 = (bundleJson b').dump L false 0) :
    b.sequence.toNat = b'.sequence.toNat :=
  (told_of_dump_eq h).1

-- === valid histories

section
variable (P : Platform)

/-- What `ServiceTrustHistory::valid` has checked of the entry at
`index`, whatever stands before it. -/
structure HistoryEntry (index : Nat) (bundle : ServiceTrustBundle)
    (record : ServiceTrustRotationRecord) : Prop where
  valid : bundle.valid P = true
  bundleSequence : bundle.sequence.toNat = index + 1
  recordSequence : record.sequence.toNat = index + 1
  bundleId : record.bundleId = bundle.id

/-- The checks of `ServiceTrustHistory::valid` as facts. -/
structure ValidHistory (history : ServiceTrustHistory)
    (root current : ServiceTrustBundle) : Prop where
  first : history.bundles.head? = some root
  last : history.bundles.getLast? = some current
  schema : (history.storageSchema == kLegacyHistorySchema
    || history.storageSchema == kCurrentHistorySchema) = true
  lengths : history.bundles.length = history.records.length
  rootValid : validSha256 history.rootBundleId = true
  currentId : history.currentBundleId = current.id
  rootId : history.rootBundleId = root.id
  entries : entriesValid P history.storageSchema 0 none
    (history.bundles.zip history.records) = true

variable {P}

theorem validHistory_iff {history : ServiceTrustHistory} :
    history.valid P = true ↔ ∃ root current, ValidHistory P history root current := by
  constructor
  · intro h
    rw [ServiceTrustHistory.valid.eq_def] at h
    split at h
    · next root current hroot hcurrent =>
        simp only [Bool.and_eq_true, beq_iff_eq] at h
        obtain ⟨⟨⟨⟨⟨hschema, hlengths⟩, hrootValid⟩, hcurrentId⟩, hrootId⟩,
          hentries⟩ := h
        exact ⟨root, current, hroot, hcurrent, hschema, hlengths, hrootValid,
          hcurrentId, hrootId, hentries⟩
    · cases h
  · rintro ⟨root, current, h⟩
    have hrootValid := h.rootValid
    rw [h.rootId] at hrootValid
    simp only [ServiceTrustHistory.valid, h.first, h.last, h.schema, hrootValid,
      h.entries, h.lengths, h.currentId, h.rootId, beq_self_eq_true, Bool.and_true]

/-- A checked entry, at its place in the chain. -/
theorem entriesValid_getElem {schema : UInt32} :
    ∀ {entries : List (ServiceTrustBundle × ServiceTrustRotationRecord)}
    {index : Nat}
    {previous : Option (ServiceTrustBundle × ServiceTrustRotationRecord)},
    entriesValid P schema index previous entries = true →
    ∀ {i : Nat} {entry : ServiceTrustBundle × ServiceTrustRotationRecord},
    entries[i]? = some entry →
    HistoryEntry P (index + i) entry.1 entry.2 := by
  intro entries
  induction entries with
  | nil =>
      intro index previous _ i entry hi
      cases hi
  | cons first entries ih =>
      intro index previous h i entry hi
      obtain ⟨bundle, record⟩ := first
      rw [entriesValid, Bool.and_eq_true] at h
      cases i with
      | zero =>
          rw [List.getElem?_cons_zero, Option.some.injEq] at hi
          subst hi
          have hentry := h.1
          rw [entryValid] at hentry
          simp only [Bool.and_eq_true, beq_iff_eq] at hentry
          obtain ⟨⟨⟨⟨⟨⟨⟨hvalid, -⟩, hbundle⟩, hrecord⟩, -⟩, hid⟩, -⟩, -⟩ := hentry
          exact ⟨hvalid, hbundle, hrecord, hid⟩
      | succ i =>
          rw [List.getElem?_cons_succ] at hi
          have hnext := ih h.2 hi
          rw [show index + (i + 1) = index + 1 + i from by omega]
          exact hnext

/-- The entries of a prefix pass the checks they passed in the whole. -/
theorem entriesValid_append {schema : UInt32} :
    ∀ {entries rest : List (ServiceTrustBundle × ServiceTrustRotationRecord)}
    {index : Nat}
    {previous : Option (ServiceTrustBundle × ServiceTrustRotationRecord)},
    entriesValid P schema index previous (entries ++ rest) = true →
    entriesValid P schema index previous entries = true
  | [], _, _, _, _ => by rw [entriesValid]
  | (bundle, record) :: entries, rest, index, previous, h => by
      rw [List.cons_append, entriesValid, Bool.and_eq_true] at h
      rw [entriesValid, Bool.and_eq_true]
      exact ⟨h.1, entriesValid_append h.2⟩

section
variable {history : ServiceTrustHistory} (hvalid : history.valid P = true)
include hvalid

theorem history_lengths : history.bundles.length = history.records.length := by
  obtain ⟨root, current, h⟩ := validHistory_iff.mp hvalid
  exact h.lengths

/-- The entry at a place of a valid history. -/
theorem history_entry {i : Nat} (hi : i < history.records.length) :
    ∃ bundle record, history.bundles[i]? = some bundle ∧
      history.records[i]? = some record ∧ HistoryEntry P i bundle record := by
  obtain ⟨root, current, h⟩ := validHistory_iff.mp hvalid
  have hbundle : i < history.bundles.length := by
    rw [h.lengths]
    exact hi
  refine ⟨history.bundles[i], history.records[i],
    List.getElem?_eq_getElem hbundle, List.getElem?_eq_getElem hi, ?_⟩
  have hzip : (history.bundles.zip history.records)[i]?
      = some (history.bundles[i], history.records[i]) := by
    rw [List.getElem?_zip_eq_some]
    exact ⟨List.getElem?_eq_getElem hbundle, List.getElem?_eq_getElem hi⟩
  have hentry := entriesValid_getElem h.entries hzip
  rw [Nat.zero_add] at hentry
  exact hentry

/-- **A prefix of a valid history is valid.** -/
theorem valid_prefixOf {k : Nat} (hk : 1 ≤ k)
    (hk' : k ≤ history.records.length) : (history.prefixOf k).valid P = true := by
  obtain ⟨root, current, h⟩ := validHistory_iff.mp hvalid
  obtain ⟨bundle, record, hbundle, -, -⟩ := history_entry hvalid
    (show k - 1 < history.records.length by omega)
  have hlast : (history.bundles.take k).getLast? = some bundle := by
    rw [List.getLast?_eq_getElem?, List.length_take, List.getElem?_take, if_pos]
    · rw [Nat.min_eq_left (by rw [h.lengths]; exact hk'), hbundle]
    · omega
  refine validHistory_iff.mpr ⟨root, bundle, ?_, hlast, h.schema, ?_,
    h.rootValid, ?_, h.rootId, ?_⟩
  · simp only [ServiceTrustHistory.prefixOf]
    rw [List.head?_take, if_neg (by omega), h.first]
  · simp only [ServiceTrustHistory.prefixOf, List.length_take, h.lengths]
  · simp only [ServiceTrustHistory.prefixOf, hlast]
    rfl
  · have hzip : (history.bundles.take k).zip (history.records.take k)
        = (history.bundles.zip history.records).take k := List.take_zipWith.symm
    simp only [ServiceTrustHistory.prefixOf, hzip]
    apply entriesValid_append
    rw [List.take_append_drop]
    exact h.entries

end

/-- The documents of a history whose digests are compared. -/
def bundleDocuments (L : Libc) (history : ServiceTrustHistory) : Set Bytes :=
  {document | ∃ bundle ∈ history.bundles,
    document = (bundleJson bundle).dump L false 0}

/-- The id a bundle is looked up by is the digest of its document. -/
theorem bundle_valid {bundle : ServiceTrustBundle} (h : bundle.valid P = true) :
    validSha256 bundle.id = true ∧
      P.sha256 ((bundleJson bundle).dump P.toLibc false 0) = bundle.id := by
  rw [ServiceTrustBundle.valid] at h
  simp only [Bool.and_eq_true, beq_iff_eq] at h
  exact ⟨h.1.1.1.1.1.2, h.2⟩

/-- **The bundle a record names is the one the lookup returns**, if no
two bundle documents of the history collide. -/
theorem bundle_lookup {history : ServiceTrustHistory}
    (hvalid : history.valid P = true)
    (hdigest : Set.InjOn P.sha256 (bundleDocuments P.toLibc history))
    {i : Nat} {bundle : ServiceTrustBundle} (hi : history.bundles[i]? = some bundle) :
    history.bundle P bundle.id = .ok bundle := by
  have hlengths := history_lengths hvalid
  have hentry : ∀ {j : Nat} {b : ServiceTrustBundle},
      history.bundles[j]? = some b →
      b.valid P = true ∧ b.sequence.toNat = j + 1 := by
    intro j b hj
    have hlt : j < history.bundles.length := (List.getElem?_eq_some_iff.mp hj).1
    obtain ⟨b', r, hb', -, hchecked⟩ := history_entry hvalid (hlengths ▸ hlt)
    rw [hj, Option.some.injEq] at hb'
    rw [hb']
    exact ⟨hchecked.valid, hchecked.bundleSequence⟩
  have hmem : bundle ∈ history.bundles := List.mem_of_getElem? hi
  have hid := bundle_valid (hentry hi).1
  cases hfind : history.bundles.find? (fun b => b.id == bundle.id) with
  | none =>
      rw [List.find?_eq_none] at hfind
      exact absurd (beq_self_eq_true bundle.id) (hfind bundle hmem)
  | some found =>
      have hfoundMem := List.mem_of_find?_eq_some hfind
      have hfoundId : found.id = bundle.id := by
        have := List.find?_some hfind
        exact beq_iff_eq.mp this
      obtain ⟨j, hj⟩ := List.getElem?_of_mem hfoundMem
      have hdocument := hdigest ⟨found, hfoundMem, rfl⟩ ⟨bundle, hmem, rfl⟩ (by
        rw [(bundle_valid (hentry hj).1).2, hid.2, hfoundId])
      have hplace : j = i := by
        have := sequence_of_dump_eq hdocument
        rw [(hentry hj).2, (hentry hi).2] at this
        omega
      have hfound : found = bundle := by
        rw [hplace, hi, Option.some.injEq] at hj
        exact hj.symm
      rw [ServiceTrustHistory.bundle, hvalid, hid.1]
      simp only [Bool.not_true, Bool.or_self, Bool.false_eq_true, if_false,
        hfind, hfound]

end

end RbfSafe
