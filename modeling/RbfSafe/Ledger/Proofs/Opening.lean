/-
What two opens of growing directories have in common.

A file is decoded to one record, whatever the limits of an open are, and the
chain of `open` numbers the records from zero. So the records of an open are
the first of those of any open of a directory with more files.
-/
import RbfSafe.Ledger.Persistence

namespace RbfSafe

open Json

section
variable {P : Platform} {options options' : ExecutionLedgerLoadOptions}
  {total total' : Nat} {document : Json}

-- === files

theorem decodeCheckpoint_unique {first second : ServiceTrustCheckpoint × Nat}
    (hfirst : decodeCheckpoint P options total document = .ok first)
    (hsecond : decodeCheckpoint P options' total' document = .ok second) :
    first.1 = second.1 := by
  unfold decodeCheckpoint at hfirst hsecond
  split at hfirst
  · rename_i fields values hfields hvalues
    rw [hfields, hvalues] at hsecond
    dsimp only at hsecond
    obtain ⟨-, hfirst⟩ := ite_failure_eq_ok.mp hfirst
    obtain ⟨-, hsecond⟩ := ite_failure_eq_ok.mp hsecond
    obtain ⟨-, hfirst⟩ := ite_failure_eq_ok.mp hfirst
    obtain ⟨-, hsecond⟩ := ite_failure_eq_ok.mp hsecond
    obtain ⟨signatures, hsignatures, hfirst⟩ := bind_eq_ok.mp hfirst
    obtain ⟨others, hothers, hsecond⟩ := bind_eq_ok.mp hsecond
    cases hsignatures.symm.trans hothers
    obtain ⟨-, hfirst⟩ := ite_failure_eq_ok.mp hfirst
    obtain ⟨-, hsecond⟩ := ite_failure_eq_ok.mp hsecond
    cases hfirst
    cases hsecond
    rfl
  · cases hfirst

theorem decodeOptionalCheckpoint_unique {first second : Option ServiceTrustCheckpoint × Nat}
    (hfirst : decodeOptionalCheckpoint P options total document = .ok first)
    (hsecond : decodeOptionalCheckpoint P options' total' document = .ok second) :
    first.1 = second.1 := by
  unfold decodeOptionalCheckpoint at hfirst hsecond
  split at hfirst
  · cases hfirst
    cases hsecond
    rfl
  · rename_i hnull
    split at hsecond
    · exact absurd rfl hnull
    obtain ⟨checkpoint, hcheckpoint, hfirst⟩ := bind_eq_ok.mp hfirst
    obtain ⟨other, hother, hsecond⟩ := bind_eq_ok.mp hsecond
    cases hfirst
    cases hsecond
    exact congrArg some (decodeCheckpoint_unique hcheckpoint hother)

/-- The limits of an open do not change what it decodes. -/
theorem decodeRecord_unique {first second : ExecutionLedgerRecord × Nat}
    (hfirst : decodeRecord P options total document = .ok first)
    (hsecond : decodeRecord P options' total' document = .ok second) :
    first.1 = second.1 := by
  unfold decodeRecord at hfirst hsecond
  cases hheader : recordHeader document with
  | error e =>
      rw [hheader] at hfirst
      cases hfirst
  | ok header =>
      rw [hheader] at hfirst hsecond
      obtain ⟨-, hfirst⟩ := ite_failure_eq_ok.mp hfirst
      obtain ⟨-, hsecond⟩ := ite_failure_eq_ok.mp hsecond
      obtain ⟨authorization, hauthorization, hfirst⟩ := bind_eq_ok.mp hfirst
      obtain ⟨other, hother, hsecond⟩ := bind_eq_ok.mp hsecond
      cases hauthorization.symm.trans hother
      obtain ⟨completion, hcompletion, hfirst⟩ := bind_eq_ok.mp hfirst
      obtain ⟨other, hother, hsecond⟩ := bind_eq_ok.mp hsecond
      cases hcompletion.symm.trans hother
      obtain ⟨checkpoint, hcheckpoint, hfirst⟩ := bind_eq_ok.mp hfirst
      obtain ⟨other, hother, hsecond⟩ := bind_eq_ok.mp hsecond
      have hsame := decodeOptionalCheckpoint_unique hcheckpoint hother
      obtain ⟨revocation, hrevocation, hfirst⟩ := bind_eq_ok.mp hfirst
      obtain ⟨other, hother, hsecond⟩ := bind_eq_ok.mp hsecond
      cases hrevocation.symm.trans hother
      obtain ⟨-, hfirst⟩ := ite_failure_eq_ok.mp hfirst
      obtain ⟨-, hsecond⟩ := ite_failure_eq_ok.mp hsecond
      cases hfirst
      cases hsecond
      rw [hsame]

theorem readBoundedJson_unique {path path' content : Bytes} {most most' : Nat}
    {other : Json}
    (hfirst : readBoundedJson P.toLibc path content most = .ok document)
    (hsecond : readBoundedJson P.toLibc path' content most' = .ok other) :
    document = other := by
  unfold readBoundedJson at hfirst hsecond
  obtain ⟨-, hfirst⟩ := ite_failure_eq_ok.mp hfirst
  obtain ⟨-, hsecond⟩ := ite_failure_eq_ok.mp hsecond
  obtain ⟨-, hfirst⟩ := ite_failure_eq_ok.mp hfirst
  obtain ⟨-, hsecond⟩ := ite_failure_eq_ok.mp hsecond
  cases hparsed : parse P.toLibc content with
  | error e =>
      rw [hparsed] at hfirst
      cases hfirst
  | ok parsed =>
      rw [hparsed] at hfirst hsecond
      cases hfirst
      cases hsecond
      rfl

/-- What an open decodes a file to. -/
def Reads (P : Platform) (file : Bytes × Bytes)
    (decoded : Bytes × ExecutionLedgerRecord) : Prop :=
  decoded.1 = file.1 ∧ ∃ path most options total total' document,
    readBoundedJson P.toLibc path file.2 most = .ok document
      ∧ decodeRecord P options total document = .ok (decoded.2, total')

theorem Reads.unique {file : Bytes × Bytes} {first second : Bytes × ExecutionLedgerRecord}
    (hfirst : Reads P file first) (hsecond : Reads P file second) : first = second := by
  obtain ⟨hname, _, _, _, _, _, document, hread, hdecoded⟩ := hfirst
  obtain ⟨hname', _, _, _, _, _, other, hread', hdecoded'⟩ := hsecond
  obtain rfl := readBoundedJson_unique hread hread'
  exact Prod.ext (hname.trans hname'.symm) (decodeRecord_unique hdecoded hdecoded')

/-- The loop over the listing reads every file of it, and nothing else. -/
theorem reads_of_decodeFiles {path : Bytes} {files : List (Bytes × Bytes)}
    {decoded all : List (Bytes × ExecutionLedgerRecord)}
    (h : decodeFiles P options path total decoded files = .ok all) :
    ∃ read, all = decoded ++ read ∧ read.length = files.length
      ∧ (∀ file ∈ files, ∃ one ∈ read, Reads P file one)
      ∧ ∀ one ∈ read, ∃ file ∈ files, Reads P file one := by
  induction files generalizing total decoded with
  | nil =>
      cases h
      exact ⟨[], by simp, rfl, by simp, by simp⟩
  | cons file rest ih =>
      unfold decodeFiles at h
      obtain ⟨-, h⟩ := ite_failure_eq_ok.mp h
      obtain ⟨document, hread, h⟩ := bind_eq_ok.mp h
      obtain ⟨⟨record, total'⟩, hdecoded, h⟩ := bind_eq_ok.mp h
      obtain ⟨read, hall, hlength, hfiles, hreads⟩ := ih h
      have hone : Reads P file (file.1, record) :=
        ⟨rfl, _, _, _, _, _, document, hread, hdecoded⟩
      refine ⟨(file.1, record) :: read, ?_, congrArg (· + 1) hlength, ?_, ?_⟩
      · rw [hall, List.append_assoc, List.singleton_append]
      · refine List.forall_mem_cons.mpr ⟨⟨_, List.mem_cons_self, hone⟩, fun other hother => ?_⟩
        obtain ⟨one, hmem, hread⟩ := hfiles other hother
        exact ⟨one, List.mem_cons_of_mem _ hmem, hread⟩
      · refine List.forall_mem_cons.mpr ⟨⟨file, List.mem_cons_self, hone⟩, fun other hother => ?_⟩
        obtain ⟨source, hmem, hread⟩ := hreads other hother
        exact ⟨source, List.mem_cons_of_mem _ hmem, hread⟩

/-- The chain of `open` numbers the records. -/
theorem numbered_of_chainFiles {manifest : Manifest} {session : BoundedExecutionSession}
    {index : Nat} {previous : Option ExecutionLedgerRecord}
    {files : List (Bytes × ExecutionLedgerRecord)} {records : List ExecutionLedgerRecord}
    (h : chainFiles manifest session index previous files = .ok records) :
    records = files.map (·.2)
      ∧ ∀ (i : Nat) (record : ExecutionLedgerRecord), records[i]? = some record →
        record.sequence.toNat = index + i := by
  induction files generalizing index previous records with
  | nil =>
      cases h
      exact ⟨rfl, fun i record hi => nomatch hi⟩
  | cons file rest ih =>
      unfold chainFiles at h
      obtain ⟨hchained, h⟩ := ite_failure_eq_ok.mp h
      obtain ⟨after, hafter, h⟩ := bind_eq_ok.mp h
      cases h
      obtain ⟨rfl, hnumbered⟩ := ih hafter
      refine ⟨rfl, fun i record hi => ?_⟩
      cases i with
      | zero =>
          cases hi
          unfold fileChained at hchained
          simp only [Bool.not_eq_true', Bool.not_eq_false, Bool.and_eq_true,
            beq_iff_eq] at hchained
          exact hchained.1.1.1.1
      | succ i =>
          rw [hnumbered i record hi]
          omega

end

-- === opens

section
variable {P : Platform} {path path' : Bytes} {directory later : LedgerDirectory}
  {session session' : BoundedExecutionSession}
  {reviewed reviewed' : ReviewedDeploymentProfile}
  {trustHistory trustHistory' : ServiceTrustHistory} {atlas atlas' : SafeAtlas}
  {options options' : ExecutionLedgerLoadOptions} {ledger first second : ExecutionLedger}

/-- An opened ledger is valid, has a record for every file, and its records
are numbered. -/
structure OpenedFrom (P : Platform) (directory : LedgerDirectory)
    (ledger : ExecutionLedger) : Prop where
  valid : ledger.valid P = true
  length : ledger.records.length = directory.records.length
  mem : ∀ record, record ∈ ledger.records
    ↔ ∃ file ∈ directory.records, ∃ decoded, Reads P file decoded ∧ decoded.2 = record
  numbered : ∀ (i : Nat) (record : ExecutionLedgerRecord),
    ledger.records[i]? = some record → record.sequence.toNat = i

theorem openedFrom_of_openLedger
    (h : ExecutionLedger.openLedger P path directory session reviewed trustHistory atlas
      options = .ok ledger) : OpenedFrom P directory ledger := by
  unfold ExecutionLedger.openLedger at h
  obtain ⟨-, h⟩ := ite_failure_eq_ok.mp h
  obtain ⟨-, h⟩ := ite_failure_eq_ok.mp h
  obtain ⟨manifest, -, h⟩ := bind_eq_ok.mp h
  obtain ⟨decoded, hdecoded, h⟩ := bind_eq_ok.mp h
  obtain ⟨-, h⟩ := ite_failure_eq_ok.mp h
  obtain ⟨records, hrecords, h⟩ := bind_eq_ok.mp h
  obtain ⟨hvalid, h⟩ := ite_failure_eq_ok.mp h
  obtain ⟨-, -, h⟩ := bind_eq_ok.mp h
  cases h
  obtain ⟨read, hall, hlength, hfiles, hreads⟩ := reads_of_decodeFiles hdecoded
  obtain ⟨rfl, hnumbered⟩ := numbered_of_chainFiles hrecords
  rw [List.nil_append] at hall
  subst hall
  refine ⟨by simpa using hvalid, by simpa using hlength, fun record => ?_,
    fun i record hi => ?_⟩
  · simp only [List.mem_map, (List.mergeSort_perm decoded _).mem_iff]
    constructor
    · rintro ⟨one, hone, rfl⟩
      obtain ⟨file, hfile, hread⟩ := hreads one hone
      exact ⟨file, hfile, one, hread, rfl⟩
    · rintro ⟨file, hfile, one, hread, rfl⟩
      obtain ⟨other, hother, hread'⟩ := hfiles file hfile
      exact ⟨other, hother, by rw [hread.unique hread']⟩
  · rw [hnumbered i record hi, Nat.zero_add]

/-- **Records are only added**: what was opened is what an open of more files
begins with. -/
theorem OpenedFrom.prefix_of_subset (hfirst : OpenedFrom P directory first)
    (hsecond : OpenedFrom P later second)
    (hfiles : ∀ file ∈ directory.records, file ∈ later.records) :
    first.records <+: second.records := by
  rw [List.prefix_iff_getElem?]
  intro i hi
  have hmem : first.records[i] ∈ second.records := by
    obtain ⟨file, hfile, hdecoded⟩ := (hfirst.mem _).mp (List.getElem_mem hi)
    exact (hsecond.mem _).mpr ⟨file, hfiles file hfile, hdecoded⟩
  obtain ⟨j, hj⟩ := List.mem_iff_getElem?.mp hmem
  have hsequence := hfirst.numbered i _ (List.getElem?_eq_getElem hi)
  rw [hsecond.numbered j _ hj] at hsequence
  rwa [hsequence] at hj

end

end RbfSafe
