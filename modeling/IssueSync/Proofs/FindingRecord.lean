import IssueSync.Proofs.StoreHistory
/-!
# A local finding read back from its record

A finding's record keeps every field as the finding holds it, except the moment of the resolution,
which it keeps as text. Reading the record back therefore changes nothing but that moment, which is
read from its text. A moment in range whose offset is UTC or at least a second comes back as it
was, so a finding resolved at such a moment comes back whole, and so does every finding read from
a record: writing and reading again settles at the first reading. An offset of a fraction of a
second alone is written in full but read back as UTC.
-/

set_option autoImplicit false

namespace IssueSync

namespace LocalFinding

open IssueSync.Value

/-- Reading a finding's record gives the finding with its resolution read back from its record. -/
theorem ofRecord_record (f : LocalFinding) :
    ofRecord f.record =
      (resolutionOf (resolutionRecord f.resolution)).map fun resolution => { f with resolution } := by
  have written := record_eq f
  cases f with
  | mk id scopeId filePath ruleKey message line lineHash resolution =>
    cases read : resolutionOf (resolutionRecord resolution) <;>
      simp [ofRecord, written, read, Uuid.ofValue_text, Value.object, Value.fieldD, Value.field?,
        Value.lookup?, Value.equal, required, bind, Except.bind, pure, Except.pure, Except.map]

/-- A finding resolved at a moment in range comes back whole from its record, with the same
announcement to the server; a finding read from any record comes back whole from its own. -/
theorem record_round_trip :
    (∀ f : LocalFinding, f.Valid →
      ofRecord f.record = .ok f ∧
        (ofRecord f.record).bind anticipatedTransition = f.anticipatedTransition) ∧
    (∀ (d : Value) (f : LocalFinding), ofRecord d = .ok f → ofRecord f.record = .ok f) := by
  refine ⟨fun f valid => ?_, fun d f read => faithful_of_valid (valid_of_ofRecord read)⟩
  have back : ofRecord f.record = .ok f := faithful_of_valid valid
  exact ⟨back, by rw [back]; rfl⟩

/-- A finding resolved by the program, with the program's clock, reads back from its record. -/
theorem resolved_finding_reads_back :
    (appFinding.resolve .falsePositive).Valid ∧
      ofRecord (appFinding.resolve .falsePositive).record = .ok (appFinding.resolve .falsePositive) :=
  ⟨valid_resolve appFinding .falsePositive,
    (record_round_trip.1 _ (valid_resolve appFinding .falsePositive)).1⟩

/-- A resolution one microsecond east of UTC is written with that offset but read back at UTC. -/
theorem microsecond_offset_read_as_utc (f : LocalFinding) (status : ResolutionStatus) (comment : Value) :
    ofRecord
        { f with
          resolution := some
            { status, comment,
              resolvedAt := { year := 2024, month := 1, day := 1, offset := some 1 } } }.record =
      .ok
        { f with
          resolution := some
            { status, comment,
              resolvedAt := { year := 2024, month := 1, day := 1, offset := some 0 } } } := by
  have utc : Stamp.read ({ year := 2024, month := 1, day := 1, offset := some 1 } : Stamp).text =
      .ok { year := 2024, month := 1, day := 1, offset := some 0 } :=
    Except.eq_ok_of_toOption (by decide +kernel)
  simp [ofRecord_record, resolutionOf_some, utc, Except.map]

/-- The finding `appFinding`, resolved one microsecond east of UTC, comes back from its record
resolved at UTC. -/
theorem microsecond_offset_reads_back_as_utc :
    ofRecord
        { appFinding with
          resolution := some
            { status := .falsePositive, comment := .str "",
              resolvedAt := { year := 2024, month := 1, day := 1, offset := some 1 } } }.record =
      .ok
        { appFinding with
          resolution := some
            { status := .falsePositive, comment := .str "",
              resolvedAt := { year := 2024, month := 1, day := 1, offset := some 0 } } } :=
  microsecond_offset_read_as_utc appFinding .falsePositive (.str "")

end LocalFinding

end IssueSync
