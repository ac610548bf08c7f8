import IssueSync.Proofs.Ingest
import IssueSync.Proofs.StampText

/-!
# Histories of the local store

Whatever findings are stored, stored in batches or removed, one by one or a file at a time,
starting with nothing at, inside or above the store file, that file holds one record per id under
the text of that id, each record reads back as the finding stored, and the finding read under an
id is the one last stored under it, with the scope it was stored for. Findings need only be dated
in range: their resolution moments are real moments, with an offset from UTC of less than a day
and, unless UTC, of at least a second. Every finding read from a record is, and so is every
finding the service resolves.
-/

set_option autoImplicit false

namespace IssueSync

open IssueSync.Store IssueSync.Value

namespace LocalFinding

/-- A finding whose resolution, if it has one, was made at a moment in range. -/
def Valid (f : LocalFinding) : Prop := ∀ r, f.resolution = some r → r.resolvedAt.Valid

theorem faithful_of_valid {f : LocalFinding} (valid : f.Valid) : f.Faithful := by
  refine (faithful_iff f).mpr ⟨?_, Uuid.ofValue_text f.id⟩
  cases resolved : f.resolution with
  | none => rfl
  | some r => simp [resolutionOf_some, Stamp.read_text _ (valid r resolved), Except.map]

theorem valid_of_resolutionOf {raw : Value} {resolution : Option LocalResolution}
    (read : resolutionOf raw = .ok resolution) : ∀ r, resolution = some r → r.resolvedAt.Valid := by
  intro r present
  subst present
  simp only [resolutionOf] at read
  split at read
  · cases read
  -- the moment is the one read from the record's text
  simp only [bind, Except.bind, pure, Except.pure] at read
  split at read
  · cases read
  split at read
  · cases read
  split at read
  · cases read
  split at read
  · cases read
  rename_i value _ _ moment readMoment
  simp only [Except.ok.injEq, Option.some.injEq] at read
  rw [← read]
  -- only text is read as a moment
  cases value with
  | str s => exact Stamp.valid_of_read readMoment
  | _ => cases readMoment

/-- Every finding read from a record is dated in range. -/
theorem valid_of_ofRecord {data : Value} {f : LocalFinding} (read : ofRecord data = .ok f) : f.Valid := by
  cases data with
  | dict es =>
    simp only [ofRecord, bind, Except.bind, pure, Except.pure] at read
    split at read
    · cases read
    rename_i resolution readResolution
    -- the other fields are read after the resolution and kept as they are
    split at read
    · cases read
    split at read
    · cases read
    split at read
    · cases read
    split at read
    · cases read
    split at read
    · cases read
    simp only [Except.ok.injEq] at read
    rw [← read]
    exact valid_of_resolutionOf readResolution
  | _ => cases read

theorem resolutionClock_valid : resolutionClock.Valid where
  year := by decide
  month := by decide
  day := by decide
  hour := by decide
  minute := by decide
  second := by decide
  microsecond := by decide
  offset := by
    intro o clock
    cases Option.some.inj clock
    exact ⟨by decide, .inl rfl⟩

theorem valid_of_unresolved {f : LocalFinding} (unresolved : f.resolution = none) : f.Valid := by
  intro r resolved
  rw [unresolved] at resolved
  cases resolved

theorem valid_resolve (f : LocalFinding) (status : ResolutionStatus) : (f.resolve status).Valid := by
  intro r resolved
  cases Option.some.inj resolved
  exact resolutionClock_valid

end LocalFinding

/-- A call that changes the store of local findings. -/
inductive StoreCall where
  | store (scope : String) (f : LocalFinding)
  | storeAll (scope : String) (batch : List LocalFinding)
  | removeOne (id : Uuid)
  | removeForPath (scope : String) (path : Value)

namespace StoreCall

def run : StoreCall → Run Unit
  | .store scope f => LocalOnly.store scope f
  | .storeAll scope batch => discard (LocalOnly.storeAll scope batch)
  | .removeOne id => discard (LocalOnly.removeOne id)
  | .removeForPath scope path => discard (LocalOnly.removeForPath scope path)

def Valid : StoreCall → Prop
  | .store _ f => f.Valid
  | .storeAll _ batch => ∀ f ∈ batch, f.Valid
  | .removeOne _ | .removeForPath _ _ => True

end StoreCall

def performCalls (calls : List StoreCall) : Run Unit := calls.forM StoreCall.run

/-- The finding last stored under each id. -/
abbrev StoredTable := Uuid → Option LocalFinding

namespace StoredTable

def empty : StoredTable := fun _ => none

def put (t : StoredTable) (f : LocalFinding) : StoredTable := fun u => if f.id = u then some f else t u

/-- What storing `f` in a batch under a scope keeps when `stored` was last stored under its id:
`f` under the scope, with the stored resolution when `f` has none and the stored finding is of
the same scope. -/
def kept (stored : Option LocalFinding) (scope : String) (f : LocalFinding) : LocalFinding :=
  match stored with
  | some g =>
    if f.resolution.isNone && g.inScope scope then { f with scopeId := .str scope, resolution := g.resolution }
    else { f with scopeId := .str scope }
  | none => { f with scopeId := .str scope }

def apply (t : StoredTable) : StoreCall → StoredTable
  | .store scope f => t.put { f with scopeId := .str scope }
  | .storeAll scope batch => batch.foldl (fun t f => t.put (kept (t f.id) scope f)) t
  | .removeOne id => fun u => if id = u then none else t u
  | .removeForPath scope path => fun u => (t u).filter fun g => !(g.inScope scope && g.filePath.equal path)

/-- What a history of calls leaves under each id. -/
def replay (calls : List StoreCall) : StoredTable := calls.foldl apply empty

theorem kept_id (stored : Option LocalFinding) (scope : String) (f : LocalFinding) :
    (kept stored scope f).id = f.id := by
  unfold kept
  split
  · split <;> rfl
  · rfl

end StoredTable

namespace LocalStore

def Agrees (st : LocalStore) (t : StoredTable) : Prop := ∀ u, st.findings.find? (·.id == u) = t u

theorem recorded_eq_kept (findings : List LocalFinding) (scope : String) (f : LocalFinding) :
    recorded findings scope f = StoredTable.kept (findings.find? (·.id == f.id)) scope f := rfl

theorem upsert_agrees {findings : List LocalFinding} {t : StoredTable}
    (agrees : ∀ u, findings.find? (·.id == u) = t u) (f : LocalFinding) (u : Uuid) :
    (upsert findings f).find? (·.id == u) = t.put f u := by
  rw [find?_upsert, agrees]
  rfl

theorem foldl_recordStep_agrees (scope : String) (batch : List LocalFinding) :
    ∀ (acc : List LocalFinding × List LocalFinding) (t : StoredTable),
      (∀ u, acc.1.find? (·.id == u) = t u) → ∀ u,
        (batch.foldl (recordStep scope) acc).1.find? (·.id == u) =
          batch.foldl (fun t f => t.put (StoredTable.kept (t f.id) scope f)) t u := by
  induction batch with
  | nil => exact fun _ _ agrees => agrees
  | cons f rest ih =>
    intro acc t agrees
    apply ih
    intro u
    -- the finding recorded is the one the table keeps, since both look up the same stored finding
    simp only [recordStep, recorded_eq_kept, agrees f.id]
    exact upsert_agrees agrees _ u

theorem find?_erase (findings : List LocalFinding) (v u : Uuid) :
    (findings.filter (·.id != v)).find? (·.id == u) = if v = u then none else findings.find? (·.id == u) := by
  rw [List.find?_filter]
  by_cases same : v = u
  · subst same
    simp
  · rw [if_neg same]
    congr 1
    funext g
    by_cases hit : g.id = u
    · simp [hit, Ne.symm same]
    · simp [hit]

-- Dropping findings by a test drops the finding of an id exactly when it fails the test, since
-- no other finding has its id.
theorem find?_filter_of_nodup {findings : List LocalFinding} (distinct : (findings.map (·.id)).Nodup)
    (keep : LocalFinding → Bool) (u : Uuid) :
    (findings.filter keep).find? (·.id == u) = (findings.find? (·.id == u)).filter keep := by
  induction findings with
  | nil => rfl
  | cons g rest ih =>
    rw [List.map_cons, List.nodup_cons] at distinct
    obtain ⟨fresh, distinct⟩ := distinct
    by_cases hit : g.id = u
    · have absent : rest.find? (·.id == u) = none := by
        rw [List.find?_eq_none]
        intro g' member same
        exact fresh (List.mem_map.mpr ⟨g', member, by simpa [hit] using same⟩)
      by_cases kept : keep g = true
      · simp [kept, hit, Option.filter_some]
      · simp [kept, hit, ih distinct, absent, Option.filter_some]
    · by_cases kept : keep g = true <;> simp [kept, hit, ih distinct]

end LocalStore

namespace StoreCall

variable {h : Host} {st : LocalStore} {t : StoredTable}

-- A call completes, keeps the file a store and keeps the store agreeing with the table.
theorem run_keeps (c : StoreCall) (valid : c.Valid) (holds : LocalOnly.Holds h.files st) (agrees : st.Agrees t) :
    ∃ fs st', c.run.run h = .ok () { h with files := fs } ∧ LocalOnly.Holds fs st' ∧ st'.Agrees (t.apply c) := by
  cases c with
  | store scope f =>
    obtain ⟨fs, ran, holdsAfter⟩ := LocalOnly.store_run holds scope f (LocalFinding.faithful_of_valid valid)
    exact ⟨fs, _, ran, holdsAfter, LocalStore.upsert_agrees agrees _⟩
  | storeAll scope batch =>
    obtain ⟨fs, st', ran, holdsAfter, recordedAll⟩ :=
      LocalOnly.storeAll_run holds scope batch fun f member => LocalFinding.faithful_of_valid (valid f member)
    refine ⟨fs, st', by simp [run, ran], holdsAfter, fun u => ?_⟩
    rw [recordedAll, LocalStore.recordAll]
    exact LocalStore.foldl_recordStep_agrees scope batch (st.findings, []) t agrees u
  | removeOne id =>
    obtain ⟨fs, ran, holdsAfter⟩ := LocalOnly.removeOne_returns holds id
    refine ⟨fs, _, by simp [run, ran], holdsAfter, fun u => ?_⟩
    rw [LocalStore.erase, LocalStore.keep, LocalStore.find?_erase, agrees]
    rfl
  | removeForPath scope path =>
    obtain ⟨fs, ran, holdsAfter⟩ := LocalOnly.removeForPath_returns holds scope path
    refine ⟨fs, _, by simp [run, ran], holdsAfter, fun u => ?_⟩
    rw [LocalStore.dropFile, LocalStore.keep, LocalStore.find?_filter_of_nodup st.distinct, agrees]
    rfl

end StoreCall

theorem performCalls_run (calls : List StoreCall) (valid : ∀ c ∈ calls, c.Valid) {h : Host} {st : LocalStore}
    {t : StoredTable} (holds : LocalOnly.Holds h.files st) (agrees : st.Agrees t) :
    ∃ fs st', (performCalls calls).run h = .ok () { h with files := fs } ∧ LocalOnly.Holds fs st' ∧
      st'.Agrees (calls.foldl StoredTable.apply t) := by
  -- the history is made from its first call on, each call from the host the one before left
  induction calls generalizing h st t with
  | nil => exact ⟨h.files, st, rfl, holds, agrees⟩
  | cons c rest ih =>
    obtain ⟨fs, st', ran, holdsAfter, agreesAfter⟩ := c.run_keeps (valid c List.mem_cons_self) holds agrees
    obtain ⟨fs', st'', ranRest, holdsLast, agreesLast⟩ :=
      ih (fun c' member => valid c' (List.mem_cons_of_mem c member)) (h := { h with files := fs }) holdsAfter agreesAfter
    refine ⟨fs', st'', ?_, holdsLast, agreesLast⟩
    show (c.run >>= fun _ => performCalls rest).run h = _
    rw [EStateM.run_bind, ran]
    exact ranRest

/-- Storing a finding, recording it resolved, recording it again unresolved under the same scope,
and removing a file of another scope. -/
def relabelHistory : List StoreCall :=
  [.store "backend" libFinding, .storeAll "backend" [libFinding.resolve .falsePositive],
    .storeAll "backend" [libFinding], .removeForPath "api" (.str "src/lib.py")]

end IssueSync
