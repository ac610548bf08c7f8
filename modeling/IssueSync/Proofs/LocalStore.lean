import IssueSync.Store.LocalOnly
import IssueSync.Proofs.IdText
import IssueSync.Proofs.Run

/-!
# The local store as a list of findings

The store keeps each local finding as `{id: record}` inside `{"findings": ...}`. Every state the
store itself writes is the image of a `LocalStore`: a list of findings in store order, each
reading back from its record, with no id twice. Each operation of the store is given here by the
`LocalStore` it leaves, so that the service's operations can be followed without opening the
file again.
-/

set_option autoImplicit false

namespace IssueSync

open IssueSync.Store IssueSync.Value

namespace LocalFinding

/-- The record of a resolution, null for none. -/
def resolutionRecord : Option LocalResolution → Value
  | some r => LocalResolution.record r
  | none => .null

/-- The entry the store keeps a finding under: the text of its id, then its record. -/
def entry (f : LocalFinding) : Value × Value := (.str f.id.text, f.record)

/-- A finding whose record reads back as the finding itself. -/
def Faithful (f : LocalFinding) : Prop := ofRecord f.record = .ok f

/-- Whether a finding is stored under a scope. -/
def inScope (f : LocalFinding) (scope : String) : Bool := f.scopeId.equal (.str scope)

theorem record_eq (f : LocalFinding) : f.record = Value.object [("id", .str f.id.text),
    ("scope_id", f.scopeId), ("file_path", f.filePath), ("rule_key", f.ruleKey),
    ("message", f.message), ("line", f.line), ("line_hash", f.lineHash),
    ("resolution", resolutionRecord f.resolution)] := by
  cases f with
  | mk id scopeId filePath ruleKey message line lineHash resolution => cases resolution <;> rfl

@[simp] theorem record_truthy (f : LocalFinding) : f.record.truthy = true := by
  simp [record_eq, Value.object, Value.truthy]

@[simp] theorem getMember_scope (f : LocalFinding) : getMember f.record (.str "scope_id") = .ok f.scopeId := by
  simp [record_eq, Value.object, getMember, Value.hashable, Value.lookup?, Value.equal]

@[simp] theorem getMember_filePath (f : LocalFinding) :
    getMember f.record (.str "file_path") = .ok f.filePath := by
  simp [record_eq, Value.object, getMember, Value.hashable, Value.lookup?, Value.equal]

theorem equal_str_iff (v : Value) (s : String) : v.equal (.str s) = true ↔ v = .str s := by
  cases v <;> simp [Value.equal, Value.isNumber]

theorem inScope_iff (f : LocalFinding) (scope : String) : f.inScope scope = true ↔ f.scopeId = .str scope :=
  equal_str_iff f.scopeId scope

theorem rescoped_self {f : LocalFinding} {scope : String} (ownScope : f.scopeId = .str scope) :
    { f with scopeId := .str scope } = f := by
  rw [← ownScope]

theorem faithful_iff (f : LocalFinding) :
    f.Faithful ↔ resolutionOf (resolutionRecord f.resolution) = .ok f.resolution ∧
      Uuid.ofValue (.str f.id.text) = .ok f.id := by
  have written := record_eq f
  cases f with
  | mk id scopeId filePath ruleKey message line lineHash resolution =>
    cases read : resolutionOf (resolutionRecord resolution) <;>
      cases named : Uuid.ofValue (.str id.text) <;>
      simp [Faithful, ofRecord, written, read, named, Value.object, Value.fieldD, Value.field?,
        Value.lookup?, Value.equal, required, bind, Except.bind, pure, Except.pure, And.comm]

theorem resolutionOf_some (r : LocalResolution) :
    resolutionOf (resolutionRecord (some r)) =
      (Stamp.read r.resolvedAt.text).map fun t => some { r with resolvedAt := t } := by
  obtain ⟨status, resolvedAt, comment⟩ := r
  cases stamp : Stamp.read resolvedAt.text <;> cases status <;>
    simp [resolutionOf, resolutionRecord, LocalResolution.record, stamp, Value.object, Value.truthy,
      Value.fieldD, Value.field?, Value.lookup?, Value.equal, required, statusOf,
      ResolutionStatus.ofName?, ResolutionStatus.all, ResolutionStatus.name, Stamp.ofValue, bind,
      Except.bind, pure, Except.pure, Except.map]

theorem resolution_readable {f : LocalFinding} {r : LocalResolution} (faithful : f.Faithful)
    (resolved : f.resolution = some r) : Stamp.read r.resolvedAt.text = .ok r.resolvedAt := by
  have parts := ((faithful_iff f).mp faithful).1
  rw [resolved, resolutionOf_some] at parts
  cases read : Stamp.read r.resolvedAt.text with
  | error e => simp [read, Except.map] at parts
  | ok t =>
    simp only [read, Except.map, Except.ok.injEq, Option.some.injEq] at parts
    rw [← parts]

theorem clock_readable : Stamp.read resolutionClock.text = .ok resolutionClock :=
  Except.eq_ok_of_toOption (by decide +kernel)

theorem faithful_of_resolution {f g : LocalFinding} (faithful : f.Faithful) (sameId : g.id = f.id)
    (readable : ∀ r, g.resolution = some r → Stamp.read r.resolvedAt.text = .ok r.resolvedAt) :
    g.Faithful := by
  refine (faithful_iff g).mpr ⟨?_, sameId ▸ ((faithful_iff f).mp faithful).2⟩
  cases resolved : g.resolution with
  | none => rfl
  | some r => simp [resolutionOf_some, readable r resolved, Except.map]

theorem Faithful.withScope {f : LocalFinding} (faithful : f.Faithful) (scope : Value) :
    { f with scopeId := scope }.Faithful :=
  faithful_of_resolution faithful rfl fun _ resolved => resolution_readable faithful resolved

theorem Faithful.resolve {f : LocalFinding} (faithful : f.Faithful) (status : ResolutionStatus) :
    (f.resolve status).Faithful := by
  refine faithful_of_resolution faithful rfl ?_
  intro r resolved
  simp only [LocalFinding.resolve, Option.some.injEq] at resolved
  subst resolved
  exact clock_readable

theorem Faithful.comment {f : LocalFinding} {r : LocalResolution} (faithful : f.Faithful)
    (resolved : f.resolution = some r) (text : Value) :
    { f with resolution := some { r with comment := text } }.Faithful := by
  refine faithful_of_resolution faithful rfl ?_
  intro r' same
  simp only [Option.some.injEq] at same
  subst same
  exact resolution_readable (r := r) faithful resolved

theorem anticipatedTransition_scoped (f : LocalFinding) (scope : Value) :
    { f with scopeId := scope }.anticipatedTransition = f.anticipatedTransition := rfl

end LocalFinding

/-- The findings of a local store, in store order: each reads back from its record, and no id
is stored twice. -/
structure LocalStore where
  findings : List LocalFinding
  faithful : ∀ f ∈ findings, f.Faithful
  distinct : (findings.map LocalFinding.id).Nodup

namespace LocalStore

/-- The store with no finding. -/
def empty : LocalStore where
  findings := []
  faithful := fun _ member => nomatch member
  distinct := List.nodup_nil

/-- The findings with `f` in place of the one with its id, or with `f` added last. -/
def upsert (findings : List LocalFinding) (f : LocalFinding) : List LocalFinding :=
  if findings.any (·.id == f.id) then findings.map fun g => if g.id == f.id then f else g
  else findings ++ [f]

theorem upsert_ids (findings : List LocalFinding) (f : LocalFinding)
    (present : findings.any (·.id == f.id) = true) :
    (upsert findings f).map LocalFinding.id = findings.map LocalFinding.id := by
  simp only [upsert, present, if_true, List.map_map]
  apply List.map_congr_left
  intro g _
  by_cases same : g.id = f.id <;> simp [same]

theorem mem_upsert {findings : List LocalFinding} {f g : LocalFinding} (member : g ∈ upsert findings f) :
    g = f ∨ g ∈ findings := by
  unfold upsert at member
  split at member
  · obtain ⟨old, kept, rfl⟩ := List.mem_map.mp member
    by_cases same : old.id = f.id <;> simp [same, kept]
  · rcases List.mem_append.mp member with kept | added
    · exact .inr kept
    · exact .inl (List.mem_singleton.mp added)

/-- The store with `f` in place of the finding with its id, or with `f` added last. -/
def put (st : LocalStore) (f : LocalFinding) (faithful : f.Faithful) : LocalStore where
  findings := upsert st.findings f
  faithful := fun g member => by
    rcases mem_upsert member with rfl | kept
    · exact faithful
    · exact st.faithful g kept
  distinct := by
    by_cases present : st.findings.any (·.id == f.id)
    · rw [upsert_ids _ _ present]
      exact st.distinct
    · have absent : f.id ∉ st.findings.map LocalFinding.id := by
        simpa using present
      simp only [upsert, present, Bool.false_eq_true, if_false, List.map_append, List.map_cons,
        List.map_nil]
      refine List.nodup_append.mpr ⟨st.distinct, by simp, ?_⟩
      intro a member b added same
      rw [List.mem_singleton] at added
      exact absent (added ▸ same ▸ member)

/-- The findings that pass a test, in store order. -/
def keep (st : LocalStore) (p : LocalFinding → Bool) : LocalStore where
  findings := st.findings.filter p
  faithful := fun f member => st.faithful f (List.mem_filter.mp member).1
  distinct := st.distinct.sublist (List.filter_sublist.map _)

/-- The store without the finding of an id. -/
def erase (st : LocalStore) (id : Uuid) : LocalStore := st.keep (·.id != id)

/-- The store without the findings of a scope in one file. -/
def dropFile (st : LocalStore) (scope : String) (path : Value) : LocalStore :=
  st.keep fun f => !(f.inScope scope && f.filePath.equal path)

theorem lookup?_entries (findings : List LocalFinding) (u : Uuid) :
    lookup? (findings.map LocalFinding.entry) (.str u.text) =
      (findings.find? (·.id == u)).map LocalFinding.record := by
  have sameTest : (fun e : Value × Value => e.1.equal (.str u.text)) ∘ LocalFinding.entry =
      fun f => f.id == u := by
    funext f
    simp [LocalFinding.entry, Value.equal, Uuid.text_beq]
  simp only [lookup?, List.find?_map, sameTest, Option.map_map]
  rfl

theorem insertEntry_entries (findings : List LocalFinding) (f : LocalFinding) :
    insertEntry (findings.map LocalFinding.entry) (.str f.id.text) f.record =
      (upsert findings f).map LocalFinding.entry := by
  have sameKey : ∀ g : LocalFinding, (g.entry.1.equal (.str f.id.text)) = (g.id == f.id) := by
    intro g
    simp [LocalFinding.entry, Value.equal, Uuid.text_beq]
  unfold insertEntry upsert
  simp only [List.any_map, Function.comp_def, sameKey]
  split
  · simp only [List.map_map]
    apply List.map_congr_left
    intro g _
    by_cases same : g.id = f.id
    · simp only [Function.comp_apply, sameKey g, same, beq_self_eq_true, if_true]
      simp [LocalFinding.entry, same]
    · have differ : (g.id == f.id) = false := by simpa using same
      simp only [Function.comp_apply, sameKey g, differ, Bool.false_eq_true, if_false]
  · simp [LocalFinding.entry]

theorem filter_entries (findings : List LocalFinding) (u : Uuid) :
    (findings.map LocalFinding.entry).filter (fun e => !e.1.equal (.str u.text)) =
      (findings.filter (·.id != u)).map LocalFinding.entry := by
  rw [List.filter_map]
  congr 1
  apply List.filter_congr
  intro g _
  simp [LocalFinding.entry, Value.equal, Uuid.text_beq, bne]

end LocalStore

namespace LocalOnly

/-- What `records` reads from a storage directory. -/
def recordsIn (fs : Files) : Except Failure Value :=
  (fs.readJson localOnlyPath).map fun doc => match doc.getD (.dict []) with
    | .dict es => (Value.field? es "findings").getD (.dict [])
    | _ => .dict []

/-- The document a store is written as. -/
def document (entries : List (Value × Value)) : Value := Value.object [("findings", .dict entries)]

/-- The storage directory holds exactly the findings of `st` in its local store, and the store's
file can be written. -/
structure Holds (fs : Files) (st : LocalStore) : Prop where
  reads : recordsIn fs = .ok (.dict (st.findings.map LocalFinding.entry))
  writable : fs.Writable localOnlyPath

theorem records_run (h : Host) : records.run h = match recordsIn h.files with
    | .ok v => .ok v h
    | .error f => .error f h := by
  simp only [records, recordsIn, EStateM.run_bind, Run.readJson_run]
  cases h.files.readJson localOnlyPath with
  | error f => rfl
  | ok doc =>
    cases stored : doc.getD (.dict []) <;> simp [Except.map, stored]

theorem holds_records {h : Host} {st : LocalStore} (holds : Holds h.files st) :
    records.run h = .ok (.dict (st.findings.map LocalFinding.entry)) h := by
  rw [records_run, holds.reads]

theorem holds_of_findings {fs : Files} {st st' : LocalStore} (same : st'.findings = st.findings)
    (holds : Holds fs st) : Holds fs st' :=
  ⟨by rw [same]; exact holds.reads, holds.writable⟩

/-- Nothing stands at, inside or above the store's file: the store is empty. -/
theorem holds_of_free {fs : Files} (free : fs.around localOnlyPath = []) : Holds fs LocalStore.empty := by
  refine ⟨?_, Files.writable_of_around_nil free⟩
  simp only [recordsIn, Files.readJson_of_around_nil free, Except.map, Option.getD_none, field?, lookup?,
    List.find?_nil, Option.map_none, LocalStore.empty, List.map_nil]

theorem holds_written {fs : Files} (writable : fs.Writable localOnlyPath) (st : LocalStore) :
    Holds (fs.put localOnlyPath (.document (document (st.findings.map LocalFinding.entry)))) st := by
  refine ⟨?_, Files.writable_put_self writable rfl⟩
  simp [recordsIn, Files.readJson_put_document, document, Value.object, Value.field?,
    Value.lookup?, Value.equal, Except.map]

theorem writeRecords_run {h : Host} {st : LocalStore} (holds : Holds h.files st)
    (entries : List (Value × Value)) :
    (writeRecords (.dict entries)).run h =
      .ok () { h with files := h.files.put localOnlyPath (.document (document entries)) } :=
  Run.writeJson_run _ _ h holds.writable

variable {h : Host} {st : LocalStore}

theorem find_run (holds : Holds h.files st) (u : Uuid) :
    (find u).run h = .ok (st.findings.find? (·.id == u)) h := by
  simp only [find, EStateM.run_bind, holds_records holds, Run.lift_run, getMember, Value.hashable,
    if_true, LocalStore.lookup?_entries]
  cases found : st.findings.find? (·.id == u) with
  | none => rfl
  | some g =>
    have faithful : LocalFinding.ofRecord g.record = .ok g :=
      st.faithful g (List.mem_of_find?_eq_some found)
    simp [faithful]

theorem loadAll_run (holds : Holds h.files st) (scope : String) :
    (loadAll scope).run h = .ok (st.findings.filter (·.inScope scope)) h := by
  have values : valuesOf (.dict (st.findings.map LocalFinding.entry)) =
      .ok (st.findings.map LocalFinding.record) := by
    simp [valuesOf, LocalFinding.entry]
  have chosen : st.findings.filterMap (fun f => if f.inScope scope then some f else none) =
      st.findings.filter (·.inScope scope) := by
    induction st.findings with
    | nil => rfl
    | cons f rest ih => by_cases inside : f.inScope scope <;> simp [inside, ih]
  simp only [loadAll, EStateM.run_bind, holds_records holds, values, Run.lift_ok_run]
  rw [Run.filterMapM_run LocalFinding.record _ (fun f => if f.inScope scope then some f else none) h
    st.findings ?_, chosen]
  intro f member
  have faithful : LocalFinding.ofRecord f.record = .ok f := st.faithful f member
  by_cases inside : f.inScope scope <;>
    simp [LocalFinding.inScope] at inside <;> simp [inside, faithful, LocalFinding.inScope]

theorem loadForPath_run (holds : Holds h.files st) (scope : String) (path : Value) :
    (loadForPath scope path).run h =
      .ok ((st.findings.filter (·.inScope scope)).filter (·.filePath.equal path)) h := by
  simp [loadForPath, loadAll_run holds]

theorem store_run (holds : Holds h.files st) (scope : String) (f : LocalFinding) (faithful : f.Faithful) :
    ∃ fs, (store scope f).run h = .ok () { h with files := fs } ∧
      Holds fs (st.put { f with scopeId := .str scope } (faithful.withScope _)) := by
  have placed : recordIn scope f = { f with scopeId := .str scope }.record := by
    simp [recordIn, LocalFinding.record_eq, Value.object, insertEntry, Value.equal]
  have inserted := LocalStore.insertEntry_entries st.findings { f with scopeId := .str scope }
  refine ⟨_, ?_, holds_written holds.writable _⟩
  simp only [store, EStateM.run_bind, holds_records holds, setItem, placed, Run.lift_ok_run]
  rw [inserted, writeRecords_run holds]
  rfl

theorem removeOne_returns (holds : Holds h.files st) (u : Uuid) :
    ∃ fs, (removeOne u).run h = .ok (st.findings.find? (·.id == u)).isSome { h with files := fs } ∧
      Holds fs (st.erase u) := by
  cases found : st.findings.find? (·.id == u) with
  | none =>
    have untouched : (st.erase u).findings = st.findings := by
      apply List.filter_eq_self.mpr
      intro g member
      have differ := List.find?_eq_none.mp found g member
      simpa using differ
    refine ⟨h.files, ?_, holds_of_findings untouched holds⟩
    simp [removeOne, EStateM.run_bind, holds_records holds, LocalStore.lookup?_entries, found]
  | some g =>
    refine ⟨_, ?_, holds_written holds.writable (st.erase u)⟩
    simp only [removeOne, EStateM.run_bind, holds_records holds, LocalStore.lookup?_entries, found,
      Option.map_some, LocalFinding.record_eq, Value.object, List.map_cons, List.map_nil,
      LocalStore.filter_entries, writeRecords_run holds]
    rfl

theorem removeOne_run (holds : Holds h.files st) (u : Uuid) :
    ∃ removed fs, (removeOne u).run h = .ok removed { h with files := fs } ∧ Holds fs (st.erase u) :=
  ⟨_, removeOne_returns holds u⟩

theorem removeForPath_returns (holds : Holds h.files st) (scope : String) (path : Value) :
    ∃ fs, (removeForPath scope path).run h =
        .ok (st.findings.filter fun f => f.inScope scope && f.filePath.equal path).length { h with files := fs } ∧
      Holds fs (st.dropFile scope path) := by
  have items : itemsOf (.dict (st.findings.map LocalFinding.entry)) =
      .ok (st.findings.map LocalFinding.entry) := rfl
  -- the findings removed and the findings kept split the store
  have split : st.findings.length = (st.findings.filter fun f => f.inScope scope && f.filePath.equal path).length +
      (st.findings.filter fun f => !(f.inScope scope && f.filePath.equal path)).length := by
    rw [List.length_eq_countP_add_countP (fun f => f.inScope scope && f.filePath.equal path),
      List.countP_eq_length_filter, List.countP_eq_length_filter]
    simp
  have count : st.findings.length - (st.dropFile scope path).findings.length =
      (st.findings.filter fun f => f.inScope scope && f.filePath.equal path).length := by
    simp only [LocalStore.dropFile, LocalStore.keep]
    omega
  simp only [removeForPath, EStateM.run_bind, holds_records holds, items, Run.lift_ok_run]
  rw [Run.filterM_run LocalFinding.entry _ (fun f => !(f.inScope scope && f.filePath.equal path)) h
    st.findings ?_]
  · simp only [List.length_map]
    rw [← count]
    by_cases removed : (st.findings.filter fun f => !(f.inScope scope && f.filePath.equal path)).length <
        st.findings.length
    · refine ⟨_, ?_, holds_written holds.writable (st.dropFile scope path)⟩
      rw [if_pos (by omega), EStateM.run_bind, writeRecords_run holds]
      rfl
    · have same : (st.dropFile scope path).findings = st.findings :=
        List.filter_eq_self.mpr (List.length_filter_eq_length_iff.mp (by omega))
      refine ⟨h.files, ?_, holds_of_findings same holds⟩
      rw [if_neg (by omega)]
      rfl
  · intro f _
    by_cases inside : f.inScope scope <;>
      simp [LocalFinding.inScope] at inside <;> simp [LocalFinding.entry, inside, LocalFinding.inScope]

theorem removeForPath_run (holds : Holds h.files st) (scope : String) (path : Value) :
    ∃ removed fs, (removeForPath scope path).run h = .ok removed { h with files := fs } ∧
      Holds fs (st.dropFile scope path) :=
  ⟨_, removeForPath_returns holds scope path⟩

end LocalOnly

end IssueSync
