import IssueSync.Proofs.Coroutine
import IssueSync.Proofs.Service

/-!
# What the cache of server findings answers

`contains` reads one section of a binding's file, and of it only the record under the key. So it
answers alike from two files whose sections give the key the same record, and setting the
resolved flag of a cached issue changes no answer of `contains`, for any file, section or key.
-/

set_option autoImplicit false

namespace IssueSync

open IssueSync.Store IssueSync.Value IssueSync.Remote

namespace Value

theorem lookup?_insertEntry (es : List (Value × Value)) (k k' : String) (v : Value) :
    lookup? (insertEntry es (.str k) v) (.str k') = if k' = k then some v else lookup? es (.str k') := by
  unfold insertEntry lookup?
  split
  · rename_i present
    -- the entries keep their keys, and those equal to `k` take the new value
    rw [List.find?_map]
    have keys : ((fun e : Value × Value => e.1.equal (.str k')) ∘
        fun e : Value × Value => if e.1.equal (.str k) then (e.1, v) else e) = fun e => e.1.equal (.str k') := by
      funext e
      simp only [Function.comp]
      split <;> rfl
    rw [keys]
    by_cases same : k' = k
    · subst same
      obtain ⟨e, member, hit⟩ := List.any_eq_true.mp present
      cases found : List.find? (fun e : Value × Value => e.1.equal (.str k')) es with
      | none => exact absurd hit (by simpa using List.find?_eq_none.mp found e member)
      | some e' =>
        have hit' := List.find?_some found
        simp [hit']
    · cases found : List.find? (fun e : Value × Value => e.1.equal (.str k')) es with
      | none => simp [same]
      | some e' =>
        have found' := List.find?_some found
        have hit' : e'.1 = .str k' := (LocalFinding.equal_str_iff _ _).mp found'
        have miss : e'.1.equal (.str k) = false := by
          rw [hit']
          simpa [Value.equal] using same
        simp [same, miss]
  · rename_i absent
    rw [List.find?_append]
    have none : List.find? (fun e : Value × Value => e.1.equal (.str k)) es = none := by
      apply List.find?_eq_none.mpr
      intro e member
      simpa using List.any_eq_false.mp (Bool.eq_false_iff.mpr absent) e member
    by_cases same : k' = k
    · subst same
      simp [none, Value.equal]
    · have miss : (Value.str k).equal (.str k') = false := by simpa [Value.equal] using Ne.symm same
      simp [same, miss]

theorem field?_insertEntry (es : List (Value × Value)) (k k' : String) (v : Value) :
    field? (insertEntry es (.str k) v) k' = if k' = k then some v else field? es k' :=
  lookup?_insertEntry es k k' v

theorem fieldD_insertEntry (es : List (Value × Value)) (k k' : String) (v : Value) :
    fieldD (insertEntry es (.str k) v) k' = if k' = k then v else fieldD es k' := by
  unfold fieldD
  rw [field?_insertEntry]
  split <;> rfl

end Value

namespace ServerFindings

/-- The entries `document` reads from a file, both sections present. -/
def documentEntries (doc : Option Value) : List (Value × Value) :=
  let es := match doc.getD (.dict []) with
    | .dict es => es
    | _ => []
  let es := if (field? es "issues").isSome then es else es ++ [(.str "issues", .dict [])]
  if (field? es "taint").isSome then es else es ++ [(.str "taint", .dict [])]

theorem document_run (path : String) (h : Host) :
    (document path).run h = match h.files.readJson path with
      | .ok doc => .ok (documentEntries doc) h
      | .error e => .error e h := by
  simp only [document, EStateM.run_bind, Run.readJson_run]
  cases h.files.readJson path <;> rfl

theorem sectionName_injective : Function.Injective sectionName := by
  intro a b same
  cases a <;> cases b <;> simp_all [sectionName]

/-- A document with both sections reads back as it is. -/
theorem documentEntries_dict {es : List (Value × Value)} (issues : (field? es "issues").isSome)
    (taint : (field? es "taint").isSome) : documentEntries (some (.dict es)) = es := by
  simp [documentEntries, issues, taint]

theorem field?_append_isSome (es : List (Value × Value)) (n m : String) (v : Value) :
    (field? (es ++ [(.str n, v)]) m).isSome = ((field? es m).isSome || n == m) := by
  have named : (Value.str n).equal (.str m) = (n == m) := by simp [Value.equal]
  simp only [field?, lookup?, List.find?_append, List.find?_cons, List.find?_nil, named]
  cases (List.find? (fun e : Value × Value => e.1.equal (.str m)) es) with
  | some e => rfl
  | none => cases n == m <;> rfl

/-- Adding a missing section keeps the sections there and has the added one. -/
theorem field?_completed (es : List (Value × Value)) (n m : String) (v : Value)
    (present : (field? es m).isSome ∨ m = n) :
    (field? (if (field? es n).isSome then es else es ++ [(.str n, v)]) m).isSome := by
  by_cases there : (field? es n).isSome
  · rcases present with present | rfl
    · simpa [there] using present
    · simp [there]
  · simp only [there, Bool.false_eq_true, if_false, field?_append_isSome, Bool.or_eq_true, beq_iff_eq]
    rcases present with present | rfl
    · exact .inl present
    · exact .inr rfl

theorem documentEntries_sections (doc : Option Value) (taint : Bool) :
    (field? (documentEntries doc) (sectionName taint)).isSome := by
  unfold documentEntries
  apply field?_completed
  cases taint with
  | true => exact .inr rfl
  | false => exact .inl (field?_completed _ _ _ _ (.inr rfl))

/-- A document rewritten in one section still has both, so it reads back as written. -/
theorem documentEntries_inserted (doc : Option Value) (taint : Bool) (sec : Value) :
    documentEntries (some (.dict (insertEntry (documentEntries doc) (.str (sectionName taint)) sec))) =
      insertEntry (documentEntries doc) (.str (sectionName taint)) sec := by
  apply documentEntries_dict
  · rw [field?_insertEntry]
    split
    · rfl
    · exact documentEntries_sections doc false
  · rw [field?_insertEntry]
    split
    · rfl
    · exact documentEntries_sections doc true

/-- The cache holds a key when the key's section maps it to a record with a rule. -/
theorem contains_true_iff (path key : String) (taint : Bool) (h : Host) :
    resultOutcome ((contains path key taint).run h) = .ok true ↔
      ∃ doc secEs recEs rule, h.files.readJson path = .ok doc ∧
        fieldD (documentEntries doc) (sectionName taint) = .dict secEs ∧
        lookup? secEs (.str key) = some (.dict recEs) ∧ field? recEs "rule_key" = some rule := by
  simp only [contains, get, EStateM.run_bind, document_run]
  cases reading : h.files.readJson path with
  | error e => simp [resultOutcome]
  | ok doc =>
    simp only [Run.lift_run, Except.ok.injEq, exists_and_left, exists_eq_left']
    generalize fieldD (documentEntries doc) (sectionName taint) = sec
    -- only a mapping section, with a mapping record that names a rule, holds the key
    cases sec with
    | dict secEs =>
      simp only [getMember, hashable, if_true, Value.dict.injEq, exists_eq_left']
      cases lookup? secEs (.str key) with
      | none => simp [resultOutcome]
      | some record =>
        cases record with
        | dict recEs =>
          simp only [Option.getD_some, subscript, Option.some.injEq, Value.dict.injEq, exists_eq_left']
          cases field? recEs "rule_key" <;> simp [resultOutcome]
        | null => simp [resultOutcome]
        | _ => simp [resultOutcome, subscript]
    | _ => simp [getMember, resultOutcome]

/-- Two files whose sections give the key the same record answer alike. -/
theorem contains_congr {path key : String} {taint : Bool} {h1 h2 : Host} {d1 d2 : Option Value}
    (read1 : h1.files.readJson path = .ok d1) (read2 : h2.files.readJson path = .ok d2)
    (same : getMember (fieldD (documentEntries d1) (sectionName taint)) (.str key) =
      getMember (fieldD (documentEntries d2) (sectionName taint)) (.str key)) :
    resultOutcome ((contains path key taint).run h1) = resultOutcome ((contains path key taint).run h2) := by
  simp only [contains, get, EStateM.run_bind, document_run, read1, read2, same, Run.lift_run]
  cases getMember (fieldD (documentEntries d2) (sectionName taint)) (.str key) with
  | error e => rfl
  | ok record =>
    by_cases null : record = .null
    · subst null
      rfl
    · simp only []
      cases subscript record "rule_key" with
      | error e => rfl
      | ok rule => cases getMember record (.str "resolved") <;> rfl

theorem contains_of_read {path key : String} {taint : Bool} {h1 h2 : Host}
    (same : h1.files.readJson path = h2.files.readJson path) :
    resultOutcome ((contains path key taint).run h1) = resultOutcome ((contains path key taint).run h2) := by
  cases read2 : h2.files.readJson path with
  | ok doc => exact contains_congr (same.trans read2) read2 rfl
  | error e =>
    simp only [contains, get, EStateM.run_bind, document_run, same, read2]
    rfl

section Flagged

variable {h : Host} {path key : String} {taint : Bool} {doc : Option Value} {secEs recEs : List (Value × Value)}
  {rule : Value}

/-- A section that holds a record for the key was read from a file that is there. -/
theorem present_of_record {r : Value} (read : h.files.readJson path = .ok doc)
    (sec : fieldD (documentEntries doc) (sectionName taint) = .dict secEs)
    (record : lookup? secEs (.str key) = some r) : h.files.holds path = true := by
  cases doc with
  | none =>
    -- a missing file reads as two empty sections
    have empty : secEs = [] := by
      cases taint <;> simpa [documentEntries, fieldD, field?, lookup?, sectionName, Value.equal] using sec.symm
    subst empty
    cases record
  | some v => exact Files.holds_of_readJson_some read

/-- On a cached issue, `updateResolution` writes the document with the record's flag set, when the
file can be written, and otherwise leaves the host as it was. -/
theorem updateResolution_cached (resolved : Bool) (read : h.files.readJson path = .ok doc)
    (sec : fieldD (documentEntries doc) (sectionName taint) = .dict secEs)
    (record : lookup? secEs (.str key) = some (.dict recEs)) :
    resultHost ((updateResolution path key taint resolved).run h) =
      if h.files.Writable path then
        { h with files := h.files.put path (.document (.dict (insertEntry (documentEntries doc)
          (.str (sectionName taint)) (.dict (insertEntry secEs (.str key)
            (.dict (insertEntry recEs (.str "resolved") (.bool resolved)))))))) }
      else h := by
  simp only [updateResolution, EStateM.run_bind, document_run, read, sec, getMember, hashable, if_true, record,
    Option.getD_some, Run.lift_run, setItem]
  by_cases writable : h.files.Writable path
  · rw [if_pos writable]
    simp only [Bool.false_eq_true, if_false, EStateM.run_bind, Run.lift_ok_run, Run.writeJson_run _ _ _ writable]
    cases metaOf key taint (.dict (insertEntry recEs (.str "resolved") (.bool resolved))) resolved <;> rfl
  · rw [if_neg writable]
    obtain ⟨f, failed⟩ := Files.writeJson_of_not_writable writable
      (.dict (insertEntry (documentEntries doc) (.str (sectionName taint)) (.dict (insertEntry secEs (.str key)
        (.dict (insertEntry recEs (.str "resolved") (.bool resolved)))))))
    simp only [Bool.false_eq_true, if_false, EStateM.run_bind, Run.lift_ok_run, Run.writeJson_run_error failed]
    rfl

/-- Setting the resolved flag of a cached issue changes no answer of the cache: the section and
record it rewrites still hold the issue, and every other record is where it was. -/
theorem contains_kept (hit : resultOutcome ((contains path key taint).run h) = .ok true) (resolved : Bool)
    (path' key' : String) (taint' : Bool) :
    resultOutcome ((contains path' key' taint').run (resultHost ((updateResolution path key taint resolved).run h))) =
      resultOutcome ((contains path' key' taint').run h) := by
  obtain ⟨doc, secEs, recEs, rule, read, sec, record, ruled⟩ := (contains_true_iff path key taint h).mp hit
  rw [updateResolution_cached resolved read sec record]
  split
  case isFalse => rfl
  by_cases samePath : path' = path
  · subst samePath
    have read' := Files.readJson_put_document h.files path' (.dict (insertEntry (documentEntries doc)
      (.str (sectionName taint)) (.dict (insertEntry secEs (.str key)
        (.dict (insertEntry recEs (.str "resolved") (.bool resolved)))))))
    by_cases sameSection : taint' = taint
    · subst sameSection
      by_cases sameKey : key' = key
      · subst sameKey
        rw [hit]
        apply (contains_true_iff path' key' taint' _).mpr
        refine ⟨_, insertEntry secEs (.str key') (.dict (insertEntry recEs (.str "resolved") (.bool resolved))),
          insertEntry recEs (.str "resolved") (.bool resolved), rule, read', ?_, ?_, ?_⟩
        · rw [documentEntries_inserted, fieldD_insertEntry, if_pos rfl]
        · rw [lookup?_insertEntry, if_pos rfl]
        · rw [field?_insertEntry, if_neg (by decide)]
          exact ruled
      · refine contains_congr read' read ?_
        rw [documentEntries_inserted, fieldD_insertEntry, if_pos rfl, sec]
        simp only [getMember, hashable, if_true, lookup?_insertEntry, sameKey, if_false]
    · refine contains_congr read' read ?_
      rw [documentEntries_inserted, fieldD_insertEntry, if_neg (sectionName_injective.ne sameSection)]
  · exact contains_of_read (Files.readJson_put_of_holds (present_of_record read sec record) _ samePath)

end Flagged

end ServerFindings

end IssueSync
