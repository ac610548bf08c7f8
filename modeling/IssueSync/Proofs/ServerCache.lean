import IssueSync.Proofs.Telemetry

/-!
# What the cache of server findings answers

Replacing a binding's cache writes one record per key and section, the last issue given for them
winning, so a lookup finds the last issue with its key in its section and nothing else. Setting the
flag of a cached issue rewrites that one record and leaves every other answer, in both sections,
as it was; for a key the section does not hold it writes nothing. A change of status or a reopening
on a served scope reads the cache of the scope's binding in the section it names, and once it
completes, that issue's flag is set, and only that one.
-/

set_option autoImplicit false

namespace IssueSync

open IssueSync.Store IssueSync.Value IssueSync.Remote

namespace ServerFindings

/-! ## Reading -/

/-- The issue a section's record gives a key: none when there is no record. -/
def recordMeta (key : String) (taint : Bool) (record : Value) : Except Failure (Option FindingMeta) :=
  if record matches .null then .ok none
  else do
    let ruleKey ← subscript record "rule_key"
    let resolved ← getMember record (.str "resolved")
    return some { key, ruleKey, resolved := resolved.truthy, taint }

/-- What `get` answers from the stored files. -/
def lookupIn (fs : Files) (path key : String) (taint : Bool) : Except Failure (Option FindingMeta) := do
  let doc ← fs.readJson path
  recordMeta key taint (← getMember (fieldD (documentEntries doc) (sectionName taint)) (.str key))

theorem get_run (path key : String) (taint : Bool) (h : Host) :
    (get path key taint).run h = match lookupIn h.files path key taint with
      | .ok a => .ok a h
      | .error f => .error f h := by
  simp only [get, EStateM.run_bind, document_run, lookupIn]
  cases h.files.readJson path with
  | error f => rfl
  | ok doc =>
    simp only [Run.lift_run, bind, Except.bind]
    cases getMember (fieldD (documentEntries doc) (sectionName taint)) (.str key) with
    | error f => rfl
    | ok record =>
      -- only a dictionary record gets past the first field
      cases record with
      | dict es =>
        simp only [recordMeta, subscript]
        cases field? es "rule_key" <;> rfl
      | _ => rfl

theorem recordMeta_eq_none {key : String} {taint : Bool} {record : Value}
    (absent : recordMeta key taint record = .ok none) : record = .null := by
  cases record with
  | null => rfl
  | dict es =>
    revert absent
    simp only [recordMeta, subscript]
    cases field? es "rule_key" <;> simp [getMember, hashable, bind, Except.bind, pure, Except.pure]
  | _ => simp [recordMeta, subscript, bind, Except.bind] at absent

/-- Every lookup of the cache file at `path` answers as `look`, and the file can be written. -/
structure Answers (fs : Files) (path : String) (look : String → Bool → Option FindingMeta) : Prop where
  lookups : ∀ (h : Host) key taint, h.files = fs → (get path key taint).run h = .ok (look key taint) h
  writable : fs.Writable path

theorem answers_of_lookupIn {fs : Files} {path : String} {look : String → Bool → Option FindingMeta}
    (read : ∀ key taint, lookupIn fs path key taint = .ok (look key taint)) (writable : fs.Writable path) :
    Answers fs path look := by
  refine ⟨fun h key taint files => ?_, writable⟩
  rw [get_run, files, read]

theorem lookupIn_of_answers {fs : Files} {path : String} {look : String → Bool → Option FindingMeta}
    (answers : Answers fs path look) (key : String) (taint : Bool) :
    lookupIn fs path key taint = .ok (look key taint) := by
  have ran := answers.lookups { files := fs } key taint rfl
  rw [get_run] at ran
  revert ran
  cases lookupIn fs path key taint <;> simp

/-! ## Replacing -/

/-- The record the cache keeps for an issue. -/
def recordOf (m : FindingMeta) : Value := Value.object [("rule_key", m.ruleKey), ("resolved", .bool m.resolved)]

/-- A section holding the given issues, one record per key: the first issue with a key places it,
the last gives its record. -/
def sectionOf (metas : List FindingMeta) : List (Value × Value) :=
  metas.foldl (fun acc m => insertEntry acc (.str m.key) (recordOf m)) []

/-- The document replacing the cache by the given issues writes. -/
def cacheDocument (metas : List FindingMeta) : Value :=
  Value.object [("issues", .dict (sectionOf (metas.filter (!·.taint)))),
    ("taint", .dict (sectionOf (metas.filter (·.taint))))]

/-- The last issue given with a key in a section. -/
def lastMeta (metas : List FindingMeta) (key : String) (taint : Bool) : Option FindingMeta :=
  (metas.filter fun m => m.key == key && m.taint == taint).getLast?

theorem lastMeta_eq_none_iff (metas : List FindingMeta) (key : String) (taint : Bool) :
    lastMeta metas key taint = none ↔ ∀ m ∈ metas, ¬(m.key = key ∧ m.taint = taint) := by
  simp [lastMeta]

/-- The issue a section keeps for a key is one given with that key and section, after which no
other is. -/
theorem lastMeta_eq_some_iff (metas : List FindingMeta) (key : String) (taint : Bool) (m : FindingMeta) :
    lastMeta metas key taint = some m ↔ ∃ pre post, metas = pre ++ m :: post ∧ (m.key = key ∧ m.taint = taint) ∧
      ∀ m' ∈ post, ¬(m'.key = key ∧ m'.taint = taint) := by
  constructor
  · intro last
    obtain ⟨ys, split⟩ := List.getLast?_eq_some_iff.mp last
    obtain ⟨front, back, rfl, -, single⟩ := List.filter_eq_append_iff.mp split
    obtain ⟨before, after, rfl, -, chosen, rest⟩ := List.filter_eq_cons_iff.mp single
    refine ⟨front ++ before, after, by simp, by simpa using chosen, fun m' later => ?_⟩
    simpa using List.filter_eq_nil_iff.mp rest m' later
  · rintro ⟨pre, post, rfl, chosen, later⟩
    have none_after : post.filter (fun m => m.key == key && m.taint == taint) = [] :=
      List.filter_eq_nil_iff.mpr (by simpa using later)
    simp [lastMeta, List.filter_append, chosen, none_after]

theorem replaceAll_run (path : String) (metas : List FindingMeta) (h : Host)
    (writable : h.files.Writable path) :
    (replaceAll path metas).run h = .ok () { h with files := h.files.put path (.document (cacheDocument metas)) } :=
  Run.writeJson_run _ _ h writable

theorem lookup?_foldl_insert (metas : List FindingMeta) (acc : List (Value × Value)) (key : String) :
    lookup? (metas.foldl (fun acc m => insertEntry acc (.str m.key) (recordOf m)) acc) (.str key) =
      ((metas.filter (·.key == key)).getLast?.map recordOf).or (lookup? acc (.str key)) := by
  induction metas generalizing acc with
  | nil => simp
  | cons m rest ih =>
    rw [List.foldl_cons, ih, lookup?_insertEntry]
    by_cases same : m.key = key
    · -- this issue is in the filter, behind the later ones with the key
      have kept : (m :: rest).filter (·.key == key) = m :: rest.filter (·.key == key) := by simp [same]
      rw [kept, List.getLast?_cons]
      cases (rest.filter (·.key == key)).getLast? <;> simp [same]
    · have skipped : (m :: rest).filter (·.key == key) = rest.filter (·.key == key) := by simp [same]
      rw [skipped, if_neg (Ne.symm same)]

theorem lookup?_sectionOf (metas : List FindingMeta) (key : String) :
    lookup? (sectionOf metas) (.str key) = (metas.filter (·.key == key)).getLast?.map recordOf := by
  rw [sectionOf, lookup?_foldl_insert]
  cases (metas.filter (·.key == key)).getLast? <;> rfl

theorem fieldD_cacheDocument (metas : List FindingMeta) (taint : Bool) :
    fieldD (documentEntries (some (cacheDocument metas))) (sectionName taint) =
      .dict (sectionOf (metas.filter (·.taint == taint))) := by
  cases taint <;> simp [cacheDocument, documentEntries, Value.object, sectionName, fieldD, field?, lookup?,
    Value.equal]

theorem recordMeta_recordOf (key : String) (taint : Bool) (m : FindingMeta) :
    recordMeta key taint (recordOf m) = .ok (some { key, ruleKey := m.ruleKey, resolved := m.resolved, taint }) := by
  cases resolved : m.resolved <;>
    simp [recordMeta, recordOf, Value.object, subscript, getMember, field?, lookup?, Value.equal, hashable,
      Value.truthy, resolved, bind, Except.bind, pure, Except.pure]

theorem lookupIn_replaced {fs : Files} {path : String} {metas : List FindingMeta}
    (read : fs.readJson path = .ok (some (cacheDocument metas))) (key : String) (taint : Bool) :
    lookupIn fs path key taint = .ok (lastMeta metas key taint) := by
  have chosen : (metas.filter (·.taint == taint)).filter (·.key == key) =
      metas.filter fun m => m.key == key && m.taint == taint := by
    rw [List.filter_filter]
  simp only [lookupIn, read, fieldD_cacheDocument, getMember, hashable, if_true, lookup?_sectionOf, chosen,
    lastMeta, bind, Except.bind]
  cases last : (metas.filter fun m => m.key == key && m.taint == taint).getLast? with
  | none => rfl
  | some m =>
    -- the last issue with the key in the section is the one the record gives back
    obtain ⟨sameKey, sameTaint⟩ : m.key = key ∧ m.taint = taint := by
      have member := List.mem_of_getLast? last
      simpa using (List.mem_filter.mp member).2
    simp only [Option.map_some, Option.getD_some, recordMeta_recordOf]
    subst sameKey sameTaint
    rfl

/-- Replacing the cache of a path that can be written completes, and every lookup then finds the
last issue given with its key in its section, and nothing for a key no issue in the section has. -/
theorem replaceAll_answers (path : String) (metas : List FindingMeta) (h : Host)
    (writable : h.files.Writable path) :
    ∃ fs, (replaceAll path metas).run h = .ok () { h with files := fs } ∧ Answers fs path (lastMeta metas) ∧
      ∀ other, other ≠ path → fs.get? other = h.files.get? other :=
  ⟨_, replaceAll_run path metas h writable,
    answers_of_lookupIn (lookupIn_replaced (Files.readJson_put_document _ _ _)) (Files.writable_put_self writable rfl),
    fun _ apart => Files.get?_put_of_ne _ _ apart⟩

/-! ## Setting a flag -/

/-- The answers with the flag of one key in one section set, when that key is cached there. -/
def flagged (look : String → Bool → Option FindingMeta) (key : String) (taint resolved : Bool) :
    String → Bool → Option FindingMeta :=
  fun k t => if k = key ∧ t = taint then (look k t).map (·.withResolution resolved) else look k t

theorem lookupIn_none {fs : Files} {path key : String} {taint : Bool}
    (absent : lookupIn fs path key taint = .ok none) :
    ∃ doc, fs.readJson path = .ok doc ∧
      getMember (fieldD (documentEntries doc) (sectionName taint)) (.str key) = .ok .null := by
  unfold lookupIn at absent
  cases read : fs.readJson path with
  | error f => simp [read, bind, Except.bind] at absent
  | ok doc =>
    refine ⟨doc, rfl, ?_⟩
    simp only [read, bind, Except.bind] at absent
    revert absent
    cases getMember (fieldD (documentEntries doc) (sectionName taint)) (.str key) with
    | error f => simp
    | ok record => exact fun absent => congrArg Except.ok (recordMeta_eq_none absent)

theorem lookupIn_some {fs : Files} {path key : String} {taint : Bool} {m : FindingMeta}
    (present : lookupIn fs path key taint = .ok (some m)) :
    cachedRule fs path key taint = some m.ruleKey ∧ m.key = key ∧ m.taint = taint := by
  unfold lookupIn at present
  cases read : fs.readJson path with
  | error f => simp [read, bind, Except.bind] at present
  | ok doc =>
    simp only [read, bind, Except.bind] at present
    simp only [cachedRule, read]
    generalize fieldD (documentEntries doc) (sectionName taint) = sec at present ⊢
    cases sec with
    | dict secEs =>
      simp only [getMember, hashable, if_true] at present
      cases found : lookup? secEs (.str key) with
      | none => simp [found, recordMeta] at present
      | some record =>
        simp only [found, Option.getD_some] at present
        cases record with
        | dict recEs =>
          simp only [recordMeta, Bool.false_eq_true, if_false, subscript, bind, Except.bind] at present
          cases ruled : field? recEs "rule_key" with
          | none => simp [ruled] at present
          | some rule =>
            simp only [ruled, getMember, hashable, if_true, pure, Except.pure, Except.ok.injEq,
              Option.some.injEq] at present
            subst present
            simp [found, ruled]
        | null => simp [recordMeta] at present
        | _ => simp [recordMeta, subscript, bind, Except.bind] at present
    | _ => simp [getMember] at present

/-- Setting the flag of a key its section does not hold answers none and changes nothing. -/
theorem updateResolution_absent {h : Host} {path key : String} {taint : Bool}
    (absent : lookupIn h.files path key taint = .ok none) (resolved : Bool) :
    (updateResolution path key taint resolved).run h = .ok none h := by
  obtain ⟨doc, read, null⟩ := lookupIn_none absent
  simp only [updateResolution, EStateM.run_bind, document_run, read, Run.lift_run, null]
  rfl

theorem lookupIn_rewritten {fs : Files} {path key : String} {taint resolved : Bool} {doc : Option Value}
    {secEs recEs : List (Value × Value)} (read : fs.readJson path = .ok doc)
    (sec : fieldD (documentEntries doc) (sectionName taint) = .dict secEs) (key' : String) (taint' : Bool) :
    lookupIn (fs.put path (.document (.dict (insertEntry (documentEntries doc) (.str (sectionName taint))
      (.dict (insertEntry secEs (.str key) (.dict (insertEntry recEs (.str "resolved") (.bool resolved)))))))))
      path key' taint' =
    if key' = key ∧ taint' = taint then
      recordMeta key taint (.dict (insertEntry recEs (.str "resolved") (.bool resolved)))
    else lookupIn fs path key' taint' := by
  simp only [lookupIn, Files.readJson_put_document, documentEntries_inserted, fieldD_insertEntry, read, bind,
    Except.bind]
  by_cases sameSection : taint' = taint
  · subst sameSection
    simp only [if_true, sec, getMember, hashable, lookup?_insertEntry]
    by_cases sameKey : key' = key
    · simp [sameKey]
    · simp [sameKey]
  · simp [sectionName_injective.ne sameSection, sameSection]

theorem recordMeta_flagged {key : String} {taint resolved : Bool} {recEs : List (Value × Value)} {rule : Value}
    (ruled : field? recEs "rule_key" = some rule) :
    recordMeta key taint (.dict (insertEntry recEs (.str "resolved") (.bool resolved))) =
      .ok (some { key, ruleKey := rule, resolved, taint }) := by
  have kept : field? (insertEntry recEs (.str "resolved") (.bool resolved)) "rule_key" = some rule := by
    rw [field?_insertEntry, if_neg (by decide)]
    exact ruled
  have flag : lookup? (insertEntry recEs (.str "resolved") (.bool resolved)) (.str "resolved") =
      some (.bool resolved) := by
    rw [lookup?_insertEntry, if_pos rfl]
  cases resolved <;>
    simp [recordMeta, subscript, kept, getMember, hashable, flag, Value.truthy, bind, Except.bind, pure,
      Except.pure]

/-- Setting the flag of a cached issue rewrites the cache file alone: the issue answers with the
new flag, and every other key and section as before. -/
theorem updateResolution_present {h : Host} {path key : String} {taint : Bool}
    {look : String → Bool → Option FindingMeta} (answers : Answers h.files path look) {m : FindingMeta}
    (present : look key taint = some m) (resolved : Bool) :
    ∃ fs, (updateResolution path key taint resolved).run h = .ok (some (m.withResolution resolved)) { h with files := fs } ∧
      Answers fs path (flagged look key taint resolved) ∧ ∀ other, other ≠ path → fs.get? other = h.files.get? other := by
  have found := lookupIn_of_answers answers key taint
  rw [present] at found
  obtain ⟨named, sameKey, sameTaint⟩ := lookupIn_some found
  obtain ⟨doc, secEs, recEs, read, sec, record, ruled⟩ := cachedRule_eq_some.mp named
  obtain ⟨fs, updated⟩ := (updateResolution_rule_cases named resolved).1 answers.writable
  have written := updateResolution_cached resolved read sec record
  rw [updated, if_pos answers.writable] at written
  simp only [resultHost, Host.mk.injEq] at written
  obtain ⟨rfl, -⟩ := written
  have flagMeta : ({ key, ruleKey := m.ruleKey, resolved, taint } : FindingMeta) = m.withResolution resolved := by
    subst sameKey sameTaint
    rfl
  rw [flagMeta] at updated
  refine ⟨_, updated, answers_of_lookupIn (fun key' taint' => ?_) (Files.writable_put_self answers.writable rfl),
    fun _ apart => Files.get?_put_of_ne _ _ apart⟩
  rw [lookupIn_rewritten read sec, flagged]
  by_cases same : key' = key ∧ taint' = taint
  · obtain ⟨rfl, rfl⟩ := same
    rw [if_pos ⟨rfl, rfl⟩, if_pos ⟨rfl, rfl⟩, present, recordMeta_flagged ruled, flagMeta]
    rfl
  · rw [if_neg same, if_neg same]
    exact lookupIn_of_answers answers key' taint'

theorem flagged_of_none {look : String → Bool → Option FindingMeta} {key : String} {taint : Bool}
    (absent : look key taint = none) (resolved : Bool) : flagged look key taint resolved = look := by
  funext k t
  unfold flagged
  split
  · next same =>
    obtain ⟨rfl, rfl⟩ := same
    simp [absent]
  · rfl

theorem answers_congr {fs fs' : Files} {path : String} {look : String → Bool → Option FindingMeta}
    (answers : Answers fs path look) (same : fs'.around path = fs.around path) : Answers fs' path look :=
  answers_of_lookupIn (fun key taint => by
      rw [← lookupIn_of_answers answers key taint]
      simp only [lookupIn, Files.readJson_of_around same])
    ((Files.writable_of_around same).mpr answers.writable)

theorem contains_of_answers {h : Host} {path : String} {look : String → Bool → Option FindingMeta}
    (answers : Answers h.files path look) (key : String) (taint : Bool) :
    (contains path key taint).run h = .ok (look key taint).isSome h := by
  simp only [contains, EStateM.run_bind, answers.lookups h key taint rfl]
  rfl

end ServerFindings

/-! ## Changing a status -/

open ServerFindings

/-- The file at `path` is left as it was, with what stands inside and above it. -/
def Frame.keeps (path : String) : Frame where
  rel h h' := h'.files.around path = h.files.around path
  refl _ := rfl
  trans first second := second.trans first

/-- Relates a host to itself when it keeps the file at `path` of `h0`. -/
def Keeping (path : String) (h0 h1 h2 : Host) : Prop := h2 = h1 ∧ (Frame.keeps path).rel h0 h1

theorem keeping_logged (path : String) (h0 : Host) : Respects.Logged (Keeping path h0) := by
  rintro h1 h2 line ⟨rfl, kept⟩
  exact ⟨rfl, kept⟩

theorem keeping_network (path : String) (h0 : Host) : Respects.OnNetwork (Keeping path h0) where
  sameServer h1 h2 related := by
    rw [related.1]
    exact ⟨rfl, rfl⟩
  recorded h1 h2 script sent related := by
    obtain ⟨rfl, kept⟩ := related
    exact ⟨rfl, kept⟩

theorem keeping_store {path : String} (apart : Apart path localOnlyPath) (h0 : Host) :
    Respects.OnStore (Keeping path h0) where
  sameAround h1 h2 related := by rw [related.1]
  written h1 h2 v related := by
    obtain ⟨rfl, kept⟩ := related
    exact ⟨rfl, (Files.around_put_of_apart apart.symm _ _).trans kept⟩

/-- A step that writes no file but the local store's keeps every file apart from it. -/
theorem Within.keeps_of_reads {path : String} (apart : Apart path localOnlyPath) {α : Type} {m : Run α}
    (reads : ∀ R : Host → Host → Prop,
      Respects.Logged R → Respects.OnNetwork R → Respects.OnStore R → Respects R m) :
    Within (.keeps path) m := fun h =>
  ((reads _ (keeping_logged path h) (keeping_network path h) (keeping_store apart h) h h ⟨rfl, rfl⟩).2).2

theorem Within.keeps_of_apart (path : String) {α : Type} {m : Run α} (apart : Within .apart m) :
    Within (.keeps path) m := fun h => by
  show (resultHost (m.run h)).files.around path = h.files.around path
  rw [(apart h).1]

namespace Service

section Calls

variable {α : Type} {m rest : Run α} {h h' : Host} {a : α} {remote : Run Unit} {req : Request}
  {stage : FailedStage} {message : String}

theorem CallThen.rest_run (call : CallThen m h remote req stage message rest) (completed : m.run h = .ok a h') :
    ∃ H : Host, H.files = h.files ∧ rest.run H = .ok a h' := by
  obtain ⟨script, new, -, ⟨-, ran⟩ | ⟨p, -, failed⟩⟩ := call
  · exact ⟨{ h with script, sent := h.sent ++ new }, rfl, ran.symm.trans completed⟩
  · rw [failed] at completed
    cases completed

theorem CallThen.keeps_after {path : String} (call : CallThen m h remote req stage message rest)
    (keeps : Within (.keeps path) rest) (completed : m.run h = .ok a h') :
    h'.files.around path = h.files.around path := by
  obtain ⟨H, files, ran⟩ := call.rest_run completed
  have kept := keeps H
  rw [ran] at kept
  exact kept.trans (congrArg (·.around path) files)

end Calls

variable {s : Service} {scope : String} {conn : Connection} {h h' : Host} {st : LocalStore}
  {c p key : String} {taint : Bool} {look : String → Bool → Option FindingMeta}

theorem afterTransition_answers {α : Type} {path : String} {resolved : Bool} {answer a : α}
    (answers : Answers h.files path look) (done : (s.afterTransition path key taint resolved answer).run h = .ok a h') :
    Answers h'.files path (flagged look key taint resolved) := by
  cases cached : look key taint with
  | none =>
    have unchanged := updateResolution_absent (by rw [lookupIn_of_answers answers, cached]) resolved
    simp only [afterTransition, EStateM.run_bind, unchanged] at done
    cases done
    rwa [flagged_of_none cached]
  | some m =>
    obtain ⟨fs, updated, flaggedAnswers, -⟩ := updateResolution_present answers cached resolved
    obtain ⟨H, recorded⟩ := statusChanged_returns s (m.withResolution resolved).ruleKey { h with files := fs }
    have kept : H.files = fs := by
      have apart := statusChanged_apart s (m.withResolution resolved).ruleKey { h with files := fs }
      rw [recorded] at apart
      exact apart.1
    simp only [afterTransition, EStateM.run_bind, updated, recorded] at done
    cases done
    rw [kept]
    exact flaggedAnswers

theorem storeThenRecord_keeps (apart : Apart c localOnlyPath) (f : LocalFinding) (rule : Value) :
    Within (.keeps c) (do LocalOnly.store scope f; s.statusChanged rule) :=
  Within.bind (Within.keeps_of_reads apart fun _ _ _ store => Respects.storeOne store scope f)
    fun _ => Within.keeps_of_apart c (statusChanged_apart s rule)

theorem removeThenTrue_keeps (apart : Apart c localOnlyPath) (id : Uuid) :
    Within (.keeps c) (do discard (LocalOnly.removeOne id); pure true) :=
  Within.bind (Within.discard (Within.keeps_of_reads apart fun _ _ _ store => Respects.removeOne store id))
    fun _ => Within.of_pure _

/-- A change of status on a served scope that completes sets the flag of the issue in the section
it names of the scope's binding, and leaves every other answer of that cache as it was. -/
theorem changeStatus_answers (serves : s.Serves scope ⟨.str c, .str p⟩ conn) (holds : LocalOnly.Holds h.files st)
    (answers : Answers h.files (bindingPath c p) look) (status : ResolutionStatus)
    (done : (s.changeStatus scope key status taint).run h = .ok () h') :
    Answers h'.files (bindingPath c p) (flagged look key taint true) := by
  have checked := contains_of_answers answers key taint
  cases cached : look key taint with
  | some m =>
    -- the cache holds the issue: the server applies the transition, then the cache is marked
    rw [cached] at checked
    obtain ⟨H, files, rest⟩ := (changeStatus_server key status taint serves checked).rest_run done
    exact afterTransition_answers (answers_congr answers (by rw [files])) rest
  | none =>
    -- otherwise only the local store is written
    rw [cached] at checked
    rw [flagged_of_none cached]
    refine answers_congr answers ?_
    cases parsed : asLocalId key with
    | none =>
      rw [changeStatus_notFound key status taint serves holds checked (by simp [parsed])] at done
      cases done
    | some id =>
      cases stored : st.findings.find? (·.id == id) with
      | none =>
        have unknown : ∀ id', asLocalId key = some id' → st.findings.find? (·.id == id') = none := by
          intro id' parsed'
          rw [parsed, Option.some.injEq] at parsed'
          rwa [← parsed']
        rw [changeStatus_notFound key status taint serves holds checked unknown] at done
        cases done
      | some g =>
        obtain ⟨es, -, call⟩ := changeStatus_local key status taint serves holds checked parsed stored
        exact call.keeps_after (storeThenRecord_keeps (bindingPath_apart_local c p) _ _) done

/-- A reopening on a served scope that completes clears the flag of the issue in the section it
names of the scope's binding, and leaves every other answer of that cache as it was. -/
theorem reopen_answers (serves : s.Serves scope ⟨.str c, .str p⟩ conn) (holds : LocalOnly.Holds h.files st)
    (answers : Answers h.files (bindingPath c p) look) {reopened : Bool}
    (done : (s.reopen scope key taint).run h = .ok reopened h') :
    Answers h'.files (bindingPath c p) (flagged look key taint false) := by
  have checked := contains_of_answers answers key taint
  cases cached : look key taint with
  | some m =>
    rw [cached] at checked
    obtain ⟨H, files, rest⟩ := (reopen_server key taint serves checked).rest_run done
    exact afterTransition_answers (answers_congr answers (by rw [files])) rest
  | none =>
    rw [cached] at checked
    rw [flagged_of_none cached]
    refine answers_congr answers ?_
    cases parsed : asLocalId key with
    | none =>
      rw [reopen_notLocal key taint serves checked parsed] at done
      cases done
      rfl
    | some id =>
      obtain ⟨es, -, call⟩ := reopen_local key taint serves holds checked parsed
      exact call.keeps_after (removeThenTrue_keeps (bindingPath_apart_local c p) id) done

end Service

/-- Replacing a binding's cache makes every lookup answer the last issue given with its key in its
section, and nothing for a key no issue in the section has; setting a flag answers none and changes
nothing when the section does not hold the key, and otherwise rewrites that one record alone. A
change of status or a reopening on a served scope reads the section it names of the scope's
binding, and once it completes that issue's flag, and only that one, is set or cleared. -/
theorem server_cache_answers_last_and_flags_one_entry (path : String) (metas : List FindingMeta) :
    (∀ h : Host, h.files.Writable path →
      ∃ fs, (replaceAll path metas).run h = .ok () { h with files := fs } ∧ Answers fs path (lastMeta metas) ∧
        ∀ other, other ≠ path → fs.get? other = h.files.get? other) ∧
    (∀ key taint, lastMeta metas key taint = none ↔ ∀ m ∈ metas, ¬(m.key = key ∧ m.taint = taint)) ∧
    (∀ key taint m, lastMeta metas key taint = some m ↔ ∃ pre post, metas = pre ++ m :: post ∧
      (m.key = key ∧ m.taint = taint) ∧ ∀ m' ∈ post, ¬(m'.key = key ∧ m'.taint = taint)) ∧
    (∀ (h : Host) look key taint resolved, Answers h.files path look → look key taint = none →
      (updateResolution path key taint resolved).run h = .ok none h) ∧
    (∀ (h : Host) look key taint resolved m, Answers h.files path look → look key taint = some m →
      ∃ fs, (updateResolution path key taint resolved).run h =
          .ok (some (m.withResolution resolved)) { h with files := fs } ∧
        Answers fs path (flagged look key taint resolved) ∧ ∀ other, other ≠ path → fs.get? other = h.files.get? other) ∧
    (∀ (s : Service) scope c p conn st (h h' : Host) look key status taint,
      s.Serves scope ⟨.str c, .str p⟩ conn → LocalOnly.Holds h.files st → Answers h.files (bindingPath c p) look →
      (s.changeStatus scope key status taint).run h = .ok () h' →
      Answers h'.files (bindingPath c p) (flagged look key taint true)) ∧
    (∀ (s : Service) scope c p conn st (h h' : Host) look key taint reopened,
      s.Serves scope ⟨.str c, .str p⟩ conn → LocalOnly.Holds h.files st → Answers h.files (bindingPath c p) look →
      (s.reopen scope key taint).run h = .ok reopened h' →
      Answers h'.files (bindingPath c p) (flagged look key taint false)) :=
  ⟨replaceAll_answers path metas, lastMeta_eq_none_iff metas, lastMeta_eq_some_iff metas,
    fun _ _ _ _ resolved answers absent =>
      updateResolution_absent (by rw [lookupIn_of_answers answers, absent]) resolved,
    fun _ _ _ _ resolved _ answers present => updateResolution_present answers present resolved,
    fun _ _ _ _ _ _ _ _ _ _ status _ serves holds answers done =>
      Service.changeStatus_answers serves holds answers status done,
    fun _ _ _ _ _ _ _ _ _ _ _ _ serves holds answers done => Service.reopen_answers serves holds answers done⟩

end IssueSync
