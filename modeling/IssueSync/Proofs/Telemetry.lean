import IssueSync.Proofs.ScopeLock
import IssueSync.Proofs.ScopeIsolation
import IssueSync.Proofs.Recording

/-!
# Counting status changes

A service with telemetry counts every change of status it makes, by rule, and appends an event for
it to the event log. The change is recorded as the last step of the operation that made it, once the
server took it and the store holds it, and recording never fails: a failure to append the event is
logged instead. So over any run of operations the counter of a rule is the number of operations that
completed having changed the status of a finding of that rule: resolving an issue the cache of the
scope's binding holds, with the rule the cache gives it, resolving a stored local finding, or
reopening an issue the cache holds. Comments, reopening local findings or a file's findings,
resyncs, recording local findings, permission and capability checks and replacing the cache count
nothing, nor does a failed operation, and the state of the event log never changes what an operation
answers or does (`telemetry_counts_completed_changes`). Without telemetry nothing is counted and no
event is written.
-/

set_option autoImplicit false

namespace IssueSync

open IssueSync.Store IssueSync.Remote IssueSync.Value

/-! ## The counter -/

/-- How many status changes of the rule `r` a counter holds. -/
def changeCount (counts : List (Value × Nat)) (r : String) : Nat :=
  ((counts.find? (·.1.equal (.str r))).map (·.2)).getD 0

theorem Value.str_equal_comm (s : String) (v : Value) : (Value.str s).equal v = v.equal (.str s) := by
  cases v with
  | str t =>
    simp only [Value.equal]
    by_cases same : s = t
    · rw [same]
    · simp [same, Ne.symm same]
  | _ => simp [Value.equal, Value.isNumber]

/-- Changing the counts of a counter keeps its rules, so the entry of a rule is found where it was. -/
theorem find?_map_keys {f : Value × Nat → Value × Nat} {p : Value × Nat → Bool} (keys : ∀ e, p (f e) = p e)
    (counts : List (Value × Nat)) : (counts.map f).find? p = (counts.find? p).map f := by
  rw [List.find?_map]
  congr 2
  funext e
  exact keys e

/-- Counting a change of `rule` adds one to the count of `r` exactly when `rule` is `r`. -/
theorem changeCount_countChange (h : Host) (rule : Value) (r : String) :
    changeCount (resultHost ((Run.countChange rule).run h)).statusChanges r =
      changeCount h.statusChanges r + if rule.equal (.str r) then 1 else 0 := by
  simp only [Run.countChange, EStateM.run_modify, resultHost, changeCount]
  -- the entry of `r` is an entry of `rule` exactly when `rule` is `r`
  have keyed : ∀ e : Value × Nat, e.1.equal (.str r) = true → e.1.equal rule = rule.equal (.str r) := by
    intro e named
    rw [(LocalFinding.equal_str_iff _ _).mp named, Value.str_equal_comm]
  split
  · rename_i present
    rw [find?_map_keys fun e => by split <;> rfl]
    cases found : h.statusChanges.find? (·.1.equal (.str r)) with
    | none =>
      -- no entry of `r`, while `rule` has one, so `rule` is not `r`
      obtain ⟨e, member, ruled⟩ := List.any_eq_true.mp present
      have other : rule.equal (.str r) = false := by
        cases named : rule.equal (.str r) with
        | false => rfl
        | true =>
          rw [(LocalFinding.equal_str_iff _ _).mp named] at ruled
          exact absurd ruled (by simpa using List.find?_eq_none.mp found e member)
      simp [other]
    | some e =>
      have same := keyed e (by simpa using List.find?_some found)
      cases bumped : rule.equal (.str r) <;> simp [same, bumped]
  · rename_i absent
    rw [List.find?_append]
    cases found : h.statusChanges.find? (·.1.equal (.str r)) with
    | some e =>
      -- an entry of `r` that `rule` does not match: `rule` is not `r`
      have other : rule.equal (.str r) = false := by
        rw [← keyed e (by simpa using List.find?_some found)]
        simpa using List.any_eq_false.mp (Bool.eq_false_iff.mpr absent) e (List.mem_of_find?_eq_some found)
      simp [other]
    | none => cases ruled : rule.equal (.str r) <;> simp [ruled]

/-! ## Recording a change -/

namespace Service

/-- Records the status change of a rule, when there is one. -/
def recordChange (s : Service) : Option Value → Run Unit
  | none => pure ()
  | some rule => s.statusChanged rule

theorem recordChange_returns (s : Service) (rule? : Option Value) (h : Host) :
    ∃ h', (s.recordChange rule?).run h = .ok () h' := by
  cases rule? with
  | none => exact ⟨h, rfl⟩
  | some rule => exact statusChanged_returns s rule h

/-- Appending the event of a change, or logging that it could not be appended, leaves the counter
alone. -/
theorem statusChanges_recordEvent (event : Value) (line : Failure → String) {H H' : Host}
    (ran : (tryCatch (Run.appendEvent event) fun f => Run.log (line f)).run H = .ok () H') :
    H'.statusChanges = H.statusChanges := by
  rw [Run.tryCatch_run] at ran
  unfold Run.appendEvent at ran
  -- a blocked event log fails the append, and the failure is logged
  cases blocked : H.eventsBlocked
  · simp only [EStateM.run_bind, EStateM.run_get, blocked, Bool.false_eq_true, if_false,
      EStateM.run_modify] at ran
    cases ran
    rfl
  · simp only [EStateM.run_bind, EStateM.run_get, blocked, if_true, Run.fail_run, Run.log,
      EStateM.run_modify] at ran
    cases ran
    rfl

/-- Recording a change counts it once when the service counts changes, under its rule. -/
theorem changeCount_recordChange (s : Service) (rule? : Option Value) (r : String) {H H' : Host}
    (ran : (s.recordChange rule?).run H = .ok () H') :
    changeCount H'.statusChanges r =
      changeCount H.statusChanges r + if s.telemetry && s.counted && rule?.any (·.equal (.str r)) then 1 else 0 := by
  cases rule? with
  | none =>
    cases ran
    simp
  | some rule =>
    simp only [recordChange, statusChanged] at ran
    cases telemetry : s.telemetry with
    | false =>
      simp only [telemetry, Bool.not_false, if_true] at ran
      cases ran
      simp
    | true =>
      simp only [telemetry, Bool.not_true, Bool.false_eq_true, if_false] at ran
      cases counted : s.counted with
      | false =>
        simp only [counted, Bool.false_eq_true, if_false] at ran
        simp [statusChanges_recordEvent _ _ ran]
      | true =>
        simp only [counted, if_true, EStateM.run_bind] at ran
        rw [statusChanges_recordEvent _ _ ran]
        have bumped := changeCount_countChange H rule r
        simp only [Run.countChange, EStateM.run_modify, resultHost] at bumped
        simpa using bumped

/-- Without telemetry, recording a change does nothing. -/
theorem recordChange_off (s : Service) (off : s.telemetry = false) (rule? : Option Value) (H : Host) :
    (s.recordChange rule?).run H = .ok () H := by
  cases rule? with
  | none => rfl
  | some rule => simp [recordChange, statusChanged, off]

end Service

/-- The counter of status changes and the event log are left as they were. -/
def Frame.untallied : Frame where
  rel h h' := h'.statusChanges = h.statusChanges ∧ h'.events = h.events
  refl _ := ⟨rfl, rfl⟩
  trans first second := ⟨second.1.trans first.1, second.2.trans first.2⟩

/-- Run from `h`, `m` touches the counter and the event log only by recording the status change
of `rule?`, as its last step: a failed run leaves both as they were, and a completed run reaches a
host that keeps them, from which recording the change leaves the host it ends in. -/
def Tallies (s : Service) {α : Type} (m : Run α) (h : Host) (rule? : Option Value) : Prop :=
  match m.run h with
  | .ok _ h' => ∃ H, Frame.untallied.rel h H ∧ (s.recordChange rule?).run H = .ok () h'
  | .error _ h' => Frame.untallied.rel h h'

namespace Tallies

variable {s : Service} {α β : Type} {m rest : Run α} {h H h' : Host} {rule? : Option Value}

theorem of_ok {a : α} (ran : m.run h = .ok a h') (kept : Frame.untallied.rel h h') : Tallies s m h none := by
  unfold Tallies
  rw [ran]
  exact ⟨h', kept, rfl⟩

theorem of_error {f : Failure} (ran : m.run h = .error f h') (kept : Frame.untallied.rel h h') :
    Tallies s m h rule? := by
  unfold Tallies
  rw [ran]
  exact kept

theorem record (s : Service) (rule? : Option Value) (h : Host) : Tallies s (s.recordChange rule?) h rule? := by
  obtain ⟨h', ran⟩ := Service.recordChange_returns s rule? h
  unfold Tallies
  rw [ran]
  exact ⟨h, Frame.untallied.refl h, ran⟩

/-- A run that goes on as `rest` from a host that keeps the counter and the event log tallies as
`rest` does. -/
theorem shift (ran : m.run h = rest.run H) (kept : Frame.untallied.rel h H) (tallies : Tallies s rest H rule?) :
    Tallies s m h rule? := by
  unfold Tallies at tallies ⊢
  rw [ran]
  revert tallies
  cases rest.run H with
  | ok a h' =>
    rintro ⟨H', kept', recorded⟩
    exact ⟨H', Frame.untallied.trans kept kept', recorded⟩
  | error f h' => exact Frame.untallied.trans kept

theorem bind_ok {m : Run β} {k : β → Run α} {b : β} (first : m.run h = .ok b H) (kept : Frame.untallied.rel h H)
    (tallies : Tallies s (k b) H rule?) : Tallies s (m >>= k) h rule? :=
  shift (by rw [EStateM.run_bind, first]) kept tallies

theorem bind_pure (tallies : Tallies s m h rule?) (b : β) : Tallies s (m >>= fun _ => pure b) h rule? := by
  unfold Tallies at tallies ⊢
  rw [EStateM.run_bind]
  revert tallies
  cases m.run h <;> exact id

theorem discard (tallies : Tallies s m h rule?) : Tallies s (discard m) h rule? := by
  unfold Tallies at tallies ⊢
  rw [Run.discard_run]
  revert tallies
  cases m.run h <;> exact id

theorem callThen {remote : Run Unit} {req : Request} {stage : FailedStage} {message : String}
    (call : Service.CallThen m h remote req stage message rest)
    (tallies : ∀ script new, Tallies s rest { h with script, sent := h.sent ++ new } rule?) :
    Tallies s m h rule? := by
  obtain ⟨script, new, -, ⟨-, ran⟩ | ⟨p, -, failed⟩⟩ := call
  · exact shift ran ⟨rfl, rfl⟩ (tallies script new)
  · exact of_error failed ⟨rfl, rfl⟩

/-- A completed run counts its change once when the service counts changes, under its rule. -/
theorem changeCount_ok (tallies : Tallies s m h rule?) {a : α} (ran : m.run h = .ok a h') (r : String) :
    changeCount h'.statusChanges r =
      changeCount h.statusChanges r + if s.telemetry && s.counted && rule?.any (·.equal (.str r)) then 1 else 0 := by
  unfold Tallies at tallies
  rw [ran] at tallies
  obtain ⟨H, kept, recorded⟩ := tallies
  rw [Service.changeCount_recordChange s rule? r recorded, kept.1]

theorem untallied_error (tallies : Tallies s m h rule?) {f : Failure} (ran : m.run h = .error f h') :
    Frame.untallied.rel h h' := by
  unfold Tallies at tallies
  rw [ran] at tallies
  exact tallies

/-- Without telemetry, nothing is counted and no event is written. -/
theorem untallied_off (tallies : Tallies s m h rule?) (off : s.telemetry = false) :
    Frame.untallied.rel h (resultHost (m.run h)) := by
  unfold Tallies at tallies
  revert tallies
  cases m.run h with
  | ok a h' =>
    rintro ⟨H, kept, recorded⟩
    rw [Service.recordChange_off s off] at recorded
    cases recorded
    exact kept
  | error f h' => exact id

end Tallies

/-! ## Which change a call makes -/

/-- The rule that the cache file at `path` gives the issue `key` in the section of `taint`, when
the file holds the issue. -/
def cachedRule (fs : Files) (path key : String) (taint : Bool) : Option Value :=
  match fs.readJson path with
  | .ok doc =>
    match fieldD (ServerFindings.documentEntries doc) (ServerFindings.sectionName taint) with
    | .dict secEs =>
      match lookup? secEs (.str key) with
      | some (.dict recEs) => field? recEs "rule_key"
      | _ => none
    | _ => none
  | .error _ => none

theorem cachedRule_eq_some {fs : Files} {path key : String} {taint : Bool} {rule : Value} :
    cachedRule fs path key taint = some rule ↔
      ∃ doc secEs recEs, fs.readJson path = .ok doc ∧
        fieldD (ServerFindings.documentEntries doc) (ServerFindings.sectionName taint) = .dict secEs ∧
        lookup? secEs (.str key) = some (.dict recEs) ∧ field? recEs "rule_key" = some rule := by
  unfold cachedRule
  constructor
  · intro named
    split at named
    · rename_i doc read
      split at named
      · rename_i secEs sec
        split at named
        · rename_i recEs record
          exact ⟨doc, secEs, recEs, read, sec, record, named⟩
        · cases named
      · cases named
    · cases named
  · rintro ⟨doc, secEs, recEs, read, sec, record, ruled⟩
    simp only [read, sec, record, ruled]

/-- The cache holds an issue exactly when its file gives the issue a rule. -/
theorem contains_iff_cachedRule (path key : String) (taint : Bool) (h : Host) :
    resultOutcome ((ServerFindings.contains path key taint).run h) = .ok true ↔
      ∃ rule, cachedRule h.files path key taint = some rule := by
  rw [ServerFindings.contains_true_iff]
  simp only [cachedRule_eq_some]
  constructor
  · rintro ⟨doc, secEs, recEs, rule, facts⟩
    exact ⟨rule, doc, secEs, recEs, facts⟩
  · rintro ⟨rule, doc, secEs, recEs, facts⟩
    exact ⟨doc, secEs, recEs, rule, facts⟩

/-- Setting the flag of an issue the cache holds is one write of the cache file, answered by the
issue with the rule the cache gives it. -/
theorem updateResolution_rule {path key : String} {taint : Bool} {h : Host} {rule : Value}
    (named : cachedRule h.files path key taint = some rule) (resolved : Bool) :
    ∃ v, (ServerFindings.updateResolution path key taint resolved).run h =
      (Run.writeJson path v >>= fun _ => pure (some { key, ruleKey := rule, resolved, taint })).run h := by
  obtain ⟨doc, secEs, recEs, read, sec, record, ruled⟩ := cachedRule_eq_some.mp named
  -- the flag is set beside the rule, which stays as it was
  have kept : field? (insertEntry recEs (.str "resolved") (.bool resolved)) "rule_key" = some rule := by
    rw [field?_insertEntry, if_neg (by decide)]
    exact ruled
  simp only [ServerFindings.updateResolution, EStateM.run_bind, ServerFindings.document_run, read, sec, getMember,
    hashable, if_true, record, Option.getD_some, Run.lift_run, setItem]
  refine ⟨.dict (insertEntry (ServerFindings.documentEntries doc) (.str (ServerFindings.sectionName taint))
    (.dict (insertEntry secEs (.str key) (.dict (insertEntry recEs (.str "resolved") (.bool resolved)))))), ?_⟩
  simp only [Bool.false_eq_true, if_false, EStateM.run_bind, Run.lift_ok_run, ServerFindings.metaOf, subscript, kept]
  cases (Run.writeJson path _).run h <;> rfl

/-- The write succeeds where the cache file can be written; otherwise the host stays as it was. -/
theorem updateResolution_rule_cases {path key : String} {taint : Bool} {h : Host} {rule : Value}
    (named : cachedRule h.files path key taint = some rule) (resolved : Bool) :
    (h.files.Writable path → ∃ fs, (ServerFindings.updateResolution path key taint resolved).run h =
      .ok (some { key, ruleKey := rule, resolved, taint }) { h with files := fs }) ∧
    (¬ h.files.Writable path → ∃ f, (ServerFindings.updateResolution path key taint resolved).run h = .error f h) := by
  obtain ⟨v, updated⟩ := updateResolution_rule named resolved
  rw [updated, EStateM.run_bind]
  refine ⟨fun writable => ?_, fun refused => ?_⟩
  · rw [Run.writeJson_run _ _ _ writable]
    exact ⟨_, rfl⟩
  · obtain ⟨f, failed⟩ := Files.writeJson_of_not_writable refused v
    rw [Run.writeJson_run_error failed]
    exact ⟨f, rfl⟩

/-- The rule of the local finding the store keeps under an id. -/
def storedRule (fs : Files) (id : Uuid) : Option Value :=
  match resultOutcome ((LocalOnly.find id).run { files := fs }) with
  | .ok found => found.map (·.ruleKey)
  | .error _ => none

/-- On a store that holds its findings, that is the rule of the stored finding with the id. -/
theorem storedRule_holds {fs : Files} {st : LocalStore} (holds : LocalOnly.Holds fs st) (id : Uuid) :
    storedRule fs id = (st.findings.find? (·.id == id)).map (·.ruleKey) := by
  have found := LocalOnly.find_run (h := { files := fs }) holds id
  simp only [storedRule, found, resultOutcome]

namespace Service

/-- The cache file of the binding that serves a scope through a live connection. -/
def servedFile (s : Service) (scope : String) : Option String :=
  match s.scopes.effectiveBinding (.str scope) with
  | .ok (some ⟨.str c, .str p⟩) => (s.connections.lookup c).map fun _ => bindingPath c p
  | _ => none

variable {s : Service} {scope : String}

theorem servedFile_served {c p : String} {conn : Connection} (serves : s.Serves scope ⟨.str c, .str p⟩ conn) :
    s.servedFile scope = some (bindingPath c p) := by
  obtain ⟨bound, c', named, live⟩ := serves
  cases named
  simp [servedFile, bound, live]

theorem servedFile_idle (idle : s.Idle scope) : s.servedFile scope = none := by
  unfold servedFile
  split
  · rename_i c p bound
    cases live : s.connections.lookup c with
    | none => rfl
    | some conn =>
      -- a binding of text with a live connection serves the scope, which is idle
      have found := bound?_served (⟨bound, c, rfl, live⟩ : s.Serves scope ⟨.str c, .str p⟩ conn) {}
      rcases idle {} with ⟨lines, declined⟩ | ⟨f, failed⟩
      · rw [found] at declined
        cases declined
      · rw [found] at failed
        cases failed
  · rfl

end Service

namespace ScopeCall

/-- The rule of the finding whose status a call on a scope changes, when it completes on a host
whose files are `fs`: resolving a key that the cache of the scope's binding holds changes that
issue, resolving any other key the stored local finding it names, and reopening a key the cache
holds that issue. No other call changes a status. -/
def changedRule (s : Service) (scope : String) (fs : Files) : ScopeCall → Option Value
  | .changeStatus key _ taint => (s.servedFile scope).bind fun file =>
      (cachedRule fs file key taint).or ((asLocalId key).bind (storedRule fs))
  | .reopen key taint => (s.servedFile scope).bind fun file => cachedRule fs file key taint
  | .addComment .. | .reopenAll _ | .resync => none

end ScopeCall

/-! ## What the operations that change no status read -/

section Respecting

variable {R : Host → Host → Prop}

/-- A relation under which both hosts hold the same files, kept by writing the same document to
both. -/
structure OnFiles (R : Host → Host → Prop) : Prop where
  sameFiles : ∀ h1 h2, R h1 h2 → h1.files = h2.files
  written : ∀ h1 h2 path v, R h1 h2 →
    R { h1 with files := h1.files.put path (.document v) } { h2 with files := h2.files.put path (.document v) }

namespace OnFiles

variable (files : OnFiles R)
include files

theorem store : Respects.OnStore R where
  sameAround h1 h2 related := by rw [files.sameFiles h1 h2 related]
  written h1 h2 v related := files.written h1 h2 _ v related

theorem readJson (path : String) : Respects R (Run.readJson path) :=
  Respects.readJson path fun h1 h2 related => by rw [files.sameFiles h1 h2 related]

theorem writeJson (path : String) (v : Value) : Respects R (Run.writeJson path v) :=
  Respects.writeJson path v (fun h1 h2 related => by rw [files.sameFiles h1 h2 related])
    fun h1 h2 related => files.written h1 h2 path v related

end OnFiles

theorem pushResolvedSet_respects (network : Respects.OnNetwork R) (store : Respects.OnStore R) (conn : Connection)
    (b : Binding) (scope : String) (incl : Option LocalFinding) (exclude : List Uuid) (stage : FailedStage) :
    Respects R (Service.pushResolvedSet conn b scope incl exclude stage) := by
  rw [Service.pushResolvedSet_eq]
  exact Respects.bind (Respects.loadAll store scope) fun _ =>
    Respects.bind (failedWith_respects stage _ (Respects.anticipatedTransitions network _ _ _)) fun _ =>
      Respects.of_pure _

theorem commentLocalOnly_respects (logged : Respects.Logged R) (network : Respects.OnNetwork R)
    (store : Respects.OnStore R) (s : Service) (scope : String) (id : Uuid) (text : String) :
    Respects R (s.commentLocalOnly scope id text) := by
  unfold Service.commentLocalOnly
  refine Respects.bind (bound?_respects s scope logged) fun bound => ?_
  rcases bound with _ | ⟨b, conn⟩
  · exact Respects.of_pure _
  refine Respects.bind (Respects.find store id) fun found => ?_
  rcases found with _ | f
  · exact Respects.of_pure _
  dsimp only
  split
  · exact Respects.bind (Respects.discard (pushResolvedSet_respects network store conn b scope _ [] _)) fun _ =>
      Respects.bind (Respects.storeOne store scope _) fun _ => Respects.of_pure _
  · exact Respects.of_pure _

theorem addComment_respects (logged : Respects.Logged R) (network : Respects.OnNetwork R)
    (store : Respects.OnStore R) (s : Service) (scope key text : String) :
    Respects R (s.addComment scope key text) := by
  unfold Service.addComment
  extract_lets server
  -- the server's issue takes the comment unless a resolved local finding took it
  have serverRespects : Respects R (server ()) := by
    refine Respects.bind (bound?_respects s scope logged) fun bound => ?_
    rcases bound with _ | ⟨b, conn⟩
    · exact Respects.of_pure _
    · exact failedWith_respects _ _ (Respects.discard (Respects.call network _ _ _ _ _))
  split
  · refine Respects.bind (commentLocalOnly_respects logged network store s scope _ text) fun commented => ?_
    cases commented
    · exact serverRespects
    · exact Respects.of_pure _
  · exact serverRespects

theorem reopenAll_respects (logged : Respects.Logged R) (network : Respects.OnNetwork R)
    (store : Respects.OnStore R) (s : Service) (scope : String) (path : Value) :
    Respects R (s.reopenAll scope path) := by
  unfold Service.reopenAll
  extract_lets removing
  have removed : ∀ u, Respects R (removing u) := fun _ =>
    Respects.bind (Respects.removeForPath store scope path) fun _ =>
      Respects.bind (Respects.log logged) fun _ => Respects.of_pure _
  refine Respects.bind (bound?_respects s scope logged) fun bound => ?_
  rcases bound with _ | ⟨b, conn⟩
  · exact removed ()
  -- a refused push is logged, and the findings of the file are removed all the same
  refine Respects.bind (Respects.loadForPath store scope path) fun forFile =>
    Respects.bind (Respects.tryCatch (Respects.discard (pushResolvedSet_respects network store conn b scope none _ _))
      fun f => ?_) removed
  split
  · exact Respects.log logged
  · exact Respects.fail _

theorem resync_respects (logged : Respects.Logged R) (network : Respects.OnNetwork R)
    (store : Respects.OnStore R) (s : Service) (scope : String) : Respects R (s.resync scope) := by
  unfold Service.resync
  refine Respects.bind (bound?_respects s scope logged) fun bound => ?_
  rcases bound with _ | ⟨b, conn⟩
  · exact Respects.of_pure _
  exact Respects.bind (pushResolvedSet_respects network store conn b scope none [] _) fun _ =>
    Respects.bind (Respects.log logged) fun _ => Respects.of_pure _

theorem recordLocalOnly_respects (logged : Respects.Logged R) (store : Respects.OnStore R) (s : Service)
    (scope : String) (findings : List LocalFinding) : Respects R (s.recordLocalOnly scope findings) :=
  Respects.bind (Respects.storeAll store scope findings) fun _ =>
    Respects.bind (Respects.log logged) fun _ => Respects.of_pure _

theorem contains_respects (files : OnFiles R) (path key : String) (taint : Bool) :
    Respects R (ServerFindings.contains path key taint) := by
  intro h1 h2 related
  refine ⟨ServerFindings.contains_of_read (by rw [files.sameFiles h1 h2 related]), ?_⟩
  rw [Within.same_run (Service.contains_same path key taint) h1,
    Within.same_run (Service.contains_same path key taint) h2]
  exact related

theorem updateResolution_respects (files : OnFiles R) (path key : String) (taint resolved : Bool) :
    Respects R (ServerFindings.updateResolution path key taint resolved) := by
  unfold ServerFindings.updateResolution ServerFindings.document
  refine Respects.bind (Respects.bind (files.readJson _) fun _ => Respects.of_pure _) fun es => ?_
  refine Respects.bind (Respects.lift _) fun record => ?_
  split
  · exact Respects.of_pure _
  · refine Respects.bind (Respects.lift _) fun _ => Respects.bind (Respects.lift _) fun _ => ?_
    exact Respects.bind (files.writeJson _ _) fun _ => Respects.bind (Respects.lift _) fun _ => Respects.of_pure _

theorem replyJson_respects (r : Reply) : Respects R (replyJson r) := by
  unfold replyJson malformed
  split
  · exact Respects.of_pure _
  · exact Respects.fail _
  all_goals split <;> first | exact Respects.of_pure _ | exact Respects.fail _

theorem systemStatus_respects (network : Respects.OnNetwork R) (c : Connection) : Respects R (systemStatus c) := by
  unfold systemStatus malformed
  refine Respects.bind (Respects.call network _ _ _ _ _) fun r => Respects.bind (replyJson_respects r) fun body => ?_
  split
  · split
    · exact Respects.of_pure _
    · exact Respects.fail _
  · exact Respects.fail _

theorem searchByKey_respects (network : Respects.OnNetwork R) (c : Connection) (key : String) :
    Respects R (searchByKey c key) := by
  unfold searchByKey malformed
  refine Respects.bind (Respects.call network _ _ _ _ _) fun r => Respects.bind (replyJson_respects r) fun body => ?_
  -- picking the issue out of the reply only returns or fails
  repeat (first
    | exact Respects.of_pure _
    | exact Respects.fail _
    | exact Respects.mapM _ _ fun i => by split <;> first | exact Respects.of_pure _ | exact Respects.fail _
    | dsimp only
    | refine Respects.bind ?_ fun _ => ?_
    | split)

theorem ServerInfo.read_respects (logged : Respects.Logged R) (files : OnFiles R) (c : String) :
    Respects R (ServerInfo.read c) := by
  unfold ServerInfo.read
  refine Respects.bind (files.readJson _) fun doc => ?_
  repeat (first
    | exact Respects.of_pure _
    | exact Respects.fail _
    | exact Respects.log logged
    | exact Respects.discard (Respects.lift _)
    | dsimp only
    | refine Respects.bind ?_ fun _ => ?_
    | split)

theorem Capability.synchronize_respects (network : Respects.OnNetwork R) (files : OnFiles R) (conn : Connection) :
    Respects R (Capability.synchronize conn) := by
  unfold Capability.synchronize ServerInfo.store
  exact Respects.bind (systemStatus_respects network conn) fun _ => Respects.bind (Respects.lift _) fun _ =>
    Respects.bind (files.writeJson _ _) fun _ => Respects.of_pure _

theorem Capability.readOrSynchronize_respects (logged : Respects.Logged R) (network : Respects.OnNetwork R)
    (files : OnFiles R) (conn : Connection) : Respects R (Capability.readOrSynchronize conn) := by
  unfold Capability.readOrSynchronize
  refine Respects.bind (ServerInfo.read_respects logged files _) fun info? => ?_
  split
  · exact Respects.of_pure _
  · -- a fetch refused by the server or the network is logged and gives none
    refine Respects.bind (Respects.tryCatch (Respects.bind (Respects.map _ (synchronize_respects network files conn))
      fun _ => Respects.of_pure _) fun f => ?_) fun e => ?_
    · split
      · exact Respects.bind (Respects.log logged) fun _ => Respects.of_pure _
      · exact Respects.bind (Respects.fail _) fun _ => Respects.of_pure _
    · cases e <;> exact Respects.of_pure _

theorem Capability.supportsAnticipated_respects (logged : Respects.Logged R) (files : OnFiles R)
    (conn : Connection) : Respects R (Capability.supportsAnticipated conn) := by
  unfold Capability.supportsAnticipated
  split
  · exact Respects.of_pure _
  · exact Respects.bind (ServerInfo.read_respects logged files _) fun info? => by split <;> exact Respects.of_pure _

theorem Capability.of_respects (logged : Respects.Logged R) (network : Respects.OnNetwork R) (files : OnFiles R)
    (conn : Connection) : Respects R (Capability.of conn) := by
  unfold Capability.of Capability.vocabularyForLocalOnly
  refine Respects.bind (supportsAnticipated_respects logged files conn) fun supported => ?_
  split
  · exact Respects.of_pure _
  · refine Respects.bind ?_ fun _ => Respects.of_pure _
    split
    · exact Respects.of_pure _
    · exact Respects.bind (readOrSynchronize_respects logged network files conn) fun info? => by
        split <;> exact Respects.of_pure _

theorem checkPermission_respects (logged : Respects.Logged R) (network : Respects.OnNetwork R) (files : OnFiles R)
    (s : Service) (connection key : String) : Respects R (s.checkPermission connection key) := by
  unfold Service.checkPermission
  refine Respects.bind (connection?_respects s _ logged) fun conn? => ?_
  split
  · rename_i conn
    have searched : Respects R (searchByKey conn key >>= fun issue =>
        pure (PermissionOutcome.ofStatuses (vocabularyFor issue.transitions) permissionMissingReason)) :=
      Respects.bind (searchByKey_respects network conn key) fun _ => Respects.of_pure _
    split
    · refine Respects.bind (Respects.find files.store _) fun found => ?_
      split
      · exact Respects.bind (Capability.of_respects logged network files conn) fun _ => Respects.of_pure _
      · exact searched
    · exact searched
  · exact Respects.fail _

theorem checkAnticipated_respects (logged : Respects.Logged R) (files : OnFiles R) (s : Service) (scope : String) :
    Respects R (s.checkAnticipated scope) := by
  unfold Service.checkAnticipated Service.binding?
  refine Respects.bind (Respects.lift _) fun b? => ?_
  split
  · refine Respects.bind (connection?_respects s _ logged) fun conn? => ?_
    split
    · exact Capability.supportsAnticipated_respects logged files _
    · exact Respects.fail _
  · exact Respects.fail _

theorem replaceServerFindings_respects (files : OnFiles R) (s : Service) (scope : String) (metas : List FindingMeta) :
    Respects R (s.replaceServerFindings scope metas) := by
  unfold Service.replaceServerFindings Service.binding? ServerFindings.replaceAll
  refine Respects.bind (Respects.lift _) fun b? => ?_
  split
  · exact Respects.bind (bindingFile_respects _) fun _ => Respects.bind (files.writeJson _ _) fun _ =>
      Respects.of_pure _
  · exact Respects.fail _

end Respecting

/-! ## Steps that touch neither the counter nor the event log -/

/-- Relates a host to itself when it keeps the counter and the event log of `h0`. -/
def Untallied (h0 h1 h2 : Host) : Prop := h2 = h1 ∧ Frame.untallied.rel h0 h1

theorem untallied_logged (h0 : Host) : Respects.Logged (Untallied h0) := by
  rintro h1 h2 line ⟨rfl, kept⟩
  exact ⟨rfl, kept⟩

theorem untallied_network (h0 : Host) : Respects.OnNetwork (Untallied h0) where
  sameServer h1 h2 related := by
    rw [related.1]
    exact ⟨rfl, rfl⟩
  recorded h1 h2 script sent related := by
    obtain ⟨rfl, kept⟩ := related
    exact ⟨rfl, kept⟩

theorem untallied_files (h0 : Host) : OnFiles (Untallied h0) where
  sameFiles h1 h2 related := by rw [related.1]
  written h1 h2 path v related := by
    obtain ⟨rfl, kept⟩ := related
    exact ⟨rfl, kept⟩

/-- A step that reads only what logging, sending and writing files keep alike leaves the counter
and the event log alone. -/
theorem Within.untallied_of_reads {α : Type} {m : Run α}
    (reads : ∀ R : Host → Host → Prop,
      Respects.Logged R → Respects.OnNetwork R → OnFiles R → Respects R m) :
    Within .untallied m := fun h =>
  ((reads _ (untallied_logged h) (untallied_network h) (untallied_files h) h h ⟨rfl, Frame.untallied.refl h⟩).2).2

namespace Tallies

variable {s : Service} {α β : Type} {m : Run α} {h : Host} {rule? : Option Value}

theorem of_within (kept : Within .untallied m) : Tallies s m h none := by
  have untouched := kept h
  unfold Tallies
  revert untouched
  cases m.run h with
  | ok a h' => exact fun untouched => ⟨h', untouched, rfl⟩
  | error f h' => exact id

theorem bind_within {m : Run β} {k : β → Run α} (first : Within .untallied m)
    (rest : ∀ b H, m.run h = .ok b H → Tallies s (k b) H rule?) : Tallies s (m >>= k) h rule? := by
  have untouched := first h
  cases ran : m.run h with
  | ok b H =>
    rw [ran] at untouched
    exact bind_ok ran untouched (rest b H ran)
  | error f H =>
    rw [ran] at untouched
    exact of_error (by rw [EStateM.run_bind, ran]; rfl) untouched

end Tallies

namespace Service

theorem pushResolvedSet_untallied (conn : Connection) (b : Binding) (scope : String) (incl : Option LocalFinding)
    (exclude : List Uuid) (stage : FailedStage) : Within .untallied (pushResolvedSet conn b scope incl exclude stage) :=
  Within.untallied_of_reads fun _ _ network files =>
    pushResolvedSet_respects network files.store conn b scope incl exclude stage

theorem store_untallied (scope : String) (f : LocalFinding) : Within .untallied (LocalOnly.store scope f) :=
  Within.untallied_of_reads fun _ _ _ files => Respects.storeOne files.store scope f

theorem removeOne_untallied (id : Uuid) : Within .untallied (LocalOnly.removeOne id) :=
  Within.untallied_of_reads fun _ _ _ files => Respects.removeOne files.store id

/-- The rule of a local finding found under an id is the rule the store keeps under it. -/
theorem storedRule_found {id : Uuid} {h : Host} {found : Option LocalFinding}
    (looked : (LocalOnly.find id).run h = .ok found h) : storedRule h.files id = found.map (·.ruleKey) := by
  -- finding reads the store's file alone
  have sameFiles : Respects.OnStore (fun h1 h2 : Host => h1.files = h2.files) :=
    ⟨fun h1 h2 same => by rw [same], fun h1 h2 v same => by simp only [same]⟩
  have answered := (Respects.find sameFiles id h { files := h.files } rfl).1
  rw [looked] at answered
  simp only [storedRule]
  rw [← answered]
  rfl

end Service

/-! ## Resolving and reopening record the change they make -/

namespace Service

variable {s : Service} {scope : String} {h : Host}

/-- Once the server applied a transition to an issue the cache holds, the flag is set in the cache
and the change recorded last, with the rule the cache gives the issue. -/
theorem afterTransition_tallies (s : Service) {path key : String} {taint : Bool} {H : Host} {rule : Value}
    (named : cachedRule H.files path key taint = some rule) {α : Type} (resolved : Bool) (answer : α) :
    Tallies s (s.afterTransition path key taint resolved answer) H (some rule) := by
  unfold afterTransition
  by_cases writable : H.files.Writable path
  · obtain ⟨fs, updated⟩ := (updateResolution_rule_cases named resolved).1 writable
    exact Tallies.bind_ok updated ⟨rfl, rfl⟩ ((Tallies.record s (some rule) _).bind_pure answer)
  · obtain ⟨f, refused⟩ := (updateResolution_rule_cases named resolved).2 writable
    exact Tallies.of_error (by rw [EStateM.run_bind, refused]) (Frame.untallied.refl H)

/-- A key the cache does not hold has no rule in the cache file. -/
theorem cachedRule_uncached {path key : String} {taint : Bool}
    (uncached : (ServerFindings.contains path key taint).run h = .ok false h) :
    cachedRule h.files path key taint = none := by
  cases named : cachedRule h.files path key taint with
  | none => rfl
  | some rule =>
    have held := (contains_iff_cachedRule path key taint h).mpr ⟨rule, named⟩
    rw [uncached] at held
    cases held

theorem changeStatus_tallies (key : String) (status : ResolutionStatus) (taint : Bool) :
    Tallies s (s.changeStatus scope key status taint) h
      ((ScopeCall.changeStatus key status taint).changedRule s scope h.files) := by
  rcases served_or_idle s scope with ⟨b, conn, served⟩ | idle
  swap
  · have noRule : (ScopeCall.changeStatus key status taint).changedRule s scope h.files = none := by
      simp [ScopeCall.changedRule, servedFile_idle idle]
    rcases idle h with ⟨lines, declined⟩ | ⟨f, failed⟩
    · have ran : (s.changeStatus scope key status taint).run h = .ok () { h with logs := h.logs ++ lines } := by
        simp only [changeStatus, EStateM.run_bind, declined]
        rfl
      rw [noRule]
      exact Tallies.of_ok ran ⟨rfl, rfl⟩
    · have ran : (s.changeStatus scope key status taint).run h = .error f h := by
        simp only [changeStatus, EStateM.run_bind, failed]
      exact Tallies.of_error ran (Frame.untallied.refl h)
  rcases text_or_refused b h with ⟨c, p, rfl⟩ | ⟨f, refused⟩
  swap
  · exact Tallies.of_error (changeStatus_unnamed key status taint served refused) (Frame.untallied.refl h)
  rcases Within.same_cases (contains_same (bindingPath c p) key taint) h with ⟨cached, checked⟩ | ⟨f, failed⟩
  swap
  · exact Tallies.of_error (changeStatus_unchecked key status taint served failed) (Frame.untallied.refl h)
  have file := servedFile_served served
  cases cached with
  | true =>
    -- the issue the cache holds changes, with the rule the cache gives it
    obtain ⟨rule, named⟩ := (contains_iff_cachedRule _ key taint h).mp (by rw [checked]; rfl)
    have chosen : (ScopeCall.changeStatus key status taint).changedRule s scope h.files = some rule := by
      simp [ScopeCall.changedRule, file, named]
    rw [chosen]
    exact Tallies.callThen (changeStatus_server key status taint served checked) fun script new =>
      afterTransition_tallies s (H := { h with script, sent := h.sent ++ new }) named true ()
  | false =>
    -- a key the cache does not hold is resolved as a local id when the store has it
    have uncached := cachedRule_uncached checked
    let notFound := Failure.problem (.failed .statusChange s!"Issue key {key} was not found" none)
    cases parsed : asLocalId key with
    | none =>
      have ran : (s.changeStatus scope key status taint).run h = .error notFound h := by
        simp only [changeStatus, EStateM.run_bind, bound?_served served h, bindingFile_text, checked, parsed,
          Bool.false_eq_true, if_false]
        rfl
      exact Tallies.of_error ran (Frame.untallied.refl h)
    | some id =>
      rcases Within.same_cases (find_within (F := .same) id) h with ⟨found, looked⟩ | ⟨f, failed⟩
      swap
      · have ran : (s.changeStatus scope key status taint).run h = .error f h := by
          simp only [changeStatus, EStateM.run_bind, bound?_served served h, bindingFile_text, checked, parsed,
            Bool.false_eq_true, if_false, failed]
        exact Tallies.of_error ran (Frame.untallied.refl h)
      cases found with
      | none =>
        have ran : (s.changeStatus scope key status taint).run h = .error notFound h := by
          simp only [changeStatus, EStateM.run_bind, bound?_served served h, bindingFile_text, checked, parsed,
            Bool.false_eq_true, if_false, looked]
          rfl
        exact Tallies.of_error ran (Frame.untallied.refl h)
      | some g =>
        have chosen : (ScopeCall.changeStatus key status taint).changedRule s scope h.files = some g.ruleKey := by
          simp [ScopeCall.changedRule, file, uncached, parsed, storedRule_found looked]
        rw [chosen]
        -- the resolved set is pushed and the finding stored, then its change recorded
        have ran : (s.changeStatus scope key status taint).run h =
            (do discard (pushResolvedSet conn ⟨.str c, .str p⟩ scope (some (g.resolve status)) [] .statusChange)
                LocalOnly.store scope (g.resolve status)
                s.statusChanged (g.resolve status).ruleKey).run h := by
          simp only [changeStatus, EStateM.run_bind, bound?_served served h, bindingFile_text, checked, parsed,
            Bool.false_eq_true, if_false, looked]
        exact Tallies.shift ran (Frame.untallied.refl h)
          (Tallies.bind_within (Within.discard (pushResolvedSet_untallied _ _ _ _ _ _)) fun _ _ _ =>
            Tallies.bind_within (store_untallied scope _) fun _ _ _ => Tallies.record s (some g.ruleKey) _)

theorem reopen_tallies (key : String) (taint : Bool) :
    Tallies s (s.reopen scope key taint) h ((ScopeCall.reopen key taint).changedRule s scope h.files) := by
  rcases served_or_idle s scope with ⟨b, conn, served⟩ | idle
  swap
  · have noRule : (ScopeCall.reopen key taint).changedRule s scope h.files = none := by
      simp [ScopeCall.changedRule, servedFile_idle idle]
    rcases idle h with ⟨lines, declined⟩ | ⟨f, failed⟩
    · have ran : (s.reopen scope key taint).run h = .ok false { h with logs := h.logs ++ lines } := by
        simp only [reopen, EStateM.run_bind, declined]
        rfl
      rw [noRule]
      exact Tallies.of_ok ran ⟨rfl, rfl⟩
    · have ran : (s.reopen scope key taint).run h = .error f h := by
        simp only [reopen, EStateM.run_bind, failed]
      exact Tallies.of_error ran (Frame.untallied.refl h)
  rcases text_or_refused b h with ⟨c, p, rfl⟩ | ⟨f, refused⟩
  swap
  · exact Tallies.of_error (reopen_unnamed key taint served refused) (Frame.untallied.refl h)
  rcases Within.same_cases (contains_same (bindingPath c p) key taint) h with ⟨cached, checked⟩ | ⟨f, failed⟩
  swap
  · exact Tallies.of_error (reopen_unchecked key taint served failed) (Frame.untallied.refl h)
  have file := servedFile_served served
  cases cached with
  | true =>
    obtain ⟨rule, named⟩ := (contains_iff_cachedRule _ key taint h).mp (by rw [checked]; rfl)
    have chosen : (ScopeCall.reopen key taint).changedRule s scope h.files = some rule := by
      simp [ScopeCall.changedRule, file, named]
    rw [chosen]
    exact Tallies.callThen (reopen_server key taint served checked) fun script new =>
      afterTransition_tallies s (H := { h with script, sent := h.sent ++ new }) named false true
  | false =>
    -- reopening a local finding drops it and records nothing
    have noRule : (ScopeCall.reopen key taint).changedRule s scope h.files = none := by
      simp [ScopeCall.changedRule, file, cachedRule_uncached checked]
    rw [noRule]
    cases parsed : asLocalId key with
    | none => exact Tallies.of_ok (reopen_notLocal key taint served checked parsed) (Frame.untallied.refl h)
    | some id =>
      have ran : (s.reopen scope key taint).run h =
          (do discard (pushResolvedSet conn ⟨.str c, .str p⟩ scope none [id] .statusChange)
              discard (LocalOnly.removeOne id)
              pure true).run h := by
        simp only [reopen, EStateM.run_bind, bound?_served served h, bindingFile_text, checked, parsed,
          Bool.false_eq_true, if_false]
      exact Tallies.shift ran (Frame.untallied.refl h) (Tallies.of_within
        (Within.bind (Within.discard (pushResolvedSet_untallied _ _ _ _ _ _)) fun _ =>
          Within.bind (Within.discard (removeOne_untallied id)) fun _ => Within.of_pure true))

end Service

/-! ## Runs of operations -/

namespace ScopeOp

/-- The rule of the finding whose status an operation on a scope changes when it completes on a
host whose files are `fs`; recording local findings changes none. -/
def changedRule (s : Service) (scope : String) (fs : Files) : ScopeOp → Option Value
  | .call c => c.changedRule s scope fs
  | .record _ => none

/-- Every operation on a scope touches the counter and the event log only by recording, last, the
change it made. -/
theorem perform_tallies (s : Service) (scope : String) (h : Host) :
    ∀ op : ScopeOp, Tallies s (op.perform s scope) h (op.changedRule s scope h.files)
  | .call (.changeStatus key status taint) => Service.changeStatus_tallies key status taint
  | .call (.addComment key text) => Tallies.of_within (Within.untallied_of_reads fun _ logged network files =>
      addComment_respects logged network files.store s scope key text)
  | .call (.reopen key taint) => (Service.reopen_tallies key taint).discard
  | .call (.reopenAll path) => Tallies.of_within (Within.discard (Within.untallied_of_reads
      fun _ logged network files => reopenAll_respects logged network files.store s scope path))
  | .call .resync => Tallies.of_within (Within.discard (Within.untallied_of_reads
      fun _ logged network files => resync_respects logged network files.store s scope))
  | .record findings => Tallies.of_within (Within.discard (Within.untallied_of_reads
      fun _ logged _ files => recordLocalOnly_respects logged files.store s scope findings))

end ScopeOp

/-- An operation of the service: one on a scope, or a question or a replacement of the cache,
which change no status. -/
inductive Operation
  | onScope (scope : String) (op : ScopeOp)
  | checkPermission (connection key : String)
  | checkAnticipated (scope : String)
  | replaceServerFindings (scope : String) (metas : List FindingMeta)

namespace Operation

/-- Runs an operation of a service; what it answers is dropped. -/
def perform (s : Service) : Operation → Run Unit
  | .onScope scope op => op.perform s scope
  | .checkPermission connection key => discard (s.checkPermission connection key)
  | .checkAnticipated scope => discard (s.checkAnticipated scope)
  | .replaceServerFindings scope metas => discard (s.replaceServerFindings scope metas)

/-- The rule of the finding whose status an operation changes when it completes on a host whose
files are `fs`. -/
def changedRule (s : Service) (fs : Files) : Operation → Option Value
  | .onScope scope op => op.changedRule s scope fs
  | _ => none

theorem perform_tallies (s : Service) (h : Host) :
    ∀ op : Operation, Tallies s (op.perform s) h (op.changedRule s h.files)
  | .onScope scope op => op.perform_tallies s scope h
  | .checkPermission connection key => Tallies.of_within (Within.discard (Within.untallied_of_reads
      fun _ logged network files => checkPermission_respects logged network files s connection key))
  | .checkAnticipated scope => Tallies.of_within (Within.discard (Within.untallied_of_reads
      fun _ logged _ files => checkAnticipated_respects logged files s scope))
  | .replaceServerFindings scope metas => Tallies.of_within (Within.discard (Within.untallied_of_reads
      fun _ _ _ files => replaceServerFindings_respects files s scope metas))

/-- Whether running an operation from `h` completes having changed the status of a finding of
rule `r`. -/
def changes (s : Service) (op : Operation) (h : Host) (r : String) : Bool :=
  match (op.perform s).run h with
  | .ok _ _ => (op.changedRule s h.files).any (·.equal (.str r))
  | .error _ _ => false

end Operation

/-- Runs operations one after another, each from the host the one before left, whether it
completed or failed. -/
def runAll (s : Service) : List Operation → Host → Host
  | [], h => h
  | op :: rest, h => runAll s rest (resultHost ((op.perform s).run h))

/-- How many operations of a run complete having changed the status of a finding of rule `r`. -/
def changesOf (s : Service) (r : String) : List Operation → Host → Nat
  | [], _ => 0
  | op :: rest, h => (if op.changes s h r then 1 else 0) + changesOf s r rest (resultHost ((op.perform s).run h))

/-- With telemetry, an operation adds one to the count of `r` exactly when it completes having
changed the status of a finding of rule `r`. -/
theorem changeCount_perform {s : Service} (telemetry : s.telemetry = true) (counted : s.counted = true)
    (op : Operation) (h : Host) (r : String) :
    changeCount (resultHost ((op.perform s).run h)).statusChanges r =
      changeCount h.statusChanges r + if op.changes s h r then 1 else 0 := by
  have tallies := op.perform_tallies s h
  unfold Operation.changes
  cases ran : (op.perform s).run h with
  | ok a h' => simpa [resultHost, telemetry, counted] using tallies.changeCount_ok ran r
  | error f h' => simp [resultHost, (tallies.untallied_error ran).1]

/-- With telemetry, a run adds to the count of every rule the number of its operations that
completed having changed the status of a finding of that rule. -/
theorem changeCount_runAll {s : Service} (telemetry : s.telemetry = true) (counted : s.counted = true)
    (ops : List Operation) (h : Host) (r : String) :
    changeCount (runAll s ops h).statusChanges r = changeCount h.statusChanges r + changesOf s r ops h := by
  induction ops generalizing h with
  | nil => rfl
  | cons op rest ih =>
    rw [runAll, changesOf, ih, changeCount_perform telemetry counted op h r]
    omega

/-- Without telemetry, a run leaves the counter and the event log as they were. -/
theorem runAll_off {s : Service} (off : s.telemetry = false) (ops : List Operation) (h : Host) :
    Frame.untallied.rel h (runAll s ops h) := by
  induction ops generalizing h with
  | nil => exact Frame.untallied.refl h
  | cons op rest ih => exact Frame.untallied.trans ((op.perform_tallies s h).untallied_off off) (ih _)

/-! ## The event log never changes what an operation does -/

/-- Two hosts alike in all but their log lines and event logs, and whether those can be written:
the same files, server, requests and counter. -/
structure SameButLogs (h1 h2 : Host) : Prop where
  files : h1.files = h2.files
  spare : h1.spare = h2.spare
  script : h1.script = h2.script
  fleet : h1.fleet = h2.fleet
  sent : h1.sent = h2.sent
  statusChanges : h1.statusChanges = h2.statusChanges

namespace SameButLogs

theorem logged : Respects.Logged SameButLogs := fun _ _ _ same =>
  ⟨same.files, same.spare, same.script, same.fleet, same.sent, same.statusChanges⟩

theorem network : Respects.OnNetwork SameButLogs where
  sameServer _ _ same := ⟨same.script, same.fleet⟩
  recorded _ _ _ _ same := ⟨same.files, same.spare, rfl, same.fleet, by rw [same.sent], same.statusChanges⟩

theorem onFiles : OnFiles SameButLogs where
  sameFiles _ _ same := same.files
  written _ _ _ _ same := ⟨by rw [same.files], same.spare, same.script, same.fleet, same.sent, same.statusChanges⟩

end SameButLogs

theorem countChange_sameButLogs (rule : Value) : Respects SameButLogs (Run.countChange rule) := by
  intro h1 h2 same
  refine ⟨rfl, ?_⟩
  simp only [Run.countChange, EStateM.run_modify, resultHost]
  exact ⟨same.files, same.spare, same.script, same.fleet, same.sent, by rw [same.statusChanges]⟩

/-- Appending an event answers alike whether the event log can be written or not: a failure is
logged instead. -/
theorem recordEvent_sameButLogs (event : Value) (line : Failure → String) :
    Respects SameButLogs (tryCatch (Run.appendEvent event) fun f => Run.log (line f)) := by
  intro h1 h2 same
  have kept : SameButLogs h1 h2 := same
  rw [Run.tryCatch_run, Run.tryCatch_run]
  unfold Run.appendEvent
  cases blocked1 : h1.eventsBlocked <;> cases blocked2 : h2.eventsBlocked <;>
    simp only [EStateM.run_bind, EStateM.run_get, blocked1, blocked2, Bool.false_eq_true, if_false, if_true,
      EStateM.run_modify, Run.fail_run, Run.log] <;>
    exact ⟨rfl, kept.files, kept.spare, kept.script, kept.fleet, kept.sent, kept.statusChanges⟩

theorem statusChanged_sameButLogs (s : Service) (rule : Value) : Respects SameButLogs (s.statusChanged rule) := by
  unfold Service.statusChanged
  split
  · exact Respects.of_pure _
  · dsimp only
    split
    · exact Respects.bind (countChange_sameButLogs rule) fun _ => recordEvent_sameButLogs _ _
    · exact recordEvent_sameButLogs _ _

/-- The transition a resolution or reopening asks the server for. -/
theorem transition_sameButLogs (conn : Connection) (key code : String) (stage : FailedStage) (message : String) :
    Respects SameButLogs (Service.failedWith stage message (doTransition conn key code)) :=
  failedWith_respects stage message (Respects.discard (Respects.call SameButLogs.network _ _ _ _ _))

theorem changeStatus_sameButLogs (s : Service) (scope key : String) (status : ResolutionStatus) (taint : Bool) :
    Respects SameButLogs (s.changeStatus scope key status taint) := by
  unfold Service.changeStatus
  refine Respects.bind (bound?_respects s scope SameButLogs.logged) fun bound => ?_
  rcases bound with _ | ⟨b, conn⟩
  · exact Respects.of_pure _
  refine Respects.bind (bindingFile_respects b) fun file => ?_
  refine Respects.bind (contains_respects SameButLogs.onFiles file key taint) fun cached => ?_
  cases cached
  · -- a local finding: found, pushed and stored, then its change recorded
    simp only [Bool.false_eq_true, if_false]
    split
    · refine Respects.bind (Respects.find SameButLogs.onFiles.store _) fun found => ?_
      split
      · exact Respects.bind (Respects.discard (pushResolvedSet_respects SameButLogs.network SameButLogs.onFiles.store
          conn b scope _ [] _)) fun _ => Respects.bind (Respects.storeOne SameButLogs.onFiles.store scope _) fun _ =>
            statusChanged_sameButLogs s _
      · exact Respects.fail _
    · exact Respects.fail _
  · -- the server's issue: the transition, the flag in the cache, then the change recorded
    refine Respects.bind (transition_sameButLogs conn key _ _ _) fun _ => ?_
    refine Respects.bind (updateResolution_respects SameButLogs.onFiles file key taint true) fun updated => ?_
    split
    · exact Respects.bind (statusChanged_sameButLogs s _) fun _ => Respects.of_pure _
    · exact Respects.of_pure _

theorem reopen_sameButLogs (s : Service) (scope key : String) (taint : Bool) :
    Respects SameButLogs (s.reopen scope key taint) := by
  unfold Service.reopen
  refine Respects.bind (bound?_respects s scope SameButLogs.logged) fun bound => ?_
  rcases bound with _ | ⟨b, conn⟩
  · exact Respects.of_pure _
  refine Respects.bind (bindingFile_respects b) fun file => ?_
  refine Respects.bind (contains_respects SameButLogs.onFiles file key taint) fun cached => ?_
  cases cached
  · -- a local id: dropped from the pushed set and from the store
    simp only [Bool.false_eq_true, if_false]
    split
    · exact Respects.bind (Respects.discard (pushResolvedSet_respects SameButLogs.network SameButLogs.onFiles.store
        conn b scope none _ _)) fun _ =>
          Respects.bind (Respects.discard (Respects.removeOne SameButLogs.onFiles.store _)) fun _ =>
            Respects.of_pure _
    · exact Respects.of_pure _
  · refine Respects.bind (transition_sameButLogs conn key _ _ _) fun _ => ?_
    refine Respects.bind (updateResolution_respects SameButLogs.onFiles file key taint false) fun updated => ?_
    split
    · exact Respects.bind (statusChanged_sameButLogs s _) fun _ => Respects.of_pure _
    · exact Respects.of_pure _

/-- What an operation on a scope answers, and what it leaves of the files, the server, the requests
and the counter, is the same whatever the log lines and the event log hold and whether they can
be written. -/
theorem ScopeOp.perform_sameButLogs (s : Service) (scope : String) :
    ∀ op : ScopeOp, Respects SameButLogs (op.perform s scope)
  | .call (.changeStatus key status taint) => changeStatus_sameButLogs s scope key status taint
  | .call (.addComment key text) =>
    addComment_respects SameButLogs.logged SameButLogs.network SameButLogs.onFiles.store s scope key text
  | .call (.reopen key taint) => Respects.discard (reopen_sameButLogs s scope key taint)
  | .call (.reopenAll path) =>
    Respects.discard (reopenAll_respects SameButLogs.logged SameButLogs.network SameButLogs.onFiles.store s scope path)
  | .call .resync =>
    Respects.discard (resync_respects SameButLogs.logged SameButLogs.network SameButLogs.onFiles.store s scope)
  | .record findings =>
    Respects.discard (recordLocalOnly_respects SameButLogs.logged SameButLogs.onFiles.store s scope findings)

/-- The same holds of every operation of the service. -/
theorem Operation.perform_sameButLogs (s : Service) : ∀ op : Operation, Respects SameButLogs (op.perform s)
  | .onScope scope op => op.perform_sameButLogs s scope
  | .checkPermission connection key => Respects.discard
    (checkPermission_respects SameButLogs.logged SameButLogs.network SameButLogs.onFiles s connection key)
  | .checkAnticipated scope =>
    Respects.discard (checkAnticipated_respects SameButLogs.logged SameButLogs.onFiles s scope)
  | .replaceServerFindings scope metas =>
    Respects.discard (replaceServerFindings_respects SameButLogs.onFiles s scope metas)

/-- Counting status changes over every run of operations of a service. With telemetry, a run adds
to the counter of each rule the number of its operations that completed having changed the status
of a finding of that rule (`Operation.changes`): resolving or reopening an issue the cache of the
scope's binding holds, under the rule the cache gives it, or resolving a stored local finding.
A failed operation leaves the counter and the event log as they were. What an operation answers,
and what it leaves of the files, the server, the requests and the counter, does not depend on the
log lines or the event log, nor on whether they can be written. Without telemetry, the counter and
the event log stay as they were. -/
theorem telemetry_counts_completed_changes (s : Service) :
    (s.telemetry = true → s.counted = true → ∀ ops h r,
      changeCount (runAll s ops h).statusChanges r = changeCount h.statusChanges r + changesOf s r ops h) ∧
    (∀ (op : Operation) h f h', (op.perform s).run h = .error f h' →
      h'.statusChanges = h.statusChanges ∧ h'.events = h.events) ∧
    (∀ op : Operation, Respects SameButLogs (op.perform s)) ∧
    (s.telemetry = false → ∀ ops h,
      (runAll s ops h).statusChanges = h.statusChanges ∧ (runAll s ops h).events = h.events) :=
  ⟨fun telemetry counted => changeCount_runAll telemetry counted,
    fun op h _ _ failed => (op.perform_tallies s h).untallied_error failed,
    Operation.perform_sameButLogs s,
    fun off => runAll_off off⟩

/-- A service with telemetry and no scopes. -/
def countingService : Service := { scopes := [], connections := [] }

/-- A resync of a scope the service does not bind changes no status, so the counter stays empty. -/
theorem unbound_resync_counts_nothing :
    countingService.telemetry = true ∧ countingService.counted = true ∧
      changesOf countingService "java:S100" [.onScope "S" (.call .resync)] {} = 0 ∧
      changeCount (runAll countingService [.onScope "S" (.call .resync)] {}).statusChanges "java:S100" = 0 := by
  have counted := (telemetry_counts_completed_changes countingService).1 rfl rfl
    [.onScope "S" (.call .resync)] {} "java:S100"
  have nothing : changesOf countingService "java:S100" [.onScope "S" (.call .resync)] {} = 0 := by decide
  exact ⟨rfl, rfl, nothing, by rw [counted, nothing]; rfl⟩

end IssueSync
