import IssueSync.Proofs.Service

/-!
# The routes of each operation on a scope

Every operation on a key of a scope takes one of a few routes, decided in an order of its own:
whether the scope has a live connection, whether the cache of server findings holds the key,
whether the key reads as the id of a local finding, whether that finding is stored and resolved.
Each lemma here follows one route to its end: nothing done, a call of the server followed by a
quiet tail (`CallThen`), a push of a resolved set followed by a change of the local store
(`PushThen`), or a failure named by the operation.
-/

set_option autoImplicit false

namespace IssueSync

open IssueSync.Store IssueSync.Remote

/-- The finding with the comment of its resolution replaced by a text; an unresolved finding is
left as it is. -/
def LocalFinding.withComment (g : LocalFinding) (text : String) : LocalFinding :=
  { g with resolution := g.resolution.map fun r => { r with comment := .str text } }

theorem LocalFinding.withComment_of_resolution {g : LocalFinding} {r : LocalResolution}
    (resolvedAs : g.resolution = some r) (text : String) :
    g.withComment text = { g with resolution := some { r with comment := .str text } } := by
  simp [LocalFinding.withComment, resolvedAs]

theorem LocalFinding.Faithful.withComment {g : LocalFinding} {r : LocalResolution} (faithful : g.Faithful)
    (resolvedAs : g.resolution = some r) (text : String) : (g.withComment text).Faithful := by
  rw [LocalFinding.withComment_of_resolution resolvedAs]
  exact faithful.comment resolvedAs (.str text)

namespace Service

/-- What follows a transition the server applied: the cached issue is marked, and the change of
an issue the cache held is recorded. -/
def afterTransition {α : Type} (s : Service) (path key : String) (taint resolved : Bool) (answer : α) :
    Run α := do
  if let some m ← ServerFindings.updateResolution path key taint resolved then
    s.statusChanged m.ruleKey
  return answer

theorem afterTransition_quiet {α : Type} (s : Service) {path : String} (apart : Apart path localOnlyPath)
    (key : String) (taint resolved : Bool) (answer : α) :
    Within .quiet (s.afterTransition path key taint resolved answer) := by
  unfold afterTransition
  refine Within.bind (updateResolution_quiet apart key taint resolved) fun m? => ?_
  split
  · exact Within.bind (statusChanged_quiet s _) fun _ => Within.of_pure _
  · exact Within.of_pure _

theorem failedWith_callThen_last {h : Host} {remote : Run Unit} {req : Request}
    (answered : Answered remote h req) (stage : FailedStage) (message : String) :
    CallThen (failedWith stage message remote) h remote req stage message (pure ()) := by
  refine (failedWith_callThen answered stage message fun _ => pure ()).congr ?_
  simp only [EStateM.run_bind]
  cases (failedWith stage message remote).run h <;> rfl

variable {s : Service} {scope : String} {b : Binding} {conn : Connection} {h : Host} {st : LocalStore}

/-! ## What an operation does once the server took its push -/

/-- From any host whose local store holds `st`, `rest` returns without sending anything, and
leaves the local store holding `st'`. -/
def Settles {α : Type} (rest : Run α) (st st' : LocalStore) : Prop :=
  ∀ H, LocalOnly.Holds H.files st →
    ∃ a H', rest.run H = .ok a H' ∧ H'.sent = H.sent ∧ LocalOnly.Holds H'.files st'

section Settles

variable {α β : Type} {st' st'' : LocalStore}

theorem Settles.bind {m : Run α} {k : α → Run β} (first : Settles m st st')
    (rest : ∀ a, Settles (k a) st' st'') : Settles (m >>= k) st st'' := by
  intro H holds
  obtain ⟨a, H1, ran, sent1, holds1⟩ := first H holds
  obtain ⟨b, H2, ran', sent2, holds2⟩ := rest a H1 holds1
  refine ⟨b, H2, ?_, sent2.trans sent1, holds2⟩
  rw [EStateM.run_bind, ran]
  exact ran'

theorem settles_of_quiet {m : Run α} (quiet : Within .quiet m) (returns : ∀ H, ∃ a H', m.run H = .ok a H') :
    Settles m st st := by
  intro H holds
  obtain ⟨a, H', ran⟩ := returns H
  have kept := quiet H
  rw [ran] at kept
  exact ⟨a, H', ran, kept.1, LocalOnly.holds_of_kept kept.2 holds⟩

theorem settles_pure (a : α) : Settles (pure a : Run α) st st :=
  settles_of_quiet (Within.of_pure a) fun H => ⟨a, H, rfl⟩

theorem settles_log (line : String) : Settles (Run.log line) st st :=
  settles_of_quiet (Within.log line) fun _ => ⟨(), _, rfl⟩

theorem settles_statusChanged (s : Service) (rule : Value) : Settles (s.statusChanged rule) st st :=
  settles_of_quiet (statusChanged_quiet s rule) fun H =>
    let ⟨H', ran⟩ := statusChanged_returns s rule H
    ⟨(), H', ran⟩

theorem settles_store (scope : String) {f : LocalFinding} (faithful : f.Faithful) :
    Settles (LocalOnly.store scope f) st (st.put { f with scopeId := .str scope } (faithful.withScope _)) := by
  intro H holds
  obtain ⟨fs, ran, holdsAfter⟩ := LocalOnly.store_run holds scope f faithful
  exact ⟨(), _, ran, rfl, holdsAfter⟩

theorem settles_removeOne (id : Uuid) : Settles (discard (LocalOnly.removeOne id)) st (st.erase id) := by
  intro H holds
  obtain ⟨removed, fs, ran, holdsAfter⟩ := LocalOnly.removeOne_run holds id
  exact ⟨(), { H with files := fs }, by rw [Run.discard_run, ran], rfl, holdsAfter⟩

theorem PushThen.holds_after {m rest : Run α} {a : α} {h' : Host} {rs : List LocalFinding}
    {stage : FailedStage} (push : PushThen m h conn b rs stage rest) (holds : LocalOnly.Holds h.files st)
    (settles : Settles rest st st') (completed : m.run h = .ok a h') : LocalOnly.Holds h'.files st' := by
  obtain ⟨es, -, script, new, -, ⟨-, ran⟩ | ⟨p, -, failed⟩⟩ := push
  · obtain ⟨a', H', settled, -, holdsAfter⟩ := settles { h with script, sent := h.sent ++ new } holds
    rw [ran, settled] at completed
    cases completed
    exact holdsAfter
  · rw [failed] at completed
    cases completed

theorem CallThen.holds_after {m rest : Run α} {a : α} {h' : Host} {remote : Run Unit} {req : Request}
    {stage : FailedStage} {message : String} (call : CallThen m h remote req stage message rest)
    (quiet : Within .quiet rest) (holds : LocalOnly.Holds h.files st) (completed : m.run h = .ok a h') :
    LocalOnly.Holds h'.files st := by
  obtain ⟨script, new, -, ⟨-, ran⟩ | ⟨p, -, failed⟩⟩ := call
  · rw [ran] at completed
    have kept := quiet { h with script, sent := h.sent ++ new }
    rw [completed] at kept
    exact LocalOnly.holds_of_kept kept.2 holds
  · rw [failed] at completed
    cases completed

end Settles

/-! ## Resolving -/

section ChangeStatus

variable (key : String) (status : ResolutionStatus) (taint : Bool)

theorem changeStatus_unserved (unserved : s.Unserved scope) (h : Host) :
    ∃ lines, (s.changeStatus scope key status taint).run h = .ok () { h with logs := h.logs ++ lines } := by
  obtain ⟨lines, bound⟩ := bound?_unserved unserved h
  exact ⟨lines, by simp only [changeStatus, EStateM.run_bind, bound]; rfl⟩

theorem changeStatus_unnamed (serves : s.Serves scope b conn) {f : Failure}
    (refused : (bindingFile b).run h = .error f h) :
    (s.changeStatus scope key status taint).run h = .error f h := by
  simp only [changeStatus, EStateM.run_bind, bound?_served serves h, refused]

theorem changeStatus_unchecked {c p : String} (serves : s.Serves scope ⟨.str c, .str p⟩ conn) {f : Failure}
    {h1 : Host} (failed : (ServerFindings.contains (bindingPath c p) key taint).run h = .error f h1) :
    (s.changeStatus scope key status taint).run h = .error f h1 := by
  simp only [changeStatus, EStateM.run_bind, bound?_served serves h, bindingFile_text, failed]

theorem changeStatus_server {c p : String} (serves : s.Serves scope ⟨.str c, .str p⟩ conn)
    (cached : (ServerFindings.contains (bindingPath c p) key taint).run h = .ok true h) :
    CallThen (s.changeStatus scope key status taint) h
      (doTransition conn key status.transition.code) (transitionRequest conn key status.transition.code)
      .statusChange s!"Could not change status of issue {key}"
      (s.afterTransition (bindingPath c p) key taint true ()) := by
  have answered := doTransition_answered conn key status.transition.code h
  refine (failedWith_callThen answered _ _ fun _ => s.afterTransition (bindingPath c p) key taint true ()).congr ?_
  simp only [changeStatus, EStateM.run_bind, bound?_served serves h, bindingFile_text, cached, if_true]
  rfl

theorem changeStatus_notFound {c p : String} (serves : s.Serves scope ⟨.str c, .str p⟩ conn)
    (holds : LocalOnly.Holds h.files st)
    (uncached : (ServerFindings.contains (bindingPath c p) key taint).run h = .ok false h)
    (unknown : ∀ id, asLocalId key = some id → st.findings.find? (·.id == id) = none) :
    (s.changeStatus scope key status taint).run h =
      .error (.problem (.failed .statusChange s!"Issue key {key} was not found" none)) h := by
  simp only [changeStatus, EStateM.run_bind, bound?_served serves h, bindingFile_text, uncached,
    Bool.false_eq_true, if_false]
  cases parsed : asLocalId key with
  | none => rfl
  | some id =>
    simp only [EStateM.run_bind, LocalOnly.find_run holds, unknown id parsed]
    rfl

theorem changeStatus_local {c p : String} (serves : s.Serves scope ⟨.str c, .str p⟩ conn)
    (holds : LocalOnly.Holds h.files st)
    (uncached : (ServerFindings.contains (bindingPath c p) key taint).run h = .ok false h)
    {id : Uuid} (parsed : asLocalId key = some id) {g : LocalFinding}
    (stored : st.findings.find? (·.id == id) = some g) :
    PushThen (s.changeStatus scope key status taint) h conn ⟨.str c, .str p⟩
      (resolvedSet (st.findings.filter (·.inScope scope)) (some (g.resolve status)) []) .statusChange
      (do LocalOnly.store scope (g.resolve status); s.statusChanged (g.resolve status).ruleKey) := by
  refine (pushResolvedSet_discard_then holds (some (g.resolve status)) [] .statusChange
    (do LocalOnly.store scope (g.resolve status); s.statusChanged (g.resolve status).ruleKey)).congr ?_
  simp only [changeStatus, EStateM.run_bind, bound?_served serves h, bindingFile_text, uncached, parsed,
    Bool.false_eq_true, if_false, LocalOnly.find_run holds, stored]

end ChangeStatus

/-! ## Commenting -/

section Comment

variable (text : String)

theorem commentLocalOnly_unserved (unserved : s.Unserved scope) (id : Uuid) (h : Host) :
    ∃ lines, (s.commentLocalOnly scope id text).run h = .ok false { h with logs := h.logs ++ lines } := by
  obtain ⟨lines, bound⟩ := bound?_unserved unserved h
  exact ⟨lines, by simp only [commentLocalOnly, EStateM.run_bind, bound]; rfl⟩

theorem commentLocalOnly_unresolved (serves : s.Serves scope b conn) (holds : LocalOnly.Holds h.files st)
    (id : Uuid) (unresolved : ∀ g, st.findings.find? (·.id == id) = some g → g.resolution = none) :
    (s.commentLocalOnly scope id text).run h = .ok false h := by
  simp only [commentLocalOnly, EStateM.run_bind, bound?_served serves h, LocalOnly.find_run holds]
  cases stored : st.findings.find? (·.id == id) with
  | none => rfl
  | some g =>
    simp only [unresolved g stored]
    rfl

theorem commentLocalOnly_resolved (serves : s.Serves scope b conn) (holds : LocalOnly.Holds h.files st)
    (id : Uuid) {g : LocalFinding} (stored : st.findings.find? (·.id == id) = some g)
    {r : LocalResolution} (resolvedAs : g.resolution = some r) :
    PushThen (s.commentLocalOnly scope id text) h conn b
      (resolvedSet (st.findings.filter (·.inScope scope)) (some (g.withComment text)) []) .comment
      (do LocalOnly.store scope (g.withComment text); pure true) := by
  refine (pushResolvedSet_discard_then holds (some (g.withComment text)) [] .comment
    (do LocalOnly.store scope (g.withComment text); pure true)).congr ?_
  simp only [commentLocalOnly, EStateM.run_bind, bound?_served serves h, LocalOnly.find_run holds, stored,
    resolvedAs, LocalFinding.withComment_of_resolution resolvedAs]

theorem addComment_unserved (unserved : s.Unserved scope) (key : String) (h : Host) :
    ∃ lines, (s.addComment scope key text).run h = .ok () { h with logs := h.logs ++ lines } := by
  cases parsed : asLocalId key with
  | none =>
    obtain ⟨lines, bound⟩ := bound?_unserved unserved h
    exact ⟨lines, by simp only [addComment, parsed, EStateM.run_bind, bound]; rfl⟩
  | some id =>
    -- the local attempt finds no connection, and neither does the server route after it
    obtain ⟨lines, declined⟩ := commentLocalOnly_unserved text unserved id h
    obtain ⟨more, bound⟩ := bound?_unserved unserved { h with logs := h.logs ++ lines }
    refine ⟨lines ++ more, ?_⟩
    simp only [addComment, parsed, EStateM.run_bind, declined, Bool.false_eq_true, if_false]
    rw [bound]
    simp

theorem addComment_local (serves : s.Serves scope b conn) (holds : LocalOnly.Holds h.files st)
    {key : String} {id : Uuid} (parsed : asLocalId key = some id) {g : LocalFinding}
    (stored : st.findings.find? (·.id == id) = some g) {r : LocalResolution}
    (resolvedAs : g.resolution = some r) :
    PushThen (s.addComment scope key text) h conn b
      (resolvedSet (st.findings.filter (·.inScope scope)) (some (g.withComment text)) []) .comment
      (LocalOnly.store scope (g.withComment text)) := by
  obtain ⟨entries, encoded, script, new, hops, took | refused⟩ :=
    commentLocalOnly_resolved text serves holds id stored resolvedAs
  · obtain ⟨pushed, commented⟩ := took
    refine ⟨entries, encoded, script, new, hops, .inl ⟨pushed, ?_⟩⟩
    simp only [addComment, parsed, EStateM.run_bind, commented]
    cases (LocalOnly.store scope (g.withComment text)).run { h with script, sent := h.sent ++ new } <;> rfl
  · obtain ⟨p, pushed, failed⟩ := refused
    refine ⟨entries, encoded, script, new, hops, .inr ⟨p, pushed, ?_⟩⟩
    simp only [addComment, parsed, EStateM.run_bind, failed]

theorem addComment_server (serves : s.Serves scope b conn) (holds : LocalOnly.Holds h.files st)
    (key : String)
    (notLocal : ∀ id, asLocalId key = some id →
      ∀ g, st.findings.find? (·.id == id) = some g → g.resolution = none) :
    CallThen (s.addComment scope key text) h (Remote.addComment conn key text)
      (commentRequest conn key text) .comment s!"Could not add comment to issue {key}" (pure ()) := by
  refine (failedWith_callThen_last (addComment_answered conn key text h) .comment _).congr ?_
  cases parsed : asLocalId key with
  | none => simp only [addComment, parsed, EStateM.run_bind, bound?_served serves h]
  | some id =>
    have declined := commentLocalOnly_unresolved text serves holds id (notLocal id parsed)
    simp only [addComment, parsed, EStateM.run_bind, declined, Bool.false_eq_true, if_false,
      bound?_served serves h]

end Comment

/-! ## Reopening -/

section Reopen

variable (key : String) (taint : Bool)

theorem reopen_unserved (unserved : s.Unserved scope) (h : Host) :
    ∃ lines, (s.reopen scope key taint).run h = .ok false { h with logs := h.logs ++ lines } := by
  obtain ⟨lines, bound⟩ := bound?_unserved unserved h
  exact ⟨lines, by simp only [reopen, EStateM.run_bind, bound]; rfl⟩

theorem reopen_unnamed (serves : s.Serves scope b conn) {f : Failure}
    (refused : (bindingFile b).run h = .error f h) :
    (s.reopen scope key taint).run h = .error f h := by
  simp only [reopen, EStateM.run_bind, bound?_served serves h, refused]

theorem reopen_unchecked {c p : String} (serves : s.Serves scope ⟨.str c, .str p⟩ conn) {f : Failure}
    {h1 : Host} (failed : (ServerFindings.contains (bindingPath c p) key taint).run h = .error f h1) :
    (s.reopen scope key taint).run h = .error f h1 := by
  simp only [reopen, EStateM.run_bind, bound?_served serves h, bindingFile_text, failed]

theorem reopen_server {c p : String} (serves : s.Serves scope ⟨.str c, .str p⟩ conn)
    (cached : (ServerFindings.contains (bindingPath c p) key taint).run h = .ok true h) :
    CallThen (s.reopen scope key taint) h
      (doTransition conn key Transition.reopen.code) (transitionRequest conn key Transition.reopen.code)
      .statusChange s!"Could not reopen issue {key}"
      (s.afterTransition (bindingPath c p) key taint false true) := by
  have answered := doTransition_answered conn key Transition.reopen.code h
  refine (failedWith_callThen answered _ _ fun _ => s.afterTransition (bindingPath c p) key taint false true).congr ?_
  simp only [reopen, EStateM.run_bind, bound?_served serves h, bindingFile_text, cached, if_true]
  rfl

theorem reopen_notLocal {c p : String} (serves : s.Serves scope ⟨.str c, .str p⟩ conn)
    (uncached : (ServerFindings.contains (bindingPath c p) key taint).run h = .ok false h)
    (parsed : asLocalId key = none) :
    (s.reopen scope key taint).run h = .ok false h := by
  simp only [reopen, EStateM.run_bind, bound?_served serves h, bindingFile_text, uncached,
    Bool.false_eq_true, if_false, parsed]
  rfl

theorem reopen_local {c p : String} (serves : s.Serves scope ⟨.str c, .str p⟩ conn)
    (holds : LocalOnly.Holds h.files st)
    (uncached : (ServerFindings.contains (bindingPath c p) key taint).run h = .ok false h)
    {id : Uuid} (parsed : asLocalId key = some id) :
    PushThen (s.reopen scope key taint) h conn ⟨.str c, .str p⟩
      (resolvedSet (st.findings.filter (·.inScope scope)) none [id]) .statusChange
      (do discard (LocalOnly.removeOne id); pure true) := by
  refine (pushResolvedSet_discard_then holds none [id] .statusChange
    (do discard (LocalOnly.removeOne id); pure true)).congr ?_
  simp only [reopen, EStateM.run_bind, bound?_served serves h, bindingFile_text, uncached, parsed,
    Bool.false_eq_true, if_false]

/-- The line `reopenAll` logs once it dropped a file's findings. -/
def removedLine (scope : String) (path : Value) (removed : Nat) : String :=
  s!"reopen_all: removed {removed} local-only findings for {scope}:{path.display}"

theorem reopenAll_unserved (unserved : s.Unserved scope) (holds : LocalOnly.Holds h.files st) (path : Value) :
    ∃ fs lines, (s.reopenAll scope path).run h = .ok true { h with files := fs, logs := h.logs ++ lines } ∧
      LocalOnly.Holds fs (st.dropFile scope path) := by
  obtain ⟨lines, bound⟩ := bound?_unserved unserved h
  have holdsLogged : LocalOnly.Holds { h with logs := h.logs ++ lines }.files st := holds
  obtain ⟨removed, fs, dropped, holdsAfter⟩ := LocalOnly.removeForPath_run holdsLogged scope path
  refine ⟨fs, lines ++ [removedLine scope path removed], ?_, holdsAfter⟩
  simp only [reopenAll, EStateM.run_bind, bound]
  rw [dropped, ← List.append_assoc]
  rfl

/-- With a live connection, `reopenAll` pushes the scope's resolved set without the file's
findings, drops them from the store whether the server took the push or not, and succeeds. -/
theorem reopenAll_served (serves : s.Serves scope b conn) (holds : LocalOnly.Holds h.files st) (path : Value) :
    let forFile := (st.findings.filter (·.inScope scope)).filter (·.filePath.equal path)
    let resolved := resolvedSet (st.findings.filter (·.inScope scope)) none (forFile.map (·.id))
    ∃ entries, resolved.mapM LocalFinding.anticipatedTransition = .ok entries ∧
      ∃ script new, Hops (pushRequest conn b.projectKey entries) (new.map Sent.request) ∧
        ((anticipatedTransitions conn b.projectKey resolved).run h =
            .ok () { h with script, sent := h.sent ++ new } ∨
          ∃ p, (anticipatedTransitions conn b.projectKey resolved).run h =
            .error (.problem p) { h with script, sent := h.sent ++ new }) ∧
        ∃ fs lines, (s.reopenAll scope path).run h =
            .ok true { h with script, sent := h.sent ++ new, files := fs, logs := h.logs ++ lines } ∧
          LocalOnly.Holds fs (st.dropFile scope path) := by
  intro forFile resolved
  have push : PushThen (discard (pushResolvedSet conn b scope none (forFile.map (·.id)) .statusChange))
      h conn b resolved .statusChange (pure ()) := by
    simpa only [bind_pure_unit] using pushResolvedSet_discard_then holds none (forFile.map (·.id))
      .statusChange (pure ())
  obtain ⟨entries, encoded, script, new, hops, pushed⟩ := push
  refine ⟨entries, encoded, script, new, hops, ?_⟩
  simp only [forFile] at pushed
  rcases pushed with ⟨answered, took⟩ | ⟨p, answered, refused⟩
  · have holdsPushed : LocalOnly.Holds { h with script, sent := h.sent ++ new }.files st := holds
    obtain ⟨removed, fs, dropped, holdsAfter⟩ := LocalOnly.removeForPath_run holdsPushed scope path
    refine ⟨.inl answered, fs, [removedLine scope path removed], ?_, holdsAfter⟩
    simp only [reopenAll, EStateM.run_bind, bound?_served serves h, LocalOnly.loadForPath_run holds,
      Run.tryCatch_run, took, EStateM.run_pure]
    rw [dropped]
    rfl
  · -- a refused push is logged, and the file's findings are dropped all the same
    let failure := Failure.problem (.failed .statusChange (pushMessage b) (some p))
    let pushLine :=
      s!"reopen_all: push for {scope}:{path.display} failed, cleaning up locally anyway: {failure.message}"
    have holdsLogged : LocalOnly.Holds
        { h with script, sent := h.sent ++ new, logs := h.logs ++ [pushLine] }.files st := holds
    obtain ⟨removed, fs, dropped, holdsAfter⟩ := LocalOnly.removeForPath_run holdsLogged scope path
    refine ⟨.inr ⟨p, answered⟩, fs, [pushLine, removedLine scope path removed], ?_, holdsAfter⟩
    simp only [pushLine, failure] at dropped
    simp only [reopenAll, EStateM.run_bind, bound?_served serves h, LocalOnly.loadForPath_run holds,
      Run.tryCatch_run, refused, Run.log, EStateM.run_modify]
    rw [dropped]
    simp only [EStateM.run_pure, List.append_assoc, List.cons_append, List.nil_append]
    rfl

end Reopen

/-! ## Resending -/

theorem resync_unserved (unserved : s.Unserved scope) (h : Host) :
    ∃ lines, (s.resync scope).run h = .ok false { h with logs := h.logs ++ lines } := by
  obtain ⟨lines, bound⟩ := bound?_unserved unserved h
  exact ⟨lines, by simp only [resync, EStateM.run_bind, bound]; rfl⟩

theorem resync_served (serves : s.Serves scope b conn) (holds : LocalOnly.Holds h.files st) :
    let resolved := resolvedSet (st.findings.filter (·.inScope scope)) none []
    PushThen (s.resync scope) h conn b resolved .operation
      (do Run.log s!"resync: sent {resolved.length} resolved findings for {scope} ({b.projectKey.display})"
          pure true) := by
  intro resolved
  refine (pushResolvedSet_then holds none [] .operation fun resolved => do
    Run.log s!"resync: sent {resolved.length} resolved findings for {scope} ({b.projectKey.display})"
    pure true).congr ?_
  simp only [resync, EStateM.run_bind, bound?_served serves h]

end Service

end IssueSync
