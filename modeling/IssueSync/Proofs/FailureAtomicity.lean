import IssueSync.Proofs.PushAgreement

/-!
# A refused request changes nothing

When the server refuses the push of an operation on a local finding, or the transition of an
issue its cache holds, the operation fails with the server's problem wrapped in the operation's
stage, on the host where the server refused: its files and its telemetry are those the operation
started from, so nothing was stored and no status change was counted or recorded as an event. A
key known neither to the cache nor to the store fails before anything is sent. Reopening a file
is the one exception: a refused push is logged, and the file's findings are dropped all the same.
-/

set_option autoImplicit false

namespace IssueSync

open IssueSync.Store IssueSync.Remote IssueSync.Service

/-- The files and the telemetry of `h1` are those of `h`. -/
def Untouched (h h1 : Host) : Prop :=
  h1.files = h.files ∧ h1.events = h.events ∧ h1.statusChanges = h.statusChanges

/-- When `remote`, run from `h`, fails with a problem, `m` fails with that problem wrapped in
`stage` and `message`, on the host where `remote` failed, which keeps the files and telemetry of
`h`. -/
def FailsWith {α : Type} (m : Run α) (h : Host) (remote : Run Unit) (stage : FailedStage)
    (message : String) : Prop :=
  ∀ e h1, remote.run h = .error (.problem e) h1 →
    m.run h = .error (.problem (.failed stage message (some e))) h1 ∧ Untouched h h1

namespace Service

variable {α : Type} {m rest : Run α} {h : Host} {remote : Run Unit} {req : Request} {stage : FailedStage}
  {message : String}

theorem CallThen.failsWith (call : CallThen m h remote req stage message rest) :
    FailsWith m h remote stage message := by
  intro e h1 refused
  -- the remote call answers the same from the same host: the refusal is the one the shape names
  obtain ⟨script, new, -, ⟨took, -⟩ | ⟨p, refusedAt, failed⟩⟩ := call
  · rw [took] at refused
    cases refused
  · rw [refusedAt] at refused
    cases refused
    exact ⟨failed, rfl, rfl, rfl⟩

theorem PushThen.failsWith {conn : Connection} {b : Binding} {rs : List LocalFinding}
    (push : PushThen m h conn b rs stage rest) :
    FailsWith m h (anticipatedTransitions conn b.projectKey rs) stage (pushMessage b) := by
  obtain ⟨entries, -, call⟩ := push
  exact call.failsWith

variable {s : Service} {scope : String} {b : Binding} {conn : Connection} {st : LocalStore}

theorem reopenAll_refused (serves : s.Serves scope b conn) (holds : LocalOnly.Holds h.files st) (path : Value)
    {e : Problem} {h1 : Host}
    (refused : (anticipatedTransitions conn b.projectKey (resolvedSet (st.findings.filter (·.inScope scope)) none
      (((st.findings.filter (·.inScope scope)).filter (·.filePath.equal path)).map (·.id)))).run h =
        .error (.problem e) h1) :
    ∃ fs lines, (s.reopenAll scope path).run h = .ok true { h1 with files := fs, logs := h1.logs ++ lines } ∧
      LocalOnly.Holds fs (st.dropFile scope path) := by
  obtain ⟨entries, -, script, new, -, answered, fs, lines, ran, holdsAfter⟩ := reopenAll_served serves holds path
  -- the push answers the same on the same host, so it was refused on the host the run went on from
  rcases answered with took | ⟨p, refusedAt⟩
  · rw [took] at refused
    cases refused
  · rw [refusedAt] at refused
    cases refused
    exact ⟨fs, lines, ran, holdsAfter⟩

end Service

/-- On a scope served by a live connection, a refused push of an operation on a local finding and
a refused transition of a cached issue fail the operation with the server's problem, storing
nothing and recording no telemetry; a key known nowhere fails where it started; and reopening a
file swallows a refused push, dropping the file's findings all the same. -/
theorem refused_requests_change_nothing (s : Service) (scope c p : String) (conn : Connection)
    (serves : s.Serves scope ⟨.str c, .str p⟩ conn) (st : LocalStore) (h : Host)
    (holds : LocalOnly.Holds h.files st) :
    -- a refused push of an operation on a local finding
    (∀ key status taint id g,
      (ServerFindings.contains (bindingPath c p) key taint).run h = .ok false h → asLocalId key = some id →
      st.findings.find? (·.id == id) = some g →
      FailsWith (s.changeStatus scope key status taint) h
        (anticipatedTransitions conn (.str p)
          (resolvedSet (st.findings.filter (·.inScope scope)) (some (g.resolve status)) []))
        .statusChange (pushMessage ⟨.str c, .str p⟩)) ∧
    (∀ key text id g r, asLocalId key = some id → st.findings.find? (·.id == id) = some g →
      g.resolution = some r →
      FailsWith (s.addComment scope key text) h
        (anticipatedTransitions conn (.str p)
          (resolvedSet (st.findings.filter (·.inScope scope)) (some (g.withComment text)) []))
        .comment (pushMessage ⟨.str c, .str p⟩)) ∧
    (∀ key taint id,
      (ServerFindings.contains (bindingPath c p) key taint).run h = .ok false h → asLocalId key = some id →
      FailsWith (s.reopen scope key taint) h
        (anticipatedTransitions conn (.str p) (resolvedSet (st.findings.filter (·.inScope scope)) none [id]))
        .statusChange (pushMessage ⟨.str c, .str p⟩)) ∧
    FailsWith (s.resync scope) h
      (anticipatedTransitions conn (.str p) (resolvedSet (st.findings.filter (·.inScope scope)) none []))
      .operation (pushMessage ⟨.str c, .str p⟩) ∧
    -- a refused transition of an issue the cache holds
    (∀ key status taint, (ServerFindings.contains (bindingPath c p) key taint).run h = .ok true h →
      FailsWith (s.changeStatus scope key status taint) h (doTransition conn key status.transition.code)
        .statusChange s!"Could not change status of issue {key}") ∧
    (∀ key taint, (ServerFindings.contains (bindingPath c p) key taint).run h = .ok true h →
      FailsWith (s.reopen scope key taint) h (doTransition conn key Transition.reopen.code)
        .statusChange s!"Could not reopen issue {key}") ∧
    -- a key known neither to the cache nor to the store
    (∀ key status taint, (ServerFindings.contains (bindingPath c p) key taint).run h = .ok false h →
      (∀ id, asLocalId key = some id → st.findings.find? (·.id == id) = none) →
      (s.changeStatus scope key status taint).run h =
        .error (.problem (.failed .statusChange s!"Issue key {key} was not found" none)) h) ∧
    -- reopening a file, the exception
    (∀ path e h1,
      (anticipatedTransitions conn (.str p) (resolvedSet (st.findings.filter (·.inScope scope)) none
        (((st.findings.filter (·.inScope scope)).filter (·.filePath.equal path)).map (·.id)))).run h =
          .error (.problem e) h1 →
      ∃ fs lines, (s.reopenAll scope path).run h = .ok true { h1 with files := fs, logs := h1.logs ++ lines } ∧
        LocalOnly.Holds fs (st.dropFile scope path)) := by
  refine ⟨?changeStatusPush, ?addCommentPush, ?reopenPush, ?resyncPush, ?changeStatusTransition,
    ?reopenTransition, ?notFound, ?reopenAll⟩
  case changeStatusPush =>
    intro key status taint id g uncached parsed stored
    exact (changeStatus_local key status taint serves holds uncached parsed stored).failsWith
  case addCommentPush =>
    intro key text id g r parsed stored resolvedAs
    exact (addComment_local text serves holds parsed stored resolvedAs).failsWith
  case reopenPush =>
    intro key taint id uncached parsed
    exact (reopen_local key taint serves holds uncached parsed).failsWith
  case resyncPush => exact (resync_served serves holds).failsWith
  case changeStatusTransition =>
    intro key status taint cached
    exact (changeStatus_server key status taint serves cached).failsWith
  case reopenTransition =>
    intro key taint cached
    exact (reopen_server key taint serves cached).failsWith
  case notFound =>
    intro key status taint uncached unknown
    exact changeStatus_notFound key status taint serves holds uncached unknown
  case reopenAll =>
    intro path e h1 refused
    exact reopenAll_refused serves holds path refused

/-- Resolving a key known nowhere on an empty host fails where it started. -/
theorem unknown_key_not_found :
    liveService.Serves "S" ⟨.str "c", .str "P"⟩ liveConnection ∧
      LocalOnly.Holds ({} : Host).files LocalStore.empty ∧
      (liveService.changeStatus "S" "KEY-1" .accept false).run {} =
        .error (.problem (.failed .statusChange "Issue key KEY-1 was not found" none)) {} := by
  have holds : LocalOnly.Holds ({} : Host).files LocalStore.empty := LocalOnly.holds_of_free rfl
  have unknown : ∀ id, asLocalId "KEY-1" = some id →
      List.find? (fun f : LocalFinding => f.id == id) [] = none := fun _ _ => rfl
  exact ⟨liveService_serves, holds,
    (refused_requests_change_nothing liveService "S" "c" "P" liveConnection liveService_serves _ {} holds).2.2.2.2.2.2.1
      "KEY-1" .accept false (contains_absent rfl "KEY-1" false) unknown⟩

end IssueSync
