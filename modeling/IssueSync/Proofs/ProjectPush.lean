import Mathlib.Data.List.Perm.Subperm
import IssueSync.Proofs.ScopeIsolation

/-!
# What a push tells the server about a project

The server keeps one set of anticipated transitions per project and replaces it with every push,
but a push carries the resolved set of the one scope it was made for. Scopes reach a project
through their effective binding, so several scopes, a scope and the scopes that inherit its
binding among them, can share one project. A push then announces the project's resolved findings
exactly when no other scope bound to the project has a resolved finding; otherwise the server
loses those findings' resolutions until their own scope pushes again.
-/

set_option autoImplicit false

namespace IssueSync

open IssueSync.Store IssueSync.Remote IssueSync.Service

/-- A finding of a scope whose effective binding is `b`. -/
def Service.BoundTo (s : Service) (b : Binding) (f : LocalFinding) : Prop :=
  ∃ scope, f.scopeId = .str scope ∧ s.scopes.effectiveBinding (.str scope) = .ok (some b)

/-- A resolved finding of the store `st` that belongs to a scope bound to `b`. -/
def ProjectResolved (s : Service) (b : Binding) (st : LocalStore) (f : LocalFinding) : Prop :=
  f ∈ st.findings ∧ f.isResolved = true ∧ s.BoundTo b f

/-- `entries` announce, in some order, every resolved finding of every scope bound to `b`. -/
def AnnouncesProject (s : Service) (b : Binding) (st : LocalStore) (entries : List Value) : Prop :=
  ∃ rs : List LocalFinding, rs.Nodup ∧ (∀ f, f ∈ rs ↔ ProjectResolved s b st f) ∧
    ∃ es, rs.mapM LocalFinding.anticipatedTransition = .ok es ∧ entries.Perm es

theorem mapM_transitions_length {rs : List LocalFinding} {es : List Value}
    (encoded : rs.mapM LocalFinding.anticipatedTransition = .ok es) : rs.length = es.length := by
  simpa using congrArg List.length (mapM_transitions encoded)

section Alone

variable {s : Service} {scope : String} {b : Binding} {st : LocalStore}

theorem projectResolved_of_scope (bound : s.scopes.effectiveBinding (.str scope) = .ok (some b))
    {f : LocalFinding} (member : f ∈ resolvedSet (st.findings.filter (·.inScope scope)) none []) :
    ProjectResolved s b st f := by
  rw [resolvedSet_none] at member
  simp only [List.contains_nil, Bool.not_false, List.filter_true, List.mem_filter] at member
  obtain ⟨⟨stored, inScope⟩, resolved⟩ := member
  exact ⟨stored, resolved, scope, (LocalFinding.inScope_iff f scope).mp inScope, bound⟩

/-- A push of a scope's resolved set announces the scope's whole project exactly when no other
scope bound to the project has a resolved finding. -/
theorem announcesProject_iff_alone (bound : s.scopes.effectiveBinding (.str scope) = .ok (some b))
    {entries after : List Value}
    (encoded : (resolvedSet (st.findings.filter (·.inScope scope)) none []).mapM
      LocalFinding.anticipatedTransition = .ok after)
    (sent : entries.Perm after) :
    AnnouncesProject s b st entries ↔ ∀ f, ProjectResolved s b st f → f.inScope scope = true := by
  have ownDistinct : (resolvedSet (st.findings.filter (·.inScope scope)) none []).Nodup :=
    List.Nodup.of_map LocalFinding.id (pushed_distinct scope none [])
  constructor
  · rintro ⟨rs, distinct, members, es, encodedRs, announced⟩ f projectResolved
    -- the scope's own set lies inside the project's, and both have as many findings as entries
    have inside : (resolvedSet (st.findings.filter (·.inScope scope)) none []).Subperm rs :=
      ownDistinct.subperm fun g member => (members g).mpr (projectResolved_of_scope bound member)
    have sameLength : rs.length ≤ (resolvedSet (st.findings.filter (·.inScope scope)) none []).length := by
      refine Nat.le_of_eq ?_
      rw [mapM_transitions_length encodedRs, mapM_transitions_length encoded,
        (announced.symm.trans sent).length_eq]
    have whole := inside.perm_of_length_le sameLength
    have ownMember : f ∈ resolvedSet (st.findings.filter (·.inScope scope)) none [] :=
      whole.symm.subset ((members f).mpr projectResolved)
    rw [resolvedSet_none] at ownMember
    simp only [List.contains_nil, Bool.not_false, List.filter_true, List.mem_filter] at ownMember
    exact ownMember.1.2
  · intro alone
    refine ⟨_, ownDistinct, fun f => ⟨projectResolved_of_scope bound, fun projectResolved => ?_⟩,
      after, encoded, sent⟩
    have inScope := alone f projectResolved
    obtain ⟨stored, resolved, -⟩ := projectResolved
    rw [resolvedSet_none]
    simp only [List.contains_nil, Bool.not_false, List.filter_true, List.mem_filter]
    exact ⟨⟨stored, inScope⟩, resolved⟩

end Alone

theorem ScopeCall.perform_agrees {s : Service} {scope : String} {b : Binding} {conn : Connection}
    (served : s.Serves scope b conn) {st : LocalStore} {h h' : Host} (holds : LocalOnly.Holds h.files st)
    (call : ScopeCall) (completed : (call.perform s scope).run h = .ok () h') : PushAgrees scope h h' := by
  cases call with
  | changeStatus key status taint => exact changeStatus_agrees served holds key status taint completed
  | addComment key text => exact addComment_agrees served holds key text completed
  | reopen key taint =>
    obtain ⟨answer, reopened⟩ := Run.discard_ok completed
    exact reopen_agrees served holds key taint reopened
  | reopenAll path =>
    obtain ⟨answer, reopened⟩ := Run.discard_ok completed
    exact reopenAll_agrees served holds path reopened
  | resync =>
    obtain ⟨answer, resent⟩ := Run.discard_ok completed
    exact resync_agrees served holds resent

/-- Every push a completed call on a served scope sends announces the resolved findings of every
scope bound to the same binding exactly when, in the store the call leaves, no scope but the
called one has a resolved finding bound there. -/
theorem pushes_announce_project_iff_scope_alone (s : Service) (scope : String) (b : Binding) (conn : Connection)
    (served : s.Serves scope b conn) (st : LocalStore) (h : Host) (holds : LocalOnly.Holds h.files st)
    (call : ScopeCall) (h' : Host) (completed : (call.perform s scope).run h = .ok () h') :
    ∃ (st' : LocalStore) (new : List Sent), LocalOnly.Holds h'.files st' ∧ h'.sent = h.sent ++ new ∧
      ∀ r ∈ new, ∀ entries, r.request.payload = .json (.list entries) →
        (AnnouncesProject s b st' entries ↔ ∀ f, ProjectResolved s b st' f → f.inScope scope = true) := by
  obtain ⟨st', holdsAfter, -⟩ := call.perform_changes s scope holds
  rw [completed] at holdsAfter
  obtain ⟨new, loaded, sent, loadedRun, pushes⟩ := call.perform_agrees served holds completed
  -- what the scope loads from the store the call left is its part of that store
  have sameLoad : loaded = st'.findings.filter (·.inScope scope) := by
    have both := (LocalOnly.loadAll_run holdsAfter scope).symm.trans loadedRun
    simp only [EStateM.Result.ok.injEq] at both
    exact both.1.symm
  refine ⟨st', new, holdsAfter, sent, fun r member entries json => ?_⟩
  obtain ⟨-, after, -, -, -, encodedAfter, announced⟩ := pushes r member entries json
  rw [sameLoad] at encodedAfter
  exact announcesProject_iff_alone served.1 encodedAfter announced

/-- A self-hosted server at `http://localhost:9000`, under the connection id `local-sonarqube`. -/
def localSonarqube : Connection :=
  { id := "local-sonarqube", url := "http://localhost:9000", kind := .selfHosted, token := none,
    organization := .null }

theorem localSonarqube_routes (e : Endpoint) :
    Endpoint.ofPath? (splitOrigin (localSonarqube.url ++ e.path)).2 = some e := by
  have split : (localSonarqube.url ++ e.path).splitOn "://" = ["http", "localhost:9000" ++ e.path] := by
    cases e <;> exact splitOn_of_within (by decide) 100 (by decide +kernel)
  rw [splitOrigin, split]
  cases e <;> decide +kernel

/-- Scope `backend` is bound to project `acme-backend`, and `backend/api` inherits its binding. -/
def exampleService : Service :=
  { scopes := [("backend", { id := "backend", connection := .str "local-sonarqube", projectKey := .str "acme-backend" }),
      ("backend/api", { id := "backend/api", parent := .str "backend" })],
    connections := [("local-sonarqube", localSonarqube)] }

def acmeBackend : Binding := ⟨.str "local-sonarqube", .str "acme-backend"⟩

theorem exampleService_serves_backend : exampleService.Serves "backend" acmeBackend localSonarqube :=
  ⟨rfl, "local-sonarqube", rfl, rfl⟩

theorem exampleService_serves_api : exampleService.Serves "backend/api" acmeBackend localSonarqube := by
  refine ⟨?_, "local-sonarqube", rfl, rfl⟩
  -- the binding comes from the parent, one step up the chain
  simp [exampleService, acmeBackend, Scopes.effectiveBinding, Scopes.chase, Value.hashable, Scopes.binding?,
    Scopes.find?, Scope.binding?, Value.truthy, Value.equal]

/-- The key of a finding of scope `backend`. -/
def appKey : String := "00000000-0000-4000-8000-000000000001"

def appFinding : LocalFinding :=
  { id := ⟨0x40008000000000000001, by decide⟩, scopeId := .str "backend", filePath := .str "src/app.py",
    ruleKey := .str "python:S1481", message := .str "m", line := .int 10, lineHash := .str "h" }

def appStore : LocalStore :=
  .single appFinding (LocalFinding.faithful_unresolved rfl (by decide +kernel))

/-- Resolving `appFinding` from its own scope completes and leaves it, resolved, as the store's
only finding. -/
theorem accepting_appKey_resolves_appFinding :
    ∃ h1 st1, (exampleService.changeStatus "backend" appKey .accept false).run (LocalOnly.hostOf appStore) = .ok () h1 ∧
      h1.script = {} ∧ LocalOnly.Holds h1.files st1 ∧ st1.findings = [appFinding.resolve .accept] := by
  have uncached : (ServerFindings.contains (bindingPath "local-sonarqube" "acme-backend") appKey false).run
      (LocalOnly.hostOf appStore) = .ok false (LocalOnly.hostOf appStore) :=
    contains_absent (LocalOnly.hostOf_binding_absent _ _ _) appKey false
  have parsed : asLocalId appKey = some appFinding.id := by decide +kernel
  have stored : appStore.findings.find? (·.id == appFinding.id) = some appFinding := by simp [appStore]
  obtain ⟨entries, fs, events, statusChanges, logs, st1, -, ran, holds1, resolved⟩ :=
    changeStatus_local_accepted exampleService_serves_backend (LocalOnly.hostOf_holds appStore) rfl
      (localSonarqube_routes .anticipated) uncached parsed stored
  refine ⟨_, st1, ran, rfl, holds1, ?_⟩
  rw [resolved, LocalFinding.rescoped_self rfl]
  simp [appStore, LocalStore.upsert, LocalFinding.resolve]

/-- Once `backend` has accepted `appFinding`, a resync of `backend/api` completes and replaces the
anticipated transitions of `acme-backend` with none, although the store still holds the accepted
finding of `backend`, bound to the same project. -/
theorem resync_of_inheriting_scope_drops_parents_resolutions :
    ∃ h1 st1, (exampleService.changeStatus "backend" appKey .accept false).run (LocalOnly.hostOf appStore) = .ok () h1 ∧
      LocalOnly.Holds h1.files st1 ∧ ¬ AnnouncesProject exampleService acmeBackend st1 [] ∧
      ∃ h2 owner, (exampleService.resync "backend/api").run h1 = .ok true h2 ∧ LocalOnly.Holds h2.files st1 ∧
        h2.sent = h1.sent ++ [⟨owner, pushRequest localSonarqube (.str "acme-backend") []⟩] := by
  obtain ⟨h1, st1, accepted, unscripted, holds1, resolved⟩ := accepting_appKey_resolves_appFinding
  obtain ⟨entries, logs, encoded, ran⟩ :=
    resync_accepted exampleService_serves_api holds1 unscripted (localSonarqube_routes .anticipated)
  -- `backend/api` holds no finding of its own, so its push is empty
  have own : st1.findings.filter (·.inScope "backend/api") = [] := by
    simp [resolved, appFinding, LocalFinding.resolve, LocalFinding.inScope, Value.equal]
  have empty : entries = [] := by
    simpa [own, resolvedSet_none, pure, Except.pure] using encoded.symm
  subst empty
  have parentResolved : ProjectResolved exampleService acmeBackend st1 (appFinding.resolve .accept) :=
    ⟨by simp [resolved], by simp [LocalFinding.resolve, LocalFinding.isResolved],
      "backend", rfl, exampleService_serves_backend.1⟩
  have announced := announcesProject_iff_alone exampleService_serves_api.1 encoded (List.Perm.refl [])
  refine ⟨h1, st1, accepted, holds1, fun announces => ?_, _, _, ran, holds1, rfl⟩
  have inApi := announced.mp announces _ parentResolved
  simp [appFinding, LocalFinding.resolve, LocalFinding.inScope, Value.equal] at inApi

/-- A resync of `backend` from the store holding `appFinding` completes, and its push announces the
project exactly when no other scope bound to it has a resolved finding. -/
theorem resyncing_backend_announces_project_iff_alone :
    LocalOnly.Holds (LocalOnly.hostOf appStore).files appStore ∧
      ∃ h', (ScopeCall.resync.perform exampleService "backend").run (LocalOnly.hostOf appStore) = .ok () h' ∧
        ∃ (st' : LocalStore) (new : List Sent), LocalOnly.Holds h'.files st' ∧
          h'.sent = (LocalOnly.hostOf appStore).sent ++ new ∧
          ∀ r ∈ new, ∀ entries, r.request.payload = .json (.list entries) →
            (AnnouncesProject exampleService acmeBackend st' entries ↔
              ∀ f, ProjectResolved exampleService acmeBackend st' f → f.inScope "backend" = true) := by
  obtain ⟨entries, logs, -, ran⟩ := resync_accepted exampleService_serves_backend
    (LocalOnly.hostOf_holds appStore) rfl (localSonarqube_routes .anticipated)
  obtain ⟨h', completed⟩ : ∃ h', (ScopeCall.resync.perform exampleService "backend").run
      (LocalOnly.hostOf appStore) = .ok () h' := ⟨_, by simp only [ScopeCall.perform, Run.discard_run, ran]; rfl⟩
  exact ⟨LocalOnly.hostOf_holds appStore, h', completed,
    pushes_announce_project_iff_scope_alone exampleService "backend" acmeBackend localSonarqube
      exampleService_serves_backend appStore _ (LocalOnly.hostOf_holds appStore) .resync _ completed⟩

end IssueSync
