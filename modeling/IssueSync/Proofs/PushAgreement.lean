import Mathlib.Data.List.Perm.Basic
import IssueSync.Proofs.ResolvedSet
import IssueSync.Proofs.Queries

/-!
# What the server is told is what is stored

Every operation on a scope that sends the scope's resolved set (resolving or commenting a local
finding, reopening a local id, reopening a file, resending) stores afterwards what it sent. When
it completes, each resolved set it pushed has no id twice and no unresolved finding, and is, up
to order, the resolved set of the scope loaded from the store it leaves. The order can differ
only where a finding moved from another scope: the push names it last, the store keeps its place.
-/

set_option autoImplicit false

namespace IssueSync

open IssueSync.Store IssueSync.Remote IssueSync.Service

/-- A call of one of the operations on a scope. -/
inductive ScopeCall
  | changeStatus (key : String) (status : ResolutionStatus) (taint : Bool)
  | addComment (key text : String)
  | reopen (key : String) (taint : Bool)
  | reopenAll (path : Value)
  | resync

/-- Runs a call on a scope of a service; what it answers is dropped. -/
def ScopeCall.perform (s : Service) (scope : String) : ScopeCall → Run Unit
  | .changeStatus key status taint => s.changeStatus scope key status taint
  | .addComment key text => s.addComment scope key text
  | .reopen key taint => discard (s.reopen scope key taint)
  | .reopenAll path => discard (s.reopenAll scope path)
  | .resync => discard (s.resync scope)

/-- Every resolved set a run from `h` to `h'` sent agrees with the store it left: no id twice,
resolved findings only, and up to order the resolved set of `scope` loaded from that store. -/
def PushAgrees (scope : String) (h h' : Host) : Prop :=
  ∃ (new : List Sent) (loaded : List LocalFinding), h'.sent = h.sent ++ new ∧
    (LocalOnly.loadAll scope).run h' = .ok loaded h' ∧
    ∀ sent ∈ new, ∀ entries, sent.request.payload = .json (.list entries) →
      ∃ (pushed : List LocalFinding) (after : List Value), pushed.mapM LocalFinding.anticipatedTransition = .ok entries ∧
        (pushed.map (·.id)).Nodup ∧ (∀ r ∈ pushed, r.isResolved = true) ∧
        (resolvedSet loaded none []).mapM LocalFinding.anticipatedTransition = .ok after ∧
        entries.Perm after

theorem mapM_transitions {l : List LocalFinding} {es : List Value}
    (encoded : l.mapM LocalFinding.anticipatedTransition = .ok es) :
    l.map LocalFinding.anticipatedTransition = es.map .ok := by
  induction l generalizing es with
  | nil =>
    cases encoded
    rfl
  | cons r rest ih =>
    rw [List.mapM_cons] at encoded
    cases first : r.anticipatedTransition with
    | error f => simp [first, bind, Except.bind] at encoded
    | ok v =>
      cases others : rest.mapM LocalFinding.anticipatedTransition with
      | error f => simp [first, others, bind, Except.bind] at encoded
      | ok vs =>
        simp only [first, others, bind, Except.bind, pure, Except.pure, Except.ok.injEq] at encoded
        subst encoded
        simp [first, ih others]

theorem entries_perm {rs qs : List LocalFinding} {es fs : List Value}
    (encodedRs : rs.mapM LocalFinding.anticipatedTransition = .ok es)
    (encodedQs : qs.mapM LocalFinding.anticipatedTransition = .ok fs)
    (perm : (rs.map LocalFinding.anticipatedTransition).Perm (qs.map LocalFinding.anticipatedTransition)) :
    es.Perm fs := by
  rw [mapM_transitions encodedRs, mapM_transitions encodedQs] at perm
  -- both encodings succeeded, and a permutation of successes is one of what they hold
  exact (List.map_perm_map_iff fun _ _ same => Except.ok.inj same).mp perm

/-- A resolved set of a scope never names an id twice, as the store never does. -/
theorem pushed_distinct {st : LocalStore} (scope : String) (incl : Option LocalFinding) (exclude : List Uuid) :
    ((resolvedSet (st.findings.filter (·.inScope scope)) incl exclude).map (·.id)).Nodup :=
  resolvedSet_ids_nodup (st.distinct.sublist (List.filter_sublist.map _)) incl exclude

section Agreement

variable {scope : String} {h h' : Host} {st st' : LocalStore} {incl : Option LocalFinding} {exclude : List Uuid}

theorem pushAgrees_of_none {new : List Sent} (holds : LocalOnly.Holds h'.files st')
    (sent : h'.sent = h.sent ++ new)
    (noPush : ∀ r ∈ new, ∀ entries, r.request.payload ≠ .json (.list entries)) : PushAgrees scope h h' :=
  ⟨new, _, sent, LocalOnly.loadAll_run holds scope, fun r member entries json =>
    absurd json (noPush r member entries)⟩

theorem pushAgrees_of_push {new : List Sent} {conn : Connection} {project : Value} {es : List Value}
    (holds : LocalOnly.Holds h'.files st') (sent : h'.sent = h.sent ++ new)
    (hops : Hops (pushRequest conn project es) (new.map Sent.request))
    (encoded : (resolvedSet (st.findings.filter (·.inScope scope)) incl exclude).mapM
      LocalFinding.anticipatedTransition = .ok es)
    (agree : ((resolvedSet (st.findings.filter (·.inScope scope)) incl exclude).map
        LocalFinding.anticipatedTransition).Perm
      ((resolvedSet (st'.findings.filter (·.inScope scope)) none []).map LocalFinding.anticipatedTransition)) :
    PushAgrees scope h h' := by
  refine ⟨new, _, sent, LocalOnly.loadAll_run holds scope, fun r member entries json => ?_⟩
  -- the push and its redirections carry the pushed set, or no body at all
  have carried : entries = es := by
    rcases hops_payload hops r.request (List.mem_map_of_mem member) with same | dropped
    · rw [json] at same
      cases same
      rfl
    · rw [json] at dropped
      cases dropped
  subst carried
  obtain ⟨after, encodedAfter⟩ := mapM_anticipated _ (resolvedSet_isResolved _ _ _)
  exact ⟨_, after, encoded, pushed_distinct scope incl exclude, resolvedSet_isResolved _ _ _, encodedAfter,
    entries_perm encoded encodedAfter agree⟩

theorem Service.CallThen.agrees {α : Type} {m rest : Run α} {a : α} {remote : Run Unit} {req : Request}
    {stage : FailedStage} {message : String} (call : CallThen m h remote req stage message rest)
    (unpushed : ∀ entries, req.payload ≠ .json (.list entries)) (quiet : Within .quiet rest)
    (holds : LocalOnly.Holds h.files st) (completed : m.run h = .ok a h') : PushAgrees scope h h' := by
  obtain ⟨script, new, hops, ⟨-, ran⟩ | ⟨p, -, failed⟩⟩ := call
  · rw [ran] at completed
    have kept := quiet { h with script, sent := h.sent ++ new }
    rw [completed] at kept
    refine pushAgrees_of_none (LocalOnly.holds_of_kept kept.2 holds) kept.1 ?_
    intro r member entries json
    rcases hops_payload hops r.request (List.mem_map_of_mem member) with same | dropped
    · exact unpushed entries (same ▸ json)
    · rw [json] at dropped
      cases dropped
  · rw [failed] at completed
    cases completed

theorem Service.PushThen.agrees {α : Type} {m rest : Run α} {a : α} {conn : Connection} {b : Binding}
    {stage : FailedStage}
    (push : PushThen m h conn b (resolvedSet (st.findings.filter (·.inScope scope)) incl exclude) stage rest)
    (holds : LocalOnly.Holds h.files st) (settles : Settles rest st st') (completed : m.run h = .ok a h')
    (agree : ((resolvedSet (st.findings.filter (·.inScope scope)) incl exclude).map
        LocalFinding.anticipatedTransition).Perm
      ((resolvedSet (st'.findings.filter (·.inScope scope)) none []).map LocalFinding.anticipatedTransition)) :
    PushAgrees scope h h' := by
  -- a refused push fails the run, so the server took it and the rest settled the store
  obtain ⟨es, encoded, script, new, hops, ⟨-, ran⟩ | ⟨p, -, failed⟩⟩ := push
  · obtain ⟨a', H', settled, sent, holdsAfter⟩ := settles { h with script, sent := h.sent ++ new } holds
    rw [ran, settled] at completed
    cases completed
    exact pushAgrees_of_push holdsAfter sent hops encoded agree
  · rw [failed] at completed
    cases completed

end Agreement

section Matches

variable {st : LocalStore} (scope : String)

theorem upsert_matches {g f : LocalFinding} (stored : g ∈ st.findings) (sameId : f.id = g.id)
    (resolved : f.isResolved = true) (faithful : { f with scopeId := .str scope }.Faithful) :
    ((resolvedSet (st.findings.filter (·.inScope scope)) (some f) []).map
        LocalFinding.anticipatedTransition).Perm
      ((resolvedSet ((st.put { f with scopeId := .str scope } faithful).findings.filter (·.inScope scope))
        none []).map LocalFinding.anticipatedTransition) := by
  have moved := (resolvedSet_upsert_perm st.distinct scope stored sameId resolved).map
    LocalFinding.anticipatedTransition
  simp only [List.map_map, Function.comp_def, LocalFinding.anticipatedTransition_scoped] at moved
  simp only [resolvedSet_none, List.contains_nil, Bool.not_false, List.filter_true]
  exact moved

theorem erase_matches (id : Uuid) :
    ((resolvedSet (st.findings.filter (·.inScope scope)) none [id]).map
        LocalFinding.anticipatedTransition).Perm
      ((resolvedSet ((st.erase id).findings.filter (·.inScope scope)) none []).map
        LocalFinding.anticipatedTransition) := by
  rw [resolvedSet_erase]
  simp only [resolvedSet_none, List.contains_nil, Bool.not_false, List.filter_true]
  rfl

theorem dropFile_matches (path : Value) :
    ((resolvedSet (st.findings.filter (·.inScope scope)) none
        (((st.findings.filter (·.inScope scope)).filter (·.filePath.equal path)).map (·.id))).map
        LocalFinding.anticipatedTransition).Perm
      ((resolvedSet ((st.dropFile scope path).findings.filter (·.inScope scope)) none []).map
        LocalFinding.anticipatedTransition) := by
  rw [resolvedSet_dropFile st.distinct]
  simp only [resolvedSet_none, List.contains_nil, Bool.not_false, List.filter_true]
  rfl

end Matches

namespace Service

variable {s : Service} {scope : String} {b : Binding} {conn : Connection} {h h' : Host} {st : LocalStore}

theorem text_or_refused (b : Binding) (h : Host) :
    (∃ c p, b = ⟨.str c, .str p⟩) ∨ ∃ f, (bindingFile b).run h = .error f h := by
  by_cases text : ∃ c p, b = ⟨.str c, .str p⟩
  · exact .inl text
  · exact .inr (bindingFile_refused (fun c p same => text ⟨c, p, same⟩) h)

theorem changeStatus_agrees (serves : s.Serves scope b conn) (holds : LocalOnly.Holds h.files st)
    (key : String) (status : ResolutionStatus) (taint : Bool)
    (completed : (s.changeStatus scope key status taint).run h = .ok () h') : PushAgrees scope h h' := by
  rcases text_or_refused b h with ⟨c, p, rfl⟩ | ⟨f, refused⟩
  swap
  · rw [changeStatus_unnamed key status taint serves refused] at completed
    cases completed
  rcases Within.same_cases (contains_same (bindingPath c p) key taint) h with ⟨cached, checked⟩ | ⟨f, failed⟩
  · cases cached with
    | true =>
      exact (changeStatus_server key status taint serves checked).agrees (fun _ same => by cases same)
        (afterTransition_quiet s (bindingPath_apart_local c p) key taint true ()) holds completed
    | false =>
      -- a key the cache does not hold completes only as a stored local id
      have found : ∃ id g, asLocalId key = some id ∧ st.findings.find? (·.id == id) = some g := by
        by_contra missing
        have unknown : ∀ id, asLocalId key = some id → st.findings.find? (·.id == id) = none := by
          intro id parsed
          cases stored : st.findings.find? (·.id == id) with
          | none => rfl
          | some g => exact absurd ⟨id, g, parsed, stored⟩ missing
        rw [changeStatus_notFound key status taint serves holds checked unknown] at completed
        cases completed
      obtain ⟨id, g, parsed, stored⟩ := found
      have member := List.mem_of_find?_eq_some stored
      have faithful := (st.faithful g member).resolve status
      have sameId : (g.resolve status).id = g.id := rfl
      have resolved : (g.resolve status).isResolved = true := rfl
      exact (changeStatus_local key status taint serves holds checked parsed stored).agrees holds
        ((settles_store scope faithful).bind fun _ => settles_statusChanged s _) completed
        (upsert_matches scope member sameId resolved (faithful.withScope _))
  · rw [changeStatus_unchecked key status taint serves failed] at completed
    cases completed

theorem addComment_agrees (serves : s.Serves scope b conn) (holds : LocalOnly.Holds h.files st)
    (key text : String) (completed : (s.addComment scope key text).run h = .ok () h') :
    PushAgrees scope h h' := by
  by_cases onStore : ∃ id g r, asLocalId key = some id ∧ st.findings.find? (·.id == id) = some g ∧
      g.resolution = some r
  · obtain ⟨id, g, r, parsed, stored, resolvedAs⟩ := onStore
    have member := List.mem_of_find?_eq_some stored
    have faithful := (st.faithful g member).withComment resolvedAs text
    have sameId : (g.withComment text).id = g.id := rfl
    have resolved : (g.withComment text).isResolved = true := by
      simp [LocalFinding.withComment_of_resolution resolvedAs, LocalFinding.isResolved]
    exact (addComment_local text serves holds parsed stored resolvedAs).agrees holds
      (settles_store scope faithful) completed (upsert_matches scope member sameId resolved (faithful.withScope _))
  · -- no resolved stored finding: the comment goes to the server, and nothing is pushed
    have notLocal : ∀ id, asLocalId key = some id →
        ∀ g, st.findings.find? (·.id == id) = some g → g.resolution = none := by
      intro id parsed g stored
      cases resolvedAs : g.resolution with
      | none => rfl
      | some r => exact absurd ⟨id, g, r, parsed, stored, resolvedAs⟩ onStore
    exact (addComment_server text serves holds key notLocal).agrees (fun _ same => by cases same)
      (Within.of_pure ()) holds completed

theorem reopen_agrees (serves : s.Serves scope b conn) (holds : LocalOnly.Holds h.files st)
    (key : String) (taint : Bool) {answer : Bool}
    (completed : (s.reopen scope key taint).run h = .ok answer h') : PushAgrees scope h h' := by
  rcases text_or_refused b h with ⟨c, p, rfl⟩ | ⟨f, refused⟩
  swap
  · rw [reopen_unnamed key taint serves refused] at completed
    cases completed
  rcases Within.same_cases (contains_same (bindingPath c p) key taint) h with ⟨cached, checked⟩ | ⟨f, failed⟩
  · cases cached with
    | true =>
      exact (reopen_server key taint serves checked).agrees (fun _ same => by cases same)
        (afterTransition_quiet s (bindingPath_apart_local c p) key taint false true) holds completed
    | false =>
      cases parsed : asLocalId key with
      | none =>
        rw [reopen_notLocal key taint serves checked parsed] at completed
        cases completed
        exact pushAgrees_of_none holds (List.append_nil _).symm (by simp)
      | some id =>
        exact (reopen_local key taint serves holds checked parsed).agrees holds
          ((settles_removeOne id).bind fun _ => settles_pure true) completed (erase_matches scope id)
  · rw [reopen_unchecked key taint serves failed] at completed
    cases completed

theorem reopenAll_agrees (serves : s.Serves scope b conn) (holds : LocalOnly.Holds h.files st)
    (path : Value) {answer : Bool} (completed : (s.reopenAll scope path).run h = .ok answer h') :
    PushAgrees scope h h' := by
  obtain ⟨entries, encoded, script, new, hops, -, fs, lines, ran, holdsAfter⟩ := reopenAll_served serves holds path
  rw [ran] at completed
  cases completed
  exact pushAgrees_of_push holdsAfter rfl hops encoded (dropFile_matches scope path)

theorem resync_agrees (serves : s.Serves scope b conn) (holds : LocalOnly.Holds h.files st) {answer : Bool}
    (completed : (s.resync scope).run h = .ok answer h') : PushAgrees scope h h' :=
  (resync_served serves holds).agrees holds ((settles_log _).bind fun _ => settles_pure true) completed
    (List.Perm.refl _)

end Service

/-- A self-hosted server, and a service with one scope `S` bound to project `P` on it. -/
def liveConnection : Connection :=
  { id := "c", url := "http://h", kind := .selfHosted, token := none, organization := .null }

def liveService : Service :=
  { scopes := [("S", { id := "S", connection := .str "c", projectKey := .str "P" })],
    connections := [("c", liveConnection)] }

theorem liveService_serves : liveService.Serves "S" ⟨.str "c", .str "P"⟩ liveConnection :=
  ⟨rfl, "c", rfl, rfl⟩

end IssueSync
