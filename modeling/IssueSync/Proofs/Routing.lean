import IssueSync.Proofs.PushAgreement

/-!
# Which requests each operation sends

On a scope served by a live connection, the service sends each operation's one request, chosen
by where the key is known: a transition for an issue the cache holds, the scope's resolved set for
a local finding, a comment or a search for anything else. The stores and the capability check
send nothing, nor does any operation on a scope without a live connection. A push always names
the bound project. Each request is followed by the redirections the server answers it with.
-/

set_option autoImplicit false

namespace IssueSync

open IssueSync.Store IssueSync.Remote IssueSync.Service

/-- Whatever `m` returns from `h`, it sent `req` and the redirections the server answered it
with, and nothing else. -/
def SendsOne {α : Type} (m : Run α) (h : Host) (req : Request) : Prop :=
  ∃ new, Hops req (new.map Sent.request) ∧ (resultHost (m.run h)).sent = h.sent ++ new

/-- Whatever `m` returns from `h`, it sent nothing. -/
def SendsNothing {α : Type} (m : Run α) (h : Host) : Prop :=
  (resultHost (m.run h)).sent = h.sent

namespace Service

section Shapes

variable {α : Type} {m rest : Run α} {h : Host}

theorem CallThen.sendsOne {remote : Run Unit} {req : Request} {stage : FailedStage} {message : String}
    (call : CallThen m h remote req stage message rest) (silent : Within .silent rest) : SendsOne m h req := by
  obtain ⟨script, new, hops, ⟨-, ran⟩ | ⟨p, -, failed⟩⟩ := call
  · refine ⟨new, hops, ?_⟩
    rw [ran]
    exact silent { h with script, sent := h.sent ++ new }
  · exact ⟨new, hops, by rw [failed]; rfl⟩

theorem PushThen.sendsPush {conn : Connection} {b : Binding} {rs : List LocalFinding} {stage : FailedStage}
    {st st' : LocalStore} (push : PushThen m h conn b rs stage rest) (holds : LocalOnly.Holds h.files st)
    (settles : Settles rest st st') : ∃ entries, SendsOne m h (pushRequest conn b.projectKey entries) := by
  obtain ⟨entries, -, script, new, hops, ⟨-, ran⟩ | ⟨p, -, failed⟩⟩ := push
  · obtain ⟨a, H', settled, sent, -⟩ := settles { h with script, sent := h.sent ++ new } holds
    refine ⟨entries, new, hops, ?_⟩
    rw [ran, settled]
    exact sent
  · exact ⟨entries, new, hops, by rw [failed]; rfl⟩

theorem logsOnly_sendsNothing (logsOnly : ∃ a lines, m.run h = .ok a { h with logs := h.logs ++ lines }) :
    SendsNothing m h := by
  obtain ⟨a, lines, ran⟩ := logsOnly
  rw [SendsNothing, ran]
  rfl

end Shapes

end Service

/-- What every operation sends, by where its key is known: on a scope served by a live
connection, a transition for an issue the cache holds, a push of the scope's resolved set for a
local finding, a comment or a search for any other key, nothing for a key known nowhere; nothing
at all on a scope without a live connection, nor from the stores and the capability check. -/
theorem requests_follow_key_routes (s : Service) (st : LocalStore) (h : Host)
    (holds : LocalOnly.Holds h.files st) :
    (∀ scope c p conn, s.Serves scope ⟨.str c, .str p⟩ conn →
      -- resolving
      (∀ key status taint, (ServerFindings.contains (bindingPath c p) key taint).run h = .ok true h →
        SendsOne (s.changeStatus scope key status taint) h (transitionRequest conn key status.transition.code)) ∧
      (∀ key status taint id g, (ServerFindings.contains (bindingPath c p) key taint).run h = .ok false h →
        asLocalId key = some id → st.findings.find? (·.id == id) = some g →
        ∃ entries, SendsOne (s.changeStatus scope key status taint) h (pushRequest conn (.str p) entries)) ∧
      (∀ key status taint, (ServerFindings.contains (bindingPath c p) key taint).run h = .ok false h →
        (∀ id, asLocalId key = some id → st.findings.find? (·.id == id) = none) →
        SendsNothing (s.changeStatus scope key status taint) h) ∧
      -- commenting
      (∀ key text id g r, asLocalId key = some id → st.findings.find? (·.id == id) = some g →
        g.resolution = some r →
        ∃ entries, SendsOne (s.addComment scope key text) h (pushRequest conn (.str p) entries)) ∧
      (∀ key text, (∀ id, asLocalId key = some id →
          ∀ g, st.findings.find? (·.id == id) = some g → g.resolution = none) →
        SendsOne (s.addComment scope key text) h (commentRequest conn key text)) ∧
      -- reopening
      (∀ key taint, (ServerFindings.contains (bindingPath c p) key taint).run h = .ok true h →
        SendsOne (s.reopen scope key taint) h (transitionRequest conn key Transition.reopen.code)) ∧
      (∀ key taint id, (ServerFindings.contains (bindingPath c p) key taint).run h = .ok false h →
        asLocalId key = some id →
        ∃ entries, SendsOne (s.reopen scope key taint) h (pushRequest conn (.str p) entries)) ∧
      (∀ key taint, (ServerFindings.contains (bindingPath c p) key taint).run h = .ok false h →
        asLocalId key = none → SendsNothing (s.reopen scope key taint) h) ∧
      (∀ path, ∃ entries, SendsOne (s.reopenAll scope path) h (pushRequest conn (.str p) entries)) ∧
      (∃ entries, SendsOne (s.resync scope) h (pushRequest conn (.str p) entries))) ∧
    (∀ scope, s.Unserved scope →
      (∀ key status taint, SendsNothing (s.changeStatus scope key status taint) h) ∧
      (∀ key text, SendsNothing (s.addComment scope key text) h) ∧
      (∀ key taint, SendsNothing (s.reopen scope key taint) h) ∧
      (∀ path, SendsNothing (s.reopenAll scope path) h) ∧
      SendsNothing (s.resync scope) h) ∧
    -- judging a permission on a live connection
    (∀ connection conn key, s.connections.lookup connection = some conn →
      ((∃ id g, asLocalId key = some id ∧ st.findings.find? (·.id == id) = some g) →
        SendsNothing (s.checkPermission connection key) h) ∧
      ((∀ id, asLocalId key = some id → st.findings.find? (·.id == id) = none) →
        SendsOne (s.checkPermission connection key) h (searchRequest conn key))) ∧
    -- the stores and the capability check
    (∀ scope findings, SendsNothing (s.recordLocalOnly scope findings) h) ∧
    (∀ scope metas, SendsNothing (s.replaceServerFindings scope metas) h) ∧
    (∀ scope, SendsNothing (s.checkAnticipated scope) h) ∧
    -- every push names the bound project
    (∀ conn p entries, (pushRequest conn (.str p) entries).params = [("projectKey", p)]) := by
  refine ⟨?served, ?unserved, ?permission, ?recorded, ?replaced, ?anticipated, fun conn p entries => rfl⟩
  case served =>
    intro scope c p conn serves
    refine ⟨?resolveServer, ?resolveLocal, ?resolveNowhere, ?commentLocal, ?commentServer, ?reopenServer,
      ?reopenLocal, ?reopenNowhere, ?reopenFile, ?resync⟩
    case resolveServer =>
      intro key status taint cached
      exact (changeStatus_server key status taint serves cached).sendsOne
        (Within.silent_of_quiet (afterTransition_quiet s (bindingPath_apart_local c p) key taint true ()))
    case resolveLocal =>
      intro key status taint id g uncached parsed stored
      have faithful := (st.faithful g (List.mem_of_find?_eq_some stored)).resolve status
      exact (changeStatus_local key status taint serves holds uncached parsed stored).sendsPush holds
        ((settles_store scope faithful).bind fun _ => settles_statusChanged s _)
    case resolveNowhere =>
      intro key status taint uncached unknown
      rw [SendsNothing, changeStatus_notFound key status taint serves holds uncached unknown]
      rfl
    case commentLocal =>
      intro key text id g r parsed stored resolvedAs
      have faithful := (st.faithful g (List.mem_of_find?_eq_some stored)).withComment resolvedAs text
      exact (addComment_local text serves holds parsed stored resolvedAs).sendsPush holds
        (settles_store scope faithful)
    case commentServer =>
      intro key text notLocal
      exact (addComment_server text serves holds key notLocal).sendsOne (Within.of_pure ())
    case reopenServer =>
      intro key taint cached
      exact (reopen_server key taint serves cached).sendsOne
        (Within.silent_of_quiet (afterTransition_quiet s (bindingPath_apart_local c p) key taint false true))
    case reopenLocal =>
      intro key taint id uncached parsed
      exact (reopen_local key taint serves holds uncached parsed).sendsPush holds
        ((settles_removeOne id).bind fun _ => settles_pure true)
    case reopenNowhere =>
      intro key taint uncached parsed
      rw [SendsNothing, reopen_notLocal key taint serves uncached parsed]
      rfl
    case reopenFile =>
      intro path
      obtain ⟨entries, -, script, new, hops, -, fs, lines, ran, -⟩ := reopenAll_served serves holds path
      exact ⟨entries, new, hops, by rw [ran]; rfl⟩
    case resync =>
      exact (resync_served serves holds).sendsPush holds ((settles_log _).bind fun _ => settles_pure true)
  case unserved =>
    intro scope unserved
    refine ⟨fun key status taint => ?_, fun key text => ?_, fun key taint => ?_, fun path => ?_, ?_⟩
    · obtain ⟨lines, ran⟩ := changeStatus_unserved key status taint unserved h
      exact logsOnly_sendsNothing ⟨(), lines, ran⟩
    · obtain ⟨lines, ran⟩ := addComment_unserved text unserved key h
      exact logsOnly_sendsNothing ⟨(), lines, ran⟩
    · obtain ⟨lines, ran⟩ := reopen_unserved key taint unserved h
      exact logsOnly_sendsNothing ⟨false, lines, ran⟩
    · obtain ⟨fs, lines, ran, -⟩ := reopenAll_unserved unserved holds path
      rw [SendsNothing, ran]
      rfl
    · obtain ⟨lines, ran⟩ := resync_unserved unserved h
      exact logsOnly_sendsNothing ⟨false, lines, ran⟩
  case permission =>
    intro connection conn key live
    refine ⟨fun ⟨id, g, parsed, stored⟩ => (checkPermission_stored holds live parsed stored).1, fun notStored => ?_⟩
    obtain ⟨script, new, hops, searched⟩ := checkPermission_search holds live key notStored
    exact ⟨new, hops, by rw [searched]⟩
  case recorded =>
    intro scope findings
    exact recordLocalOnly_silent s scope findings h
  case replaced =>
    intro scope metas
    exact (replaceServerFindings_quiet s scope metas h).1
  case anticipated =>
    intro scope
    exact (checkAnticipated_quiet s scope h).1

/-- Resending a served scope from an empty host sends one push for its project. -/
theorem resync_pushes_on_empty_host :
    LocalOnly.Holds ({} : Host).files LocalStore.empty ∧
      ∃ entries, SendsOne (liveService.resync "S") {} (pushRequest liveConnection (.str "P") entries) := by
  have holds : LocalOnly.Holds ({} : Host).files LocalStore.empty := LocalOnly.holds_of_free rfl
  exact ⟨holds, ((requests_follow_key_routes liveService _ {} holds).1 "S" "c" "P" liveConnection
    liveService_serves).2.2.2.2.2.2.2.2.2⟩

end IssueSync
