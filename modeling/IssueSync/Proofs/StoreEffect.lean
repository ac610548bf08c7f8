import IssueSync.Proofs.PushAgreement

/-!
# What each operation does to the local store

The local store after a completed operation is the store before with exactly one change, every
other finding kept in its place: resolving or commenting a local finding changes that finding,
reopening a local id drops it, reopening a file drops the file's findings in the scope; every other
route, and every query, leaves the store as it was. Reopening a file always completes, whether the
scope is served or not and whether the server takes the push or not.
-/

set_option autoImplicit false

namespace IssueSync

open IssueSync.Store IssueSync.Remote IssueSync.Service IssueSync.LocalStore

/-- Whenever `m` completes from `h`, the local store it leaves holds exactly `findings`, in this
order. -/
def Leaves {α : Type} (m : Run α) (h : Host) (findings : List LocalFinding) : Prop :=
  ∀ a h', m.run h = .ok a h' → ∃ st', LocalOnly.Holds h'.files st' ∧ st'.findings = findings

theorem leaves_of_holds {α : Type} {m : Run α} {h : Host} {st : LocalStore}
    (kept : ∀ a h', m.run h = .ok a h' → LocalOnly.Holds h'.files st) : Leaves m h st.findings :=
  fun a h' completed => ⟨st, kept a h' completed, rfl⟩

theorem upsert_changed {st : LocalStore} {id : Uuid} {g : LocalFinding}
    (stored : st.findings.find? (·.id == id) = some g) (change : LocalFinding → LocalFinding)
    (sameId : ∀ f, (change f).id = f.id) :
    upsert st.findings (change g) = st.findings.map fun f => if f.id == id then change f else f := by
  have member := List.mem_of_find?_eq_some stored
  have found : g.id = id := by simpa using List.find?_some stored
  have present : st.findings.any (·.id == (change g).id) = true := by
    simpa [sameId] using ⟨g, member, rfl⟩
  simp only [upsert, present, if_true]
  apply List.map_congr_left
  intro f fMember
  by_cases same : f.id = id
  · -- ids are distinct, so the finding with the id is the stored one
    have isG : f = g := List.inj_on_of_nodup_map st.distinct fMember member (same.trans found.symm)
    subst isG
    simp [sameId, same]
  · simp [sameId, found, same]

section Routes

variable {s : Service} {scope : String} {st : LocalStore} {h : Host}

theorem logsOnly_leaves {α : Type} {m : Run α} (logsOnly : ∃ a lines, m.run h = .ok a { h with logs := h.logs ++ lines })
    (holds : LocalOnly.Holds h.files st) : Leaves m h st.findings := by
  obtain ⟨a, lines, ran⟩ := logsOnly
  refine leaves_of_holds fun a' h' completed => ?_
  rw [ran] at completed
  cases completed
  exact holds

theorem changeStatus_resolves {c p : String} {conn : Connection} (serves : s.Serves scope ⟨.str c, .str p⟩ conn)
    (holds : LocalOnly.Holds h.files st) (key : String) (status : ResolutionStatus) (taint : Bool)
    (uncached : (ServerFindings.contains (bindingPath c p) key taint).run h = .ok false h)
    {id : Uuid} (parsed : asLocalId key = some id) {g : LocalFinding}
    (stored : st.findings.find? (·.id == id) = some g) (ownScope : g.scopeId = .str scope) :
    Leaves (s.changeStatus scope key status taint) h
      (st.findings.map fun f => if f.id == id then f.resolve status else f) := by
  intro a h' completed
  have faithful := (st.faithful g (List.mem_of_find?_eq_some stored)).resolve status
  have settled := (changeStatus_local key status taint serves holds uncached parsed stored).holds_after holds
    ((settles_store scope faithful).bind fun _ => settles_statusChanged s _) completed
  refine ⟨_, settled, ?_⟩
  show upsert st.findings { g.resolve status with scopeId := .str scope } = _
  rw [LocalFinding.rescoped_self (show (g.resolve status).scopeId = .str scope from ownScope)]
  exact upsert_changed stored (·.resolve status) fun _ => rfl

theorem addComment_comments {b : Binding} {conn : Connection} (serves : s.Serves scope b conn)
    (holds : LocalOnly.Holds h.files st) (key text : String) {id : Uuid} (parsed : asLocalId key = some id)
    {g : LocalFinding} (stored : st.findings.find? (·.id == id) = some g) {r : LocalResolution}
    (resolvedAs : g.resolution = some r) (ownScope : g.scopeId = .str scope) :
    Leaves (s.addComment scope key text) h
      (st.findings.map fun f => if f.id == id then f.withComment text else f) := by
  intro a h' completed
  have faithful := (st.faithful g (List.mem_of_find?_eq_some stored)).withComment resolvedAs text
  have settled := (addComment_local text serves holds parsed stored resolvedAs).holds_after holds
    (settles_store scope faithful) completed
  refine ⟨_, settled, ?_⟩
  show upsert st.findings { g.withComment text with scopeId := .str scope } = _
  rw [LocalFinding.rescoped_self (show (g.withComment text).scopeId = .str scope from ownScope)]
  exact upsert_changed stored (·.withComment text) fun _ => rfl

theorem reopen_removes {c p : String} {conn : Connection} (serves : s.Serves scope ⟨.str c, .str p⟩ conn)
    (holds : LocalOnly.Holds h.files st) (key : String) (taint : Bool)
    (uncached : (ServerFindings.contains (bindingPath c p) key taint).run h = .ok false h)
    {id : Uuid} (parsed : asLocalId key = some id) :
    Leaves (s.reopen scope key taint) h (st.findings.filter (·.id != id)) := by
  intro a h' completed
  exact ⟨_, (reopen_local key taint serves holds uncached parsed).holds_after holds
    ((settles_removeOne id).bind fun _ => settles_pure true) completed, rfl⟩

theorem reopenAll_completes (served : (∃ b conn, s.Serves scope b conn) ∨ s.Unserved scope)
    (holds : LocalOnly.Holds h.files st) (path : Value) :
    ∃ h', (s.reopenAll scope path).run h = .ok true h' ∧
      ∃ st', LocalOnly.Holds h'.files st' ∧
        st'.findings = st.findings.filter fun f => !(f.inScope scope && f.filePath.equal path) := by
  rcases served with ⟨b, conn, serves⟩ | unserved
  · obtain ⟨entries, -, script, new, -, -, fs, lines, ran, holdsAfter⟩ := reopenAll_served serves holds path
    exact ⟨_, ran, _, holdsAfter, rfl⟩
  · obtain ⟨fs, lines, ran, holdsAfter⟩ := reopenAll_unserved unserved holds path
    exact ⟨_, ran, _, holdsAfter, rfl⟩

theorem keepsLocal_holds {α : Type} {m : Run α} (kept : Within .keepsLocal m) (holds : LocalOnly.Holds h.files st) :
    LocalOnly.Holds (resultHost (m.run h)).files st :=
  LocalOnly.holds_of_kept (kept h) holds

end Routes

/-- For a store holding `st` on `h` and a scope `scope`, each completed operation leaves the store
with exactly its own change, every other finding kept in its place; reopening a file always
completes; resending, the queries and every route through the server keep the store as it was. -/
theorem operations_change_store_exactly (s : Service) (scope : String) (st : LocalStore) (h : Host)
    (holds : LocalOnly.Holds h.files st) :
    -- resolving
    (∀ c p conn key status taint id g, s.Serves scope ⟨.str c, .str p⟩ conn →
      (ServerFindings.contains (bindingPath c p) key taint).run h = .ok false h → asLocalId key = some id →
      st.findings.find? (·.id == id) = some g → g.scopeId = .str scope →
      Leaves (s.changeStatus scope key status taint) h
        (st.findings.map fun f => if f.id == id then f.resolve status else f)) ∧
    (∀ c p conn key status taint, s.Serves scope ⟨.str c, .str p⟩ conn →
      (ServerFindings.contains (bindingPath c p) key taint).run h = .ok true h →
      Leaves (s.changeStatus scope key status taint) h st.findings) ∧
    (∀ key status taint, s.Unserved scope → Leaves (s.changeStatus scope key status taint) h st.findings) ∧
    -- commenting
    (∀ b conn key text id g r, s.Serves scope b conn → asLocalId key = some id →
      st.findings.find? (·.id == id) = some g → g.resolution = some r → g.scopeId = .str scope →
      Leaves (s.addComment scope key text) h
        (st.findings.map fun f => if f.id == id then f.withComment text else f)) ∧
    (∀ b conn key text, s.Serves scope b conn →
      (∀ id, asLocalId key = some id → ∀ g, st.findings.find? (·.id == id) = some g → g.resolution = none) →
      Leaves (s.addComment scope key text) h st.findings) ∧
    (∀ key text, s.Unserved scope → Leaves (s.addComment scope key text) h st.findings) ∧
    -- reopening
    (∀ c p conn key taint id, s.Serves scope ⟨.str c, .str p⟩ conn →
      (ServerFindings.contains (bindingPath c p) key taint).run h = .ok false h → asLocalId key = some id →
      Leaves (s.reopen scope key taint) h (st.findings.filter (·.id != id))) ∧
    (∀ c p conn key taint, s.Serves scope ⟨.str c, .str p⟩ conn →
      (ServerFindings.contains (bindingPath c p) key taint).run h = .ok true h →
      Leaves (s.reopen scope key taint) h st.findings) ∧
    (∀ c p conn key taint, s.Serves scope ⟨.str c, .str p⟩ conn →
      (ServerFindings.contains (bindingPath c p) key taint).run h = .ok false h → asLocalId key = none →
      Leaves (s.reopen scope key taint) h st.findings) ∧
    (∀ key taint, s.Unserved scope → Leaves (s.reopen scope key taint) h st.findings) ∧
    -- reopening a file
    (((∃ b conn, s.Serves scope b conn) ∨ s.Unserved scope) → ∀ path,
      ∃ h', (s.reopenAll scope path).run h = .ok true h' ∧
        ∃ st', LocalOnly.Holds h'.files st' ∧
          st'.findings = st.findings.filter fun f => !(f.inScope scope && f.filePath.equal path)) ∧
    -- resending and the queries
    (∀ b conn, s.Serves scope b conn → Leaves (s.resync scope) h st.findings) ∧
    (s.Unserved scope → Leaves (s.resync scope) h st.findings) ∧
    (∀ connection key, LocalOnly.Holds (resultHost ((s.checkPermission connection key).run h)).files st) ∧
    LocalOnly.Holds (resultHost ((s.checkAnticipated scope).run h)).files st ∧
    (∀ metas, LocalOnly.Holds (resultHost ((s.replaceServerFindings scope metas).run h)).files st) := by
  refine ⟨?resolveLocal, ?resolveServer, ?resolveUnserved, ?commentLocal, ?commentServer, ?commentUnserved,
    ?reopenLocal, ?reopenServer, ?reopenNotLocal, ?reopenUnserved, ?reopenFile, ?resyncServed,
    ?resyncUnserved, ?permission, ?anticipated, ?replace⟩
  case resolveLocal =>
    intro c p conn key status taint id g serves uncached parsed stored ownScope
    exact changeStatus_resolves serves holds key status taint uncached parsed stored ownScope
  case resolveServer =>
    intro c p conn key status taint serves cached
    exact leaves_of_holds fun a h' completed => (changeStatus_server key status taint serves cached).holds_after
      (afterTransition_quiet s (bindingPath_apart_local c p) key taint true ()) holds completed
  case resolveUnserved =>
    intro key status taint unserved
    obtain ⟨lines, ran⟩ := changeStatus_unserved key status taint unserved h
    exact logsOnly_leaves ⟨(), lines, ran⟩ holds
  case commentLocal =>
    intro b conn key text id g r serves parsed stored resolvedAs ownScope
    exact addComment_comments serves holds key text parsed stored resolvedAs ownScope
  case commentServer =>
    intro b conn key text serves notLocal
    exact leaves_of_holds fun a h' completed =>
      (addComment_server text serves holds key notLocal).holds_after (Within.of_pure ()) holds completed
  case commentUnserved =>
    intro key text unserved
    obtain ⟨lines, ran⟩ := addComment_unserved text unserved key h
    exact logsOnly_leaves ⟨(), lines, ran⟩ holds
  case reopenLocal =>
    intro c p conn key taint id serves uncached parsed
    exact reopen_removes serves holds key taint uncached parsed
  case reopenServer =>
    intro c p conn key taint serves cached
    exact leaves_of_holds fun a h' completed => (reopen_server key taint serves cached).holds_after
      (afterTransition_quiet s (bindingPath_apart_local c p) key taint false true) holds completed
  case reopenNotLocal =>
    intro c p conn key taint serves uncached parsed
    exact logsOnly_leaves ⟨false, [], by rw [reopen_notLocal key taint serves uncached parsed, List.append_nil]⟩
      holds
  case reopenUnserved =>
    intro key taint unserved
    obtain ⟨lines, ran⟩ := reopen_unserved key taint unserved h
    exact logsOnly_leaves ⟨false, lines, ran⟩ holds
  case reopenFile =>
    intro served path
    exact reopenAll_completes served holds path
  case resyncServed =>
    intro b conn serves
    exact leaves_of_holds fun a h' completed =>
      (resync_served serves holds).holds_after holds ((settles_log _).bind fun _ => settles_pure true) completed
  case resyncUnserved =>
    intro unserved
    obtain ⟨lines, ran⟩ := resync_unserved unserved h
    exact logsOnly_leaves ⟨false, lines, ran⟩ holds
  case permission =>
    intro connection key
    exact keepsLocal_holds (checkPermission_keepsLocal s connection key) holds
  case anticipated => exact keepsLocal_holds (Within.keepsLocal_of_quiet (checkAnticipated_quiet s scope)) holds
  case replace =>
    intro metas
    exact keepsLocal_holds (Within.keepsLocal_of_quiet (replaceServerFindings_quiet s scope metas)) holds

/-- Reopening a file of a served scope completes on an empty host. -/
theorem reopenAll_completes_on_empty_host :
    liveService.Serves "S" ⟨.str "c", .str "P"⟩ liveConnection ∧
      LocalOnly.Holds ({} : Host).files LocalStore.empty ∧
      ∃ h', (liveService.reopenAll "S" (.str "a.py")).run {} = .ok true h' ∧
        ∃ st', LocalOnly.Holds h'.files st' ∧ st'.findings = [] := by
  have holds : LocalOnly.Holds ({} : Host).files LocalStore.empty := LocalOnly.holds_of_free rfl
  exact ⟨liveService_serves, holds,
    (operations_change_store_exactly liveService "S" _ {} holds).2.2.2.2.2.2.2.2.2.2.1
      (.inl ⟨_, _, liveService_serves⟩) (.str "a.py")⟩

end IssueSync
