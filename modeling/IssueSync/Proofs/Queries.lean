import IssueSync.Proofs.Operations

/-!
# Questions to the server, and keeping the cache

The operations that resolve nothing: whether a finding may be resolved, whether a server takes
resolutions of local findings, replacing the cache of server findings and recording local
findings. None of them touches the store of local findings except the last, and none sends
anything except the search a permission check makes for a key that is no stored local id. A
capability is judged from the cached version: the version is fetched only when none is cached,
and the statuses are asked for only when one is.
-/

set_option autoImplicit false

namespace IssueSync

open IssueSync.Store IssueSync.Remote

/-- Reading the server information of a connection either finds it, leaving the host as it was,
or finds none, having logged at most a line about an unreadable version, or fails. -/
theorem ServerInfo.read_cases (c : String) (h : Host) :
    (∃ info, (ServerInfo.read c).run h = .ok (some info) h) ∨
      (∃ lines, (ServerInfo.read c).run h = .ok none { h with logs := h.logs ++ lines }) ∨
      ∃ f, (ServerInfo.read c).run h = .error f h := by
  unfold ServerInfo.read
  simp only [EStateM.run_bind, Run.readJson_run]
  cases h.files.readJson (serverInfoPath c) with
  | error f => exact .inr (.inr ⟨f, rfl⟩)
  | ok doc =>
    simp only
    split
    · split
      · exact .inr (.inl ⟨[], by rw [List.append_nil]; rfl⟩)
      · split
        · exact .inr (.inl ⟨[_], rfl⟩)
        · exact .inr (.inr ⟨_, rfl⟩)
        · rename_i es _ _ _ _
          by_cases synced : (Value.fieldD es "synced_at").truthy = true
          · simp only [synced, if_true, EStateM.run_bind, Run.discard_run, Run.lift_run]
            cases Stamp.ofValue (Value.fieldD es "synced_at") with
            | error f => exact .inr (.inr ⟨f, rfl⟩)
            | ok _ => exact .inl ⟨_, rfl⟩
          · simp only [synced, Bool.false_eq_true, if_false]
            exact .inl ⟨_, rfl⟩
    · exact .inr (.inl ⟨[], by rw [List.append_nil]; rfl⟩)

/-- Judging a connection's capability sends nothing: the version is fetched only when none is
cached, and capability asks for the vocabulary only when a version is cached. -/
theorem Capability.of_quiet (conn : Connection) : Within .quiet (Capability.of conn) := by
  intro h
  unfold Capability.of Capability.supportsAnticipated
  by_cases cloud : conn.isCloud = true
  · simp only [cloud, if_true, EStateM.run_bind, EStateM.run_pure]
    exact ⟨rfl, rfl⟩
  · rcases ServerInfo.read_cases conn.id h with ⟨info, found⟩ | ⟨lines, absent⟩ | ⟨f, failed⟩
    · simp only [cloud, Bool.false_eq_true, if_false, EStateM.run_bind, found, EStateM.run_pure]
      split
      · exact ⟨rfl, rfl⟩
      · simp only [Capability.vocabularyForLocalOnly, Capability.readOrSynchronize, cloud, Bool.false_eq_true,
          if_false, EStateM.run_bind, found, EStateM.run_pure]
        split <;> exact ⟨rfl, rfl⟩
    · simp only [cloud, Bool.false_eq_true, if_false, EStateM.run_bind, absent, EStateM.run_pure]
      exact ⟨rfl, rfl⟩
    · simp only [cloud, Bool.false_eq_true, if_false, EStateM.run_bind, failed]
      exact ⟨rfl, rfl⟩

theorem ServerInfo.read_quiet (c : String) : Within .quiet (ServerInfo.read c) := by
  intro h
  rcases ServerInfo.read_cases c h with ⟨info, ran⟩ | ⟨lines, ran⟩ | ⟨f, ran⟩ <;> rw [ran] <;> exact ⟨rfl, rfl⟩

theorem Capability.supportsAnticipated_quiet (conn : Connection) :
    Within .quiet (Capability.supportsAnticipated conn) := by
  unfold Capability.supportsAnticipated
  split
  · exact Within.of_pure _
  · exact Within.bind (ServerInfo.read_quiet _) fun info? => by split <;> exact Within.of_pure _

namespace Service

theorem connection?_quiet (s : Service) (id : Value) : Within .quiet (s.connection? id) := by
  unfold connection?
  split
  · split
    · exact Within.of_pure _
    · exact Within.bind (Within.log _) fun _ => Within.of_pure _
  all_goals first
    | exact Within.fail _
    | exact Within.bind (Within.log _) fun _ => Within.of_pure _

theorem checkAnticipated_quiet (s : Service) (scope : String) : Within .quiet (s.checkAnticipated scope) := by
  unfold checkAnticipated binding?
  refine Within.bind (Within.lift _) fun b? => ?_
  split
  · refine Within.bind (connection?_quiet s _) fun conn? => ?_
    split
    · exact Capability.supportsAnticipated_quiet _
    · exact Within.fail _
  · exact Within.fail _

theorem bindingFile_refused {b : Binding} (notText : ∀ c p, b ≠ ⟨.str c, .str p⟩) (h : Host) :
    ∃ f, (bindingFile b).run h = .error f h := by
  unfold bindingFile
  dsimp only
  split
  · exact ⟨_, rfl⟩
  · split
    · exact ⟨_, rfl⟩
    · split
      · rename_i c p named _
        exact absurd (by cases b; simp_all) (notText c p)
      · exact ⟨_, rfl⟩


theorem replaceServerFindings_quiet (s : Service) (scope : String) (metas : List FindingMeta) :
    Within .quiet (s.replaceServerFindings scope metas) := by
  unfold replaceServerFindings binding?
  refine Within.bind (Within.lift _) fun b? => ?_
  split
  · rename_i b
    by_cases text : ∃ c p, b = ⟨.str c, .str p⟩
    · obtain ⟨c, p, rfl⟩ := text
      intro h
      rw [EStateM.run_bind, bindingFile_text]
      refine Within.bind ?_ (fun _ => Within.of_pure _) h
      unfold ServerFindings.replaceAll
      exact Within.writeJson (bindingPath_apart_local c p) _
    · intro h
      obtain ⟨f, refused⟩ := bindingFile_refused (fun c p same => text ⟨c, p, same⟩) h
      rw [EStateM.run_bind, refused]
      exact Frame.quiet.refl h
  · exact Within.fail _

theorem records_within {F : Frame} : Within F LocalOnly.records := by
  unfold LocalOnly.records
  exact Within.bind (Within.readJson _) fun _ => by split <;> exact Within.of_pure _

theorem recordLocalOnly_silent (s : Service) (scope : String) (findings : List LocalFinding) :
    Within .silent (s.recordLocalOnly scope findings) := by
  unfold recordLocalOnly LocalOnly.storeAll
  refine Within.bind (Within.bind records_within fun rs => ?_) fun stored =>
    Within.bind (Within.silent_of_quiet (Within.log _)) fun _ => Within.of_pure _
  refine Within.bind (Within.forIn_list _ _ _ fun f acc => ?_) fun acc => ?_
  · -- each step of the loop reads and sets records of the value in hand, and touches nothing
    dsimp only
    repeat (first | exact Within.of_pure _ | refine Within.bind (Within.lift _) fun _ => ?_ | split)
  · dsimp only
    split
    · exact Within.bind (Within.writeJson_silent _ _) fun _ => Within.of_pure _
    · exact Within.of_pure _

end Service

namespace Remote

/-- The request that searches one issue with its transitions. -/
def searchRequest (c : Connection) (key : String) : Request :=
  callRequest c "GET" Endpoint.search.path
    ([("issues", key), ("additionalFields", "transitions"), ("ps", "1"), ("p", "1")] ++
      if c.isCloud && c.organization.truthy then [("organization", paramText c.organization)] else [])
    .none

theorem malformed_within {α : Type} {F : Frame} : Within F (malformed : Run α) := Within.fail _

theorem replyJson_within {F : Frame} (r : Reply) : Within F (replyJson r) := by
  unfold replyJson
  split
  · exact Within.of_pure _
  · exact malformed_within
  · split
    · exact Within.of_pure _
    · exact malformed_within
  · split
    · exact Within.of_pure _
    · exact malformed_within

/-- A search sends its request and follows redirections; reading the answer touches nothing. -/
theorem searchByKey_sends (c : Connection) (key : String) (h : Host) :
    ∃ script new, Hops (searchRequest c key) (new.map Sent.request) ∧
      resultHost ((searchByKey c key).run h) = { h with script, sent := h.sent ++ new } := by
  obtain ⟨script, new, hops, answered⟩ := call_run c "GET" Endpoint.search.path
    ([("issues", key), ("additionalFields", "transitions"), ("ps", "1"), ("p", "1")] ++
      if c.isCloud && c.organization.truthy then [("organization", paramText c.organization)] else [])
    .none h
  refine ⟨script, new, hops, ?_⟩
  unfold searchByKey
  rw [EStateM.run_bind]
  rcases answered with ⟨r, ran⟩ | ⟨p, ran⟩
  · rw [ran]
    -- reading the reply and picking the issue out of it only returns or fails
    refine Within.same_run ?_ _
    dsimp only
    refine Within.bind (replyJson_within r) fun body => ?_
    repeat (first
      | exact Within.of_pure _
      | exact Within.fail _
      | exact malformed_within
      | exact Within.mapM _ _ fun i => by split <;> first | exact Within.of_pure _ | exact malformed_within
      | refine Within.bind ?_ fun _ => ?_
      | split)
  · rw [ran]
    rfl

end Remote

namespace Service

variable {s : Service} {conn : Connection} {h : Host} {st : LocalStore}

theorem find_within {F : Frame} (id : Uuid) : Within F (LocalOnly.find id) := by
  unfold LocalOnly.find
  refine Within.bind records_within fun rs => Within.bind (Within.lift _) fun record => ?_
  split
  · exact Within.map _ (Within.lift _)
  · exact Within.of_pure _

theorem searchByKey_keepsLocal (c : Connection) (key : String) : Within .keepsLocal (searchByKey c key) := by
  intro h
  obtain ⟨script, new, -, searched⟩ := searchByKey_sends c key h
  rw [searched]
  rfl

theorem checkPermission_keepsLocal (s : Service) (connection key : String) :
    Within .keepsLocal (s.checkPermission connection key) := by
  unfold checkPermission
  refine Within.bind (Within.keepsLocal_of_quiet (connection?_quiet s _)) fun conn? => ?_
  dsimp only
  split
  · rename_i conn
    split
    · refine Within.bind (find_within _) fun found => ?_
      split
      · exact Within.bind (Within.keepsLocal_of_quiet (Capability.of_quiet conn)) fun _ => Within.of_pure _
      · exact Within.bind (searchByKey_keepsLocal conn key) fun _ => Within.of_pure _
    · exact Within.bind (searchByKey_keepsLocal conn key) fun _ => Within.of_pure _
  · exact Within.fail _

theorem checkPermission_stored (holds : LocalOnly.Holds h.files st) {connection : String}
    (live : s.connections.lookup connection = some conn) {key : String} {id : Uuid}
    (parsed : asLocalId key = some id) {g : LocalFinding} (stored : st.findings.find? (·.id == id) = some g) :
    Frame.quiet.rel h (resultHost ((s.checkPermission connection key).run h)) := by
  simp only [checkPermission, connection?, EStateM.run_bind, live, EStateM.run_pure, parsed,
    LocalOnly.find_run holds, stored, Option.isSome_some, if_true]
  exact (Within.bind (Capability.of_quiet conn) fun _ => Within.of_pure _) h

theorem checkPermission_search (holds : LocalOnly.Holds h.files st) {connection : String}
    (live : s.connections.lookup connection = some conn) (key : String)
    (notStored : ∀ id, asLocalId key = some id → st.findings.find? (·.id == id) = none) :
    ∃ script new, Hops (searchRequest conn key) (new.map Sent.request) ∧
      resultHost ((s.checkPermission connection key).run h) = { h with script, sent := h.sent ++ new } := by
  obtain ⟨script, new, hops, searched⟩ := searchByKey_sends conn key h
  refine ⟨script, new, hops, ?_⟩
  rw [← searched, ← resultHost_bind_pure (searchByKey conn key) fun issue =>
    PermissionOutcome.ofStatuses (vocabularyFor issue.transitions) permissionMissingReason]
  cases parsed : asLocalId key with
  | none =>
    simp only [checkPermission, connection?, EStateM.run_bind, live, EStateM.run_pure, parsed]
  | some id =>
    simp only [checkPermission, connection?, EStateM.run_bind, live, EStateM.run_pure, parsed,
      LocalOnly.find_run holds, notStored id parsed, Option.isSome_none, Bool.false_eq_true, if_false]

end Service

end IssueSync
