import Mathlib.Order.Defs.LinearOrder
import IssueSync.Proofs.Queries

/-!
# Whether a finding may be resolved

A permission check answers with the statuses a finding may be resolved with: it is permitted
exactly when there is one, and gives a reason exactly when there is none. A connection that is not
configured fails the check before anything is sent. A key that is the id of a stored local finding
is judged without asking the server, from the version cached for it: the cloud service and a
server of unknown version offer nothing, a server from 10.2 on the legacy vocabulary, and from
10.4 on the current one. Any other key is searched once; a failed search fails the check with the
same failure, and otherwise the transitions the server reports decide, the current vocabulary
first.
-/

set_option autoImplicit false

namespace IssueSync

open IssueSync.Store IssueSync.Remote

/-! ## Versions and vocabularies -/

/-- A server recent enough for Accept takes resolutions of local findings. -/
theorem Version.satisfies_anticipated_of_accept {v : Version} (recent : v.satisfies acceptMinimum = true) :
    v.satisfies anticipatedMinimum = true := by
  unfold Version.satisfies Version.compareIgnoringQualifier at *
  -- both minimums have two parts, so a version is padded to the same width against either
  have sameWidth : max v.parts.length anticipatedMinimum.parts.length =
      max v.parts.length acceptMinimum.parts.length := rfl
  simp only [sameWidth, bne_iff_ne, ne_eq] at *
  generalize max v.parts.length acceptMinimum.parts.length = width at *
  have above : compare (acceptMinimum.padded width) (anticipatedMinimum.padded width) = .gt := by
    simp [Version.padded, acceptMinimum, anticipatedMinimum, compare, List.compareLex, compareOfLessAndEq]
  rw [Std.TransCmp.gt_of_ge_of_gt recent above]
  simp

/-- The statuses offered for a stored local finding, by the version cached for its server: none
without one, the current vocabulary from 10.4 on, the legacy one from 10.2 on. -/
def localOnlyStatuses : Option Version → List ResolutionStatus
  | none => []
  | some v =>
    if v.satisfies acceptMinimum then currentVocabulary
    else if v.satisfies anticipatedMinimum then legacyVocabulary
    else []

/-- What the transitions `available` of an issue offer: the current vocabulary when they hold
Accept and False Positive, the legacy one when they hold Won't Fix and False Positive but not
Accept, and nothing otherwise; and only statuses whose transition is available. -/
structure OfferedBy (available : List String) (statuses : List ResolutionStatus) : Prop where
  current : statuses = currentVocabulary ↔ "accept" ∈ available ∧ "falsepositive" ∈ available
  legacy : statuses = legacyVocabulary ↔
    "wontfix" ∈ available ∧ "falsepositive" ∈ available ∧ "accept" ∉ available
  none : statuses = [] ↔
    ¬("accept" ∈ available ∧ "falsepositive" ∈ available) ∧
      ¬("wontfix" ∈ available ∧ "falsepositive" ∈ available ∧ "accept" ∉ available)
  offered : ∀ st ∈ statuses, st.transition.code ∈ available

theorem vocabularyFor_offeredBy (available : List String) :
    OfferedBy available (vocabularyFor available) := by
  have currentLegacy : currentVocabulary ≠ legacyVocabulary := by decide
  by_cases current : "accept" ∈ available ∧ "falsepositive" ∈ available
  · have chosen : vocabularyFor available = currentVocabulary := by
      simp [vocabularyFor, currentVocabulary, ResolutionStatus.transition, Transition.code, current]
    rw [chosen]
    refine ⟨iff_of_true rfl current, iff_of_false currentLegacy fun ⟨_, _, noAccept⟩ => noAccept current.1,
      iff_of_false (by decide) fun ⟨notCurrent, _⟩ => notCurrent current, ?_⟩
    simp [currentVocabulary, ResolutionStatus.transition, Transition.code, current]
  by_cases legacy : "wontfix" ∈ available ∧ "falsepositive" ∈ available
  · have noAccept : "accept" ∉ available := fun accept => current ⟨accept, legacy.2⟩
    have chosen : vocabularyFor available = legacyVocabulary := by
      simp [vocabularyFor, currentVocabulary, legacyVocabulary, ResolutionStatus.transition,
        Transition.code, noAccept, legacy]
    rw [chosen]
    refine ⟨iff_of_false currentLegacy.symm current, iff_of_true rfl ⟨legacy.1, legacy.2, noAccept⟩,
      iff_of_false (by decide) fun ⟨_, notLegacy⟩ => notLegacy ⟨legacy.1, legacy.2, noAccept⟩, ?_⟩
    simp [legacyVocabulary, ResolutionStatus.transition, Transition.code, legacy]
  · have chosen : vocabularyFor available = [] := by
      simp only [vocabularyFor, currentVocabulary, legacyVocabulary, List.all_cons, List.all_nil,
        ResolutionStatus.transition, Transition.code, Bool.and_true, Bool.and_eq_true, List.contains_iff_mem]
      rw [if_neg current, if_neg legacy]
    rw [chosen]
    have notLegacy : ¬("wontfix" ∈ available ∧ "falsepositive" ∈ available ∧ "accept" ∉ available) :=
      fun ⟨wontfix, falsepositive, _⟩ => legacy ⟨wontfix, falsepositive⟩
    exact ⟨iff_of_false (by decide) current, iff_of_false (by decide) notLegacy,
      iff_of_true rfl ⟨current, notLegacy⟩, by simp⟩

/-- An outcome is permitted exactly when it offers a status, and has a reason exactly when not. -/
theorem PermissionOutcome.ofStatuses_consistent (statuses : List ResolutionStatus) (reason : String) :
    (PermissionOutcome.ofStatuses statuses reason).permitted =
        !(PermissionOutcome.ofStatuses statuses reason).allowedStatuses.isEmpty ∧
      ((PermissionOutcome.ofStatuses statuses reason).reason = none ↔
        (PermissionOutcome.ofStatuses statuses reason).permitted = true) := by
  cases statuses <;> simp [PermissionOutcome.ofStatuses]

/-! ## The capability of a connection -/

/-- A version found in the cache is read without touching the host. -/
theorem ServerInfo.read_found {c : String} {h h' : Host} {info : ServerInfo}
    (found : (ServerInfo.read c).run h = .ok (some info) h') : h' = h := by
  rcases ServerInfo.read_cases c h with ⟨_, ran⟩ | ⟨_, ran⟩ | ⟨_, ran⟩ <;> rw [ran] at found
  · exact (EStateM.Result.ok.inj found).2.symm
  · cases found
  · cases found

namespace Capability

variable {conn : Connection} {h h' : Host}

theorem of_cloud (cloud : conn.isCloud = true) (h : Host) :
    (Capability.of conn).run h = .ok { supportsAnticipated := false } h := by
  simp only [Capability.of, supportsAnticipated, cloud, if_true, EStateM.run_bind, EStateM.run_pure]
  rfl

theorem of_unread (notCloud : conn.isCloud = false) {f : Failure}
    (failed : (ServerInfo.read conn.id).run h = .error f h') :
    (Capability.of conn).run h = .error f h' := by
  simp only [Capability.of, supportsAnticipated, notCloud, Bool.false_eq_true, if_false, EStateM.run_bind,
    failed]

/-- On a server of its own, the statuses of local findings are read from the cached version; the
version is read again for them, and found again, so nothing is fetched. -/
theorem of_cached (notCloud : conn.isCloud = false) {cached : Option ServerInfo}
    (read : (ServerInfo.read conn.id).run h = .ok cached h') :
    ∃ supported, (Capability.of conn).run h =
      .ok { supportsAnticipated := supported, vocabulary := localOnlyStatuses (cached.map (·.version)) } h' := by
  cases cached with
  | none =>
    refine ⟨false, ?_⟩
    simp only [Capability.of, supportsAnticipated, notCloud, Bool.false_eq_true, if_false, EStateM.run_bind,
      read, EStateM.run_pure]
    rfl
  | some info =>
    obtain rfl := ServerInfo.read_found read
    refine ⟨info.version.satisfies anticipatedMinimum, ?_⟩
    by_cases anticipated : info.version.satisfies anticipatedMinimum = true
    · simp only [Capability.of, supportsAnticipated, vocabularyForLocalOnly, readOrSynchronize, notCloud,
        Bool.false_eq_true, if_false, EStateM.run_bind, read, EStateM.run_pure, anticipated, Bool.not_true]
      by_cases accept : info.version.satisfies acceptMinimum = true <;>
        simp [localOnlyStatuses, accept, anticipated]
    · -- below 10.2 the server is below 10.4 too, so no status is offered
      have old : info.version.satisfies acceptMinimum = false := by
        cases accept : info.version.satisfies acceptMinimum
        · rfl
        · exact absurd (Version.satisfies_anticipated_of_accept accept) anticipated
      simp only [Bool.not_eq_true] at anticipated
      simp only [Capability.of, supportsAnticipated, notCloud, Bool.false_eq_true, if_false, EStateM.run_bind,
        read, EStateM.run_pure, anticipated, Bool.not_false, if_true]
      simp [localOnlyStatuses, old, anticipated]

end Capability

/-! ## The check -/

namespace Service

variable {s : Service} {conn : Connection} {h : Host} {st : LocalStore}

theorem checkPermission_unknown {connection : String} (gone : s.connections.lookup connection = none)
    (key : String) (h : Host) :
    (s.checkPermission connection key).run h =
      .error (.problem (.unknownConnection connection))
        { h with logs := h.logs ++ [s!"Connection '{connection}' is gone"] } := by
  simp only [checkPermission, connection?, EStateM.run_bind, gone]
  rfl

theorem checkPermission_stored_run (holds : LocalOnly.Holds h.files st) {connection : String}
    (live : s.connections.lookup connection = some conn) {key : String} {id : Uuid}
    (parsed : asLocalId key = some id) (stored : (st.findings.find? (·.id == id)).isSome) :
    (s.checkPermission connection key).run h =
      (Capability.of conn >>= fun cap =>
        pure (PermissionOutcome.ofStatuses cap.vocabulary unsupportedVersionReason)).run h := by
  simp only [checkPermission, connection?, EStateM.run_bind, live, EStateM.run_pure, parsed,
    LocalOnly.find_run holds, stored, if_true]

theorem checkPermission_search_run (holds : LocalOnly.Holds h.files st) {connection : String}
    (live : s.connections.lookup connection = some conn) (key : String)
    (notStored : ∀ id, asLocalId key = some id → st.findings.find? (·.id == id) = none) :
    (s.checkPermission connection key).run h =
      (searchByKey conn key >>= fun issue =>
        pure (PermissionOutcome.ofStatuses (vocabularyFor issue.transitions) permissionMissingReason)).run h := by
  cases parsed : asLocalId key with
  | none =>
    simp only [checkPermission, connection?, EStateM.run_bind, live, EStateM.run_pure, parsed]
  | some id =>
    simp only [checkPermission, connection?, EStateM.run_bind, live, EStateM.run_pure, parsed,
      LocalOnly.find_run holds, notStored id parsed, Option.isSome_none, Bool.false_eq_true, if_false]

end Service

/-- The permission check, over every connection, key, store and answer of the server. An unknown
connection fails it before anything is sent. Otherwise every outcome is permitted exactly when it
offers a status, with a reason exactly when it offers none. A key that is the id of a stored local
finding sends nothing and is judged by the cached version, with the 10.2 reason when nothing is
offered; any other key is searched once, a failed search fails the check as it failed, and the
transitions found decide, with the permission reason when nothing is offered. -/
theorem permission_decision (s : Service) (connection key : String) (st : LocalStore) (h : Host)
    (holds : LocalOnly.Holds h.files st) :
    (s.connections.lookup connection = none →
      (s.checkPermission connection key).run h =
        .error (.problem (.unknownConnection connection))
          { h with logs := h.logs ++ [s!"Connection '{connection}' is gone"] }) ∧
    (∀ o h', (s.checkPermission connection key).run h = .ok o h' →
      o.permitted = !o.allowedStatuses.isEmpty ∧ (o.reason = none ↔ o.permitted = true)) ∧
    ∀ conn, s.connections.lookup connection = some conn →
      ((∃ id, asLocalId key = some id ∧ (st.findings.find? (·.id == id)).isSome) →
        (resultHost ((s.checkPermission connection key).run h)).sent = h.sent ∧
        (conn.isCloud = true →
          (s.checkPermission connection key).run h = .ok (.ofStatuses [] unsupportedVersionReason) h) ∧
        (conn.isCloud = false → ∀ cached h', (ServerInfo.read conn.id).run h = .ok cached h' →
          (s.checkPermission connection key).run h =
            .ok (.ofStatuses (localOnlyStatuses (cached.map (·.version))) unsupportedVersionReason) h') ∧
        (conn.isCloud = false → ∀ f h', (ServerInfo.read conn.id).run h = .error f h' →
          (s.checkPermission connection key).run h = .error f h')) ∧
      ((∀ id, asLocalId key = some id → st.findings.find? (·.id == id) = none) →
        (∃ script new, Hops (searchRequest conn key) (new.map Sent.request) ∧
          resultHost ((s.checkPermission connection key).run h) = { h with script, sent := h.sent ++ new }) ∧
        (∀ f h', (searchByKey conn key).run h = .error f h' →
          (s.checkPermission connection key).run h = .error f h') ∧
        ∀ issue h', (searchByKey conn key).run h = .ok issue h' →
          (s.checkPermission connection key).run h =
            .ok (.ofStatuses (vocabularyFor issue.transitions) permissionMissingReason) h' ∧
          OfferedBy issue.transitions (vocabularyFor issue.transitions)) := by
  refine ⟨fun gone => Service.checkPermission_unknown gone key h, fun o h' ran => ?_, fun conn live => ⟨?_, ?_⟩⟩
  · -- both ways to an outcome build it from a list of statuses
    cases found : s.connections.lookup connection with
    | none => rw [Service.checkPermission_unknown found] at ran; cases ran
    | some conn =>
      by_cases stored : ∃ id, asLocalId key = some id ∧ (st.findings.find? (·.id == id)).isSome
      · obtain ⟨id, parsed, present⟩ := stored
        rw [Service.checkPermission_stored_run holds found parsed present, EStateM.run_bind] at ran
        cases capable : (Capability.of conn).run h with
        | ok cap _ =>
          rw [capable] at ran
          cases ran
          exact PermissionOutcome.ofStatuses_consistent _ _
        | error _ _ => rw [capable] at ran; cases ran
      · have notStored : ∀ id, asLocalId key = some id → st.findings.find? (·.id == id) = none :=
          fun id parsed => Option.not_isSome_iff_eq_none.mp fun present => stored ⟨id, parsed, present⟩
        rw [Service.checkPermission_search_run holds found key notStored, EStateM.run_bind] at ran
        cases searched : (searchByKey conn key).run h with
        | ok issue _ =>
          rw [searched] at ran
          cases ran
          exact PermissionOutcome.ofStatuses_consistent _ _
        | error _ _ => rw [searched] at ran; cases ran
  · rintro ⟨id, parsed, present⟩
    obtain ⟨g, stored⟩ := Option.isSome_iff_exists.mp present
    have judged := Service.checkPermission_stored_run holds live parsed present (h := h)
    refine ⟨(Service.checkPermission_stored holds live parsed stored).1, fun cloud => ?_,
      fun notCloud cached h' read => ?_, fun notCloud f h' failed => ?_⟩
    · rw [judged, EStateM.run_bind, Capability.of_cloud cloud]
      rfl
    · obtain ⟨supported, capable⟩ := Capability.of_cached notCloud read
      rw [judged, EStateM.run_bind, capable]
      rfl
    · rw [judged, EStateM.run_bind, Capability.of_unread notCloud failed]
  · intro notStored
    have judged := Service.checkPermission_search_run holds live key notStored (h := h)
    refine ⟨Service.checkPermission_search holds live key notStored, fun f h' failed => ?_,
      fun issue h' found => ⟨?_, vocabularyFor_offeredBy _⟩⟩
    · rw [judged, EStateM.run_bind, failed]
    · rw [judged, EStateM.run_bind, found]
      rfl

/-- A check on a connection that is not configured, with nothing stored, fails and logs the
connection as gone. -/
theorem unknown_connection_fails_check :
    LocalOnly.Holds ({} : Host).files LocalStore.empty ∧
      (({ scopes := [], connections := [] } : Service).checkPermission "gone" "KEY-1").run {} =
        .error (.problem (.unknownConnection "gone")) { logs := ["Connection 'gone' is gone"] } := by
  have holds : LocalOnly.Holds ({} : Host).files LocalStore.empty := LocalOnly.holds_of_free rfl
  exact ⟨holds, (permission_decision _ "gone" "KEY-1" _ {} holds).1 rfl⟩

end IssueSync
