import IssueSync.Service.Capability

/-!
# Resolving, commenting and reopening

The operations of the issue service. A key the cache of server findings holds is changed on the
server through the issue endpoints, and the cache follows. Any other key must be the id of a
local finding: its new state is announced by sending the complete resolved set of its scope,
and stored only once the server took it. Without a binding or a live connection most
operations do nothing.
-/

namespace IssueSync

open IssueSync.Remote

/-- Whether a finding may be resolved, and with which statuses. -/
structure PermissionOutcome where
  permitted : Bool
  reason : Option String
  allowedStatuses : List ResolutionStatus

/-- The reason given when the server offers no resolving transition. -/
def permissionMissingReason : String :=
  "Marking an issue as resolved requires the 'Administer Issues' permission"

/-- The reason given when the server takes no resolutions of local findings. -/
def unsupportedVersionReason : String :=
  "Marking a local-only issue as resolved requires SonarQube 10.2+"

/-- The outcome of the statuses available: permitted when there is one. -/
def PermissionOutcome.ofStatuses (statuses : List ResolutionStatus) (reason : String) :
    PermissionOutcome :=
  { permitted := !statuses.isEmpty, reason := if statuses.isEmpty then some reason else none,
    allowedStatuses := statuses }

namespace Service

/-- A failed call of an operation's stage, with the problem that caused it. -/
def failedWith {α : Type} (stage : FailedStage) (message : String) (m : Run α) : Run α :=
  try m
  catch
    | .problem p => Run.fail (.problem (.failed stage message (some p)))
    | f => Run.fail f

/-- Tells whether a finding may be resolved on a connection, and with which statuses. A stored
local finding is judged by the server's version; any other key by the transitions the server
offers for it. -/
def checkPermission (s : Service) (connection key : String) : Run PermissionOutcome := do
  let some conn ← s.connection? (.str connection)
    | Run.fail (.problem (.unknownConnection connection))
  if let some id := asLocalId key then
    if (← LocalOnly.find id).isSome then
      let cap ← Capability.of conn
      return PermissionOutcome.ofStatuses cap.vocabulary unsupportedVersionReason
  let issue ← searchByKey conn key
  return PermissionOutcome.ofStatuses (vocabularyFor issue.transitions) permissionMissingReason

/-- Resolves a finding with a status. -/
def changeStatus (s : Service) (scope key : String) (status : ResolutionStatus) (taint : Bool) :
    Run Unit := do
  let some (b, conn) ← s.bound? scope | return
  let file ← bindingFile b
  if ← ServerFindings.contains file key taint then
    failedWith .statusChange s!"Could not change status of issue {key}"
      (doTransition conn key status.transition.code)
    if let some m ← ServerFindings.updateResolution file key taint true then
      s.statusChanged m.ruleKey
    return
  let notFound := Failure.problem (.failed .statusChange s!"Issue key {key} was not found" none)
  let some id := asLocalId key | Run.fail notFound
  let some f ← LocalOnly.find id | Run.fail notFound
  let f := f.resolve status
  discard (pushResolvedSet conn b scope (some f) [] .statusChange)
  LocalOnly.store scope f
  s.statusChanged f.ruleKey

/-- Comments a resolved local finding; false when there is nothing to comment here. -/
def commentLocalOnly (s : Service) (scope : String) (id : Uuid) (text : String) : Run Bool := do
  let some (b, conn) ← s.bound? scope | return false
  let some f ← LocalOnly.find id | return false
  let some r := f.resolution | return false
  let f := { f with resolution := some { r with comment := .str text } }
  discard (pushResolvedSet conn b scope (some f) [] .comment)
  LocalOnly.store scope f
  return true

/-- Comments a resolved local finding, or else any server issue. -/
def addComment (s : Service) (scope key text : String) : Run Unit := do
  if let some id := asLocalId key then
    if ← s.commentLocalOnly scope id text then return
  let some (_, conn) ← s.bound? scope | return
  failedWith .comment s!"Could not add comment to issue {key}" (Remote.addComment conn key text)

/-- Reopens a finding; false when the scope has no live connection or the key is neither a
cached server issue nor a local id. -/
def reopen (s : Service) (scope key : String) (taint : Bool) : Run Bool := do
  let some (b, conn) ← s.bound? scope | return false
  let file ← bindingFile b
  if ← ServerFindings.contains file key taint then
    failedWith .statusChange s!"Could not reopen issue {key}"
      (doTransition conn key Transition.reopen.code)
    if let some m ← ServerFindings.updateResolution file key taint false then
      s.statusChanged m.ruleKey
    return true
  let some id := asLocalId key | return false
  discard (pushResolvedSet conn b scope none [id] .statusChange)
  discard (LocalOnly.removeOne id)
  return true

/-- Drops every local finding of a file and tells the server; a failed push is logged and the
local cleanup happens anyway. -/
def reopenAll (s : Service) (scope : String) (path : Value) : Run Bool := do
  if let some (b, conn) ← s.bound? scope then
    let forFile ← LocalOnly.loadForPath scope path
    try discard (pushResolvedSet conn b scope none (forFile.map (·.id)) .statusChange)
    catch
      | f@(.problem (.failed .statusChange _ _)) =>
        Run.log s!"reopen_all: push for {scope}:{path.display} failed, cleaning up locally anyway: {f.message}"
      | f => Run.fail f
  let removed ← LocalOnly.removeForPath scope path
  Run.log s!"reopen_all: removed {removed} local-only findings for {scope}:{path.display}"
  return true

/-- Whether the server a scope is bound to takes resolutions of local findings. -/
def checkAnticipated (s : Service) (scope : String) : Run Bool := do
  let some b ← s.binding? scope | Run.fail (.problem (.unknownBinding scope))
  let some conn ← s.connection? b.connectionId
    | Run.fail (.problem (.unknownConnection b.connectionId.display))
  Capability.supportsAnticipated conn

/-- Sends the complete resolved set of a scope again; false when it has no live connection. -/
def resync (s : Service) (scope : String) : Run Bool := do
  let some (b, conn) ← s.bound? scope | return false
  let resolved ← pushResolvedSet conn b scope none [] .operation
  Run.log s!"resync: sent {resolved.length} resolved findings for {scope} ({b.projectKey.display})"
  return true

/-- Stores local findings of a scope, keeping resolutions of findings recorded again. Nothing
is sent to the server, so the service's connections play no part. -/
def recordLocalOnly (_service : Service) (scope : String) (findings : List LocalFinding) :
    Run (List LocalFinding) := do
  let stored ← LocalOnly.storeAll scope findings
  Run.log s!"recorded {stored.length} local-only findings for {scope}"
  return stored

/-- Replaces the cached server findings of the project a scope is bound to. -/
def replaceServerFindings (s : Service) (scope : String) (metas : List FindingMeta) :
    Run Binding := do
  let some b ← s.binding? scope | Run.fail (.problem (.unknownBinding scope))
  ServerFindings.replaceAll (← bindingFile b) metas
  return b

end Service

end IssueSync
