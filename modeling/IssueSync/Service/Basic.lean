import IssueSync.Remote.Gateway
import IssueSync.Store.LocalOnly
import IssueSync.Store.ServerFindings
import IssueSync.Config.Scope
import IssueSync.Finding.ResolvedSet

/-!
# The issue service

The service that resolves, comments and reopens findings: its configuration (scopes and
connections, of which connections can be removed while it runs) and its telemetry (whether
status changes are recorded as events, and whether they are counted). This module holds what
every operation shares: finding the live connection a scope is bound to, recording a status
change, and sending the complete resolved set of a scope's local findings.
-/

namespace IssueSync

open IssueSync.Remote

/-- An issue service. -/
structure Service where
  scopes : Scopes
  connections : List (String × Connection)
  /-- Whether status changes are recorded as events. -/
  telemetry : Bool := true
  /-- Whether status changes are counted in the host's counter. -/
  counted : Bool := true

namespace Service

/-- The live connection with an id; a missing one is logged as gone. -/
def connection? (s : Service) (id : Value) : Run (Option Connection) := do
  match id with
  | .str c =>
    match s.connections.lookup c with
    | some conn => return some conn
    | none =>
      Run.log s!"Connection '{c}' is gone"
      return none
  | .list _ | .dict _ => Run.fail (Scopes.unhashable id)
  | v =>
    Run.log s!"Connection '{v.display}' is gone"
    return none

/-- The binding of a scope (or of its closest bound ancestor). -/
def binding? (s : Service) (scope : String) : Run (Option Binding) :=
  Run.lift (s.scopes.effectiveBinding (.str scope))

/-- The binding of a scope and its live connection, if both exist. -/
def bound? (s : Service) (scope : String) : Run (Option (Binding × Connection)) := do
  match ← s.binding? scope with
  | none => return none
  | some b =>
    match ← s.connection? b.connectionId with
    | none => return none
    | some conn => return some (b, conn)

/-- The file of the server findings of a binding. A binding is looked up by its two parts, so
both must be hashable, and each names a directory or file, so both must be text. -/
def bindingFile (b : Binding) : Run String := do
  if !b.connectionId.hashable then Run.fail (Scopes.unhashable b.connectionId)
  if !b.projectKey.hashable then Run.fail (Scopes.unhashable b.projectKey)
  match b.connectionId, b.projectKey with
  | .str c, .str p => return Store.bindingPath c p
  | _, _ => Run.fail (.badType "quote_from_bytes() expected bytes")

/-- Records a status change of a rule: counted, and appended to the event log. A failure to
append is logged and never fails the caller. -/
def statusChanged (s : Service) (rule : Value) : Run Unit := do
  if !s.telemetry then return
  if s.counted then Run.countChange rule
  try
    Run.appendEvent (Value.object [("type", .str "issue_status_changed"), ("rule_key", rule)])
  catch f =>
    Run.log s!"telemetry: could not record status change for {rule.display}: {f.message}"

/-- Sends the complete resolved set of a scope: its stored local findings with `incl` in place
of the stored copy (or added), without the excluded ids, resolved ones only. A failure of the
server becomes a failed operation of the given stage. -/
def pushResolvedSet (conn : Connection) (b : Binding) (scope : String)
    (incl : Option LocalFinding) (exclude : List Uuid) (stage : FailedStage) :
    Run (List LocalFinding) := do
  let resolved := resolvedSet (← LocalOnly.loadAll scope) incl exclude
  try anticipatedTransitions conn b.projectKey resolved
  catch
    | .problem p => Run.fail (.problem (.failed stage
        s!"Could not send anticipated transitions for project {b.projectKey.display}" (some p)))
    | f => Run.fail f
  return resolved

end Service

end IssueSync
