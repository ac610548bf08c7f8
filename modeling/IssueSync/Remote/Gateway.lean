import IssueSync.Remote.Client
import IssueSync.Data.Json.Bytes
import IssueSync.Config.Connection
import IssueSync.Finding.Basic
import IssueSync.Number.FloatText

/-!
# The server's issue and system endpoints

Calls to one connection's server. Every request goes to the connection's URL followed by the
endpoint's path, asks for JSON and carries the connection's token as a bearer credential when it
has one. A failure to reach the server, or a reply that is no success after redirections, is a
transport problem naming the method and path; a body that is no JSON document, or not of the
expected shape, is a malformed response.
-/

namespace IssueSync.Remote

/-- An issue as the search finds it: its key and the transitions its caller may apply. -/
structure ServerIssue where
  key : String
  transitions : List String

/-- The server's answer about itself. -/
structure ServerStatus where
  version : String
  status : Value := .null
  serverId : Value := .null

/-- The text of a query parameter's value. -/
def paramText : Value → String
  | .str s => s
  | .bool true => "true"
  | .bool false => "false"
  | .null => ""
  | .int n => toString n
  | .float x => Number.renderFloat x
  | v => v.display

/-- The query pairs of a parameter: one per item of a list, else one. -/
def paramPairs (name : String) : Value → List (String × String)
  | .list xs => xs.map fun x => (name, paramText x)
  | v => [(name, paramText v)]

/-- The transport problem of a call. -/
def transportFailure (message : String) (status : Option Nat) : Failure :=
  .problem (.transport message status)

/-- A malformed response. -/
def malformed {α : Type} : Run α := Run.fail (.problem .malformedResponse)

/-- Calls an endpoint of a connection's server; the reply of a success. -/
def call (c : Connection) (method path : String) (params : List (String × String))
    (payload : Payload := .none) : Run Reply := do
  let auth := match c.token with
    | some t => if t.isEmpty then none else some ("Bearer " ++ t)
    | none => none
  match ← send { method, url := c.url ++ path, params, auth, payload } with
  | .fail message => Run.fail (transportFailure s!"{method} {path} failed: {message}" none)
  | .reply r =>
    if r.isSuccess then pure r
    else Run.fail (transportFailure s!"{method} {path} failed with HTTP {r.status}" (some r.status))

/-- The JSON document of a reply's body. -/
def replyJson (r : Reply) : Run Value :=
  match r.body with
  | .json v => pure v
  | .empty => malformed
  | .text t => match Json.readBytes t.toUTF8 with
    | some v => pure v
    | none => malformed
  | .bytes b => match Json.readBytes b with
    | some v => pure v
    | none => malformed

/-- Finds one issue and the transitions available to the caller. -/
def searchByKey (c : Connection) (key : String) : Run ServerIssue := do
  let org := if c.isCloud && c.organization.truthy then [("organization", paramText c.organization)]
    else []
  let r ← call c "GET" Endpoint.search.path
    ([("issues", key), ("additionalFields", "transitions"), ("ps", "1"), ("p", "1")] ++ org)
  let body ← replyJson r
  let issues ← match body with
    | .dict es => match Value.field? es "issues" with
      | some (.list items) => pure items
      | _ => malformed
    | _ => malformed
  if issues.isEmpty then Run.fail (.problem (.notFound key))
  let entries ← issues.mapM fun i => match i with
    | .dict es => pure es
    | _ => malformed
  match entries.find? fun es => (Value.fieldD es "key").equal (.str key) with
  | none => Run.fail (.problem (.notFound key))
  | some es =>
    match (Value.field? es "transitions").getD (.list []) with
    | .list ts =>
      let names := ts.filterMap Value.text?
      if names.length == ts.length then pure { key, transitions := names } else malformed
    | _ => malformed

/-- Applies a transition to an issue. -/
def doTransition (c : Connection) (key code : String) : Run Unit :=
  discard (call c "POST" Endpoint.doTransition.path [] (.form [("issue", key), ("transition", code)]))

/-- Comments an issue. -/
def addComment (c : Connection) (key text : String) : Run Unit :=
  discard (call c "POST" Endpoint.addComment.path [] (.form [("issue", key), ("text", text)]))

/-- Sends the complete list of resolved local findings of a project. -/
def anticipatedTransitions (c : Connection) (project : Value) (findings : List LocalFinding) :
    Run Unit := do
  let payload ← Run.lift (findings.mapM LocalFinding.anticipatedTransition)
  discard (call c "POST" Endpoint.anticipated.path (paramPairs "projectKey" project)
    (.json (.list payload)))

/-- Asks the server for its version and status. -/
def systemStatus (c : Connection) : Run ServerStatus := do
  let r ← call c "GET" Endpoint.status.path []
  match ← replyJson r with
  | .dict es =>
    match Value.field? es "version" with
    | some (.str v) =>
      pure { version := v, status := Value.fieldD es "status", serverId := Value.fieldD es "id" }
    | _ => malformed
  | _ => malformed

end IssueSync.Remote
