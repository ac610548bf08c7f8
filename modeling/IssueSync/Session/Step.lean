import IssueSync.Api.App
import IssueSync.Data.Json.Writer

/-!
# Sessions of steps

A session drives one issue service on one host through a list of steps: service operations,
changes of the stored files and of the scripted server, and questions about capabilities. Each
step answers a value or a failure; a failure does not stop the session, and whatever a step did
before failing stays done.
-/

namespace IssueSync

open IssueSync.Remote IssueSync.Store

/-- The outputs that a plain file can block. -/
inductive Outlet where
  | events
  | logs
deriving DecidableEq, Repr

/-- A file of the store, named by what it holds. -/
inductive StoreFile where
  | localOnly
  | serverInfo (connection : String)
  | binding (connection project : String)

/-- The path of a store file. -/
def StoreFile.path : StoreFile → String
  | .localOnly => localOnlyPath
  | .serverInfo c => serverInfoPath c
  | .binding c p => bindingPath c p

/-- Where the configuration is put for a program started during a session: a file named on the
command line, a file named in the environment, the user's connections file, or nowhere, so that
the shipped file is read. -/
inductive ConfigSource where
  | file
  | env
  | user
  | shipped
deriving DecidableEq, Repr

/-- A step of a session. -/
inductive Step where
  | recordLocalOnly (scope : String) (findings : List LocalFinding)
  | replaceServerFindings (scope : String) (metas : List FindingMeta)
  | setServerVersion (connection : String) (version status : Value)
  | writeFile (file : StoreFile) (content : Entry)
  | checkPermission (connection key : String)
  | changeStatus (scope key : String) (status : Value) (taint : Bool)
  | addComment (scope key text : String)
  | reopen (scope key : String) (taint : Bool)
  | reopenAll (scope : String) (path : Value)
  | checkAnticipated (scope : String)
  | resync (scope : String)
  | capability (connection : String)
  | supportsAnticipated (connection : String)
  | vocabularyForLocalOnly (connection : String)
  | syncServerVersion (connection : String) (force : Bool)
  | search (connection key : String)
  | systemStatus (connection : String)
  | removeConnection (connection : String)
  | setServer (owner : String) (endpoint : Endpoint) (key : String) (answers : Answers)
  | block (outlet : Outlet)
  | unblock (outlet : Outlet)
  | telemetry
  | sweep (argv : List String) (source : ConfigSource)
  | api (calls : List Api.Call) (source : ConfigSource)

/-- A session: the host, the service it drives, and the configuration it was built from. -/
structure Session where
  host : Host
  service : Service
  settings : Settings
  env : Environment
  /-- The configuration the session was started with. -/
  config : Value

/-- The summary of a version: its parts, qualifier, trimmed text and text. -/
def Version.summary (v : Version) : Value :=
  Value.object [("parts", .list (v.parts.map fun n => .int (Int.ofNat n))), ("qualifier", .str v.qualifier),
    ("raw", .str v.raw), ("str", .str v.text)]

/-- Status names as values. -/
def statusNames (statuses : List ResolutionStatus) : Value :=
  .list (statuses.map fun s => .str s.name)

/-- A binding as a value. -/
def Binding.toValue (b : Binding) : Value :=
  Value.object [("connection_id", b.connectionId), ("project_key", b.projectKey)]

/-- A permission outcome as a value. -/
def PermissionOutcome.toValue (o : PermissionOutcome) : Value :=
  Value.object [("permitted", .bool o.permitted), ("reason", Value.ofOption o.reason),
    ("allowed_statuses", statusNames o.allowedStatuses)]

namespace Session

/-- Starts a session on a fresh storage directory: the service built from the configuration,
the server answering from a script. -/
def start (env : Environment) (config : Value) (script : Script) (telemetry : Bool) :
    Except Failure Session := do
  let settings ← Settings.ofValue env config
  let settings := { settings with storageDir := some rootName }
  let service : Service :=
    { scopes := settings.scopes, connections := settings.connections, telemetry, counted := telemetry }
  let host : Host := { script, fleet := settings.connections.map fun (id, c) => (id, c.url) }
  return { host, service, settings, env, config }

/-- The live connection a capability question names. -/
def liveConnection (s : Service) (id : String) : Run Connection := do
  match ← s.connection? (.str id) with
  | some conn => return conn
  | none => Run.fail (.lookup s!"no connection {id}")

/-- The status changes counted so far, sorted by rule. -/
def changeCounts (h : Host) : Value :=
  .dict ((h.statusChanges.map fun (k, n) => (Value.str k.display, Value.int n)).mergeSort
    fun a b => decide (a.1.display ≤ b.1.display))

/-- Where the configuration file of a started program is written. -/
def writtenConfigPath : String := "<tmp>/connections.json"

/-- The configuration as a file: JSON text, pointing at the session's storage directory. -/
def configText (sess : Session) : String :=
  let config := match sess.config with
    | .dict es => Value.dict (Value.insertEntry es (.str "storage_dir") (.str rootName))
    | v => v
  Json.asciiOnly (Json.write config)

/-- The environment, configuration files and leading arguments of a program started with its
configuration from a source. -/
def placeConfig (sess : Session) : ConfigSource → Environment × ConfigFiles × List String
  | .file => (sess.env, [(writtenConfigPath, sess.configText), (shippedConfigPath, shippedConfigText)],
      ["--config", writtenConfigPath])
  | .env => (setEntry sess.env connectionsVariable writtenConfigPath,
      [(writtenConfigPath, sess.configText), (shippedConfigPath, shippedConfigText)], [])
  | .user => (sess.env, [(userConfigPath, sess.configText), (shippedConfigPath, shippedConfigText)], [])
  | .shipped => (sess.env, [(shippedConfigPath, shippedConfigText)], [])

/-- What a step of the service does on the host, and its answer. -/
def serviceStep (sess : Session) (step : Step) : Run Value :=
  let s := sess.service
  match step with
  | .recordLocalOnly scope findings => do
    let stored ← s.recordLocalOnly scope findings
    return .list (stored.map fun f => .str f.id.text)
  | .replaceServerFindings scope metas => Binding.toValue <$> s.replaceServerFindings scope metas
  | .setServerVersion connection version status => do
    ServerInfo.store connection { version := ← Run.lift (Version.ofValue version), status }
    return .null
  | .writeFile file content => do
    modify fun h => { h with files := h.files.put file.path content }
    return .null
  | .checkPermission connection key =>
    PermissionOutcome.toValue <$> s.checkPermission connection key
  | .changeStatus scope key status taint => do
    s.changeStatus scope key (← Run.lift (ResolutionStatus.ofValue status)) taint
    return .null
  | .addComment scope key text => do
    s.addComment scope key text
    return .null
  | .reopen scope key taint => do
    return Value.object [("success", .bool (← s.reopen scope key taint))]
  | .reopenAll scope path => do
    return Value.object [("success", .bool (← s.reopenAll scope path))]
  | .checkAnticipated scope => Value.bool <$> s.checkAnticipated scope
  | .resync scope => Value.bool <$> s.resync scope
  | .capability connection => do
    let cap ← Capability.of (← liveConnection s connection)
    return Value.object [("supports_anticipated_resolution", .bool cap.supportsAnticipated),
      ("vocabulary", statusNames cap.vocabulary)]
  | .supportsAnticipated connection => do
    Value.bool <$> Capability.supportsAnticipated (← liveConnection s connection)
  | .vocabularyForLocalOnly connection => do
    statusNames <$> Capability.vocabularyForLocalOnly (← liveConnection s connection)
  | .syncServerVersion connection force => do
    let conn ← liveConnection s connection
    let info ← if force then some <$> Capability.synchronize conn
      else Capability.readOrSynchronize conn
    return match info with
      | some i => Value.object [("version", i.version.summary), ("status", i.status)]
      | none => .null
  | .search connection key => do
    let issue ← searchByKey (← liveConnection s connection) key
    return Value.object [("key", .str issue.key),
      ("transitions", .list (issue.transitions.map Value.str))]
  | .systemStatus connection => do
    let st ← systemStatus (← liveConnection s connection)
    return Value.object [("version", .str st.version), ("status", st.status),
      ("server_id", st.serverId)]
  | .removeConnection _ => return .null
  | .setServer owner endpoint key answers => do
    modify fun h => { h with script := h.script.setAnswers owner endpoint key answers }
    return .null
  | .block outlet => do
    modify fun h => match outlet with
      | .events => { h with eventsBlocked := true }
      | .logs => { h with logsBlocked := true }
    return .null
  | .unblock outlet => do
    modify fun h => match outlet with
      | .events => { h with eventsBlocked := false }
      | .logs => { h with logsBlocked := false }
    return .null
  | .telemetry => do return changeCounts (← get)
  | .sweep argv source => do
    let (env, files, lead) := sess.placeConfig source
    let outcome ← Sweep.run env files (lead ++ argv)
    return Value.object [("exit", .int outcome.exit), ("summary", .list outcome.printed)]
  | .api calls source => do
    let (env, files, _) := sess.placeConfig source
    let answers ← Api.serveCalls env files calls
    return .list (answers.map Api.Response.view)

/-- The service after a step: removing a connection takes it out of the service. -/
def serviceAfter (s : Service) : Step → Service
  | .removeConnection c => { s with connections := s.connections.filter (·.1 != c) }
  | _ => s

/-- Runs a step: its answer, and the session after it. -/
def run (sess : Session) (step : Step) : Except Failure Value × Session :=
  match (serviceStep sess step).run sess.host with
  | .ok v host => (.ok v, { sess with host, service := serviceAfter sess.service step })
  | .error f host => (.error f, { sess with host, service := serviceAfter sess.service step })

end Session

end IssueSync
