import IssueSync.Api.Route
import IssueSync.Api.Validate
import IssueSync.Api.Key
import IssueSync.Data.Json.Bytes
import IssueSync.Sweep.Resync

/-!
# The HTTP interface

The interface answers requests with the issue service it starts with: the directories are made,
the settings are read, and a service is wired from them, with telemetry of its own.

A request is answered in this order. Its path picks an endpoint (or the request is refused as
not found, as a wrong method, or redirected). An endpoint that takes a body reads it next: a body
marked as JSON, or not marked at all, must be JSON text. Then the API key is checked, then the
body's shape, and only then does the service run. Failures of the service become answers: a
missing connection, binding or finding is not found (404), a bad answer of the server, a
transport failure or a failed operation is a bad gateway (502), and anything else is an internal
error (500).
-/

namespace IssueSync.Api

open IssueSync.Text

/-- The body a request carries. -/
inductive RequestBody where
  | none
  | json (v : Value)
  | raw (text : String)

/-- A request: method, target, headers and body. -/
structure Call where
  method : String := "POST"
  target : String
  headers : List (String × String) := []
  body : RequestBody := .none

/-- What an answer holds. -/
inductive Content where
  | json (v : Value)
  | text (t : String)

/-- An answer: status and content. -/
structure Response where
  status : Nat
  content : Content

/-- An answer as a value: its status, and its JSON content or its text as `{"$text": ...}`. -/
def Response.view (r : Response) : Value :=
  Value.object [("status", .int r.status), ("body", match r.content with
    | .json v => v
    | .text t => Value.object [("$text", .str t)])]

/-- An answer with a JSON object. -/
def jsonAnswer (status : Nat) (fields : List (String × Value)) : Response :=
  { status, content := .json (Value.object fields) }

/-- An answer with a detail message. -/
def detailAnswer (status : Nat) (detail : String) : Response :=
  jsonAnswer status [("detail", .str detail)]

/-- The answer to refused fields. -/
def invalidAnswer (errors : List FieldError) : Response :=
  jsonAnswer 422 [("detail", .list (errors.map fun e =>
    Value.object [("loc", .list e.loc), ("type", .str e.kind)]))]

/-- The answer to an internal error. -/
def internalError : Response := { status := 500, content := .text "Internal Server Error" }

/-- Upper-case ASCII letters of a text. -/
def asciiUpper (s : String) : String :=
  s.map fun c => if 'a' ≤ c && c ≤ 'z' then Char.ofNat (c.toNat - 32) else c

/-- The first value of a header, its name compared without case. -/
def header? (headers : List (String × String)) (name : String) : Option String :=
  (headers.find? fun (k, _) => asciiLower k == asciiLower name).map Prod.snd

/-- Why text cannot be written as ASCII: the message names the first run of other characters by
position, and a run of one character by its escape. -/
def asciiFault (s : String) : Option String :=
  let cs := s.toList
  match cs.findIdx? (·.toNat ≥ 0x80) with
  | none => none
  | some start =>
    let run := ((cs.drop start).takeWhile (·.toNat ≥ 0x80)).length
    let reason := ": ordinal not in range(128)"
    if run == 1 then
      let n := (cs.getD start ' ').toNat
      let escape :=
        if n < 0x100 then "\\x" ++ String.ofList (hexDigits 2 n)
        else if n < 0x10000 then "\\u" ++ String.ofList (hexDigits 4 n)
        else "\\U" ++ String.ofList (hexDigits 8 n)
      some ("'ascii' codec can't encode character '" ++ escape ++ "' in position " ++
        toString start ++ reason)
    else
      some ("'ascii' codec can't encode characters in position " ++ toString start ++ "-" ++
        toString (start + run - 1) ++ reason)

/-- Why the headers of a request cannot be sent: headers go on the wire as ASCII, name before
value, in order. -/
def headerFault? (headers : List (String × String)) : Option String :=
  headers.findSome? fun (k, v) => (asciiFault k).orElse fun _ => asciiFault v

/-- Whether a content type marks JSON: `application/json` or `application/...+json`. A type
without exactly one slash counts as plain text. -/
def isJsonType (contentType : String) : Bool :=
  let full := asciiLower (trim ((contentType.splitOn ";").headD ""))
  match full.splitOn "/" with
  | [main, sub] => main == "application" && (sub == "json" || sub.endsWith "+json")
  | _ => false

/-- What the interface received as a body. -/
inductive Received where
  | absent
  | value (v : Value)
  | unreadable

/-- Reads the JSON text of a body sent as UTF-8: the encoding is detected from its first bytes. -/
def readBodyText (text : String) : Except Response Value :=
  let bs := text.toUTF8.toList.map (·.toNat)
  match Json.decodeIn (Json.detectEncoding bs) bs with
  | none => .error (detailAnswer 400 "There was an error parsing the body")
  | some decoded =>
    match Json.read decoded with
    | .ok v => .ok v
    | .error (.grammar _ pos) => .error (invalidAnswer [⟨[.str "body", .int pos], "json_invalid"⟩])
    | .error (.digitLimit _) => .error (detailAnswer 400 "There was an error parsing the body")

/-- Reads the body of a request. -/
def receive (call : Call) : Except Response Received :=
  let marked := header? call.headers "content-type"
  match call.body with
  | .none => .ok .absent
  | .json v =>
    if isJsonType (marked.getD "application/json") then .ok (.value v) else .ok .unreadable
  | .raw t =>
    if t.isEmpty then .ok .absent
    else match marked with
      | some ct => if isJsonType ct then .value <$> readBodyText t else .ok .unreadable
      | none => .value <$> readBodyText t

/-- Checks a received body against a shape. -/
def checkBody {α : Type} (check : List Value → Value → Checked α) : Received → Checked α
  | .absent | .value .null => refuse [.str "body"] "missing"
  | .value v => check [.str "body"] v
  | .unreadable => refuse [.str "body"] "model_attributes_type"

/-- The HTTP status of a problem. -/
def problemStatus : Problem → Nat
  | .unknownConnection _ | .unknownBinding _ | .notFound _ => 404
  | .malformedResponse | .transport _ _ | .failed _ _ _ => 502

/-- The answer to a failure of the service. -/
def failureAnswer : Failure → Response
  | .problem p => jsonAnswer (problemStatus p) [("detail", .str p.message), ("kind", .str p.kind)]
  | _ => internalError

/-- A status as the interface shows it. -/
def statusOut (st : ResolutionStatus) : Value :=
  Value.object [("name", .str st.name), ("title", .str st.title),
    ("description", .str st.description)]

/-- An id made up for a local finding sent without one. -/
def madeUpId (i : Nat) : Uuid :=
  let n := 0x40008000 * Nat.pow 2 48 + i % Nat.pow 2 48
  if h : n < Nat.pow 2 128 then ⟨n, h⟩ else ⟨0, by decide⟩

/-- The local findings of a request, in a scope. -/
def localFindings (scope : String) (items : List LocalFindingIn) : List LocalFinding :=
  (items.zipIdx).map fun (f, i) =>
    { id := f.id.getD (madeUpId i), scopeId := .str scope, filePath := .str f.filePath,
      ruleKey := .str f.ruleKey, message := .str f.message,
      line := (f.line.map Value.int).getD .null, lineHash := (f.lineHash.map Value.str).getD .null }

/-- The running interface: its settings and its service. -/
structure App where
  settings : Settings
  service : Service

namespace App

/-- Runs the service for a checked body; refused fields are answered without running it. -/
def withBody {α : Type} (body : Checked α) (k : α → Run Response) : Run Response :=
  match body with
  | .error errors => return invalidAnswer errors
  | .ok b => k b

/-- What an endpoint does with a received body, once the key is accepted. -/
def serve (app : App) (e : Endpoint) (scope : String) (received : Received) : Run Response :=
  let s := app.service
  match e with
  | .healthz => return { status := 200, content := .text "ok" }
  | .permission => withBody (checkBody PermissionIn.check received) fun b => do
    let o ← s.checkPermission b.connectionId b.issueKey
    return jsonAnswer 200 [("permitted", .bool o.permitted), ("reason", Value.ofOption o.reason),
      ("allowed_statuses", .list (o.allowedStatuses.map statusOut))]
  | .status => withBody (checkBody ChangeStatusIn.check received) fun b => do
    match ResolutionStatus.parse b.newStatus with
    | .error f => return detailAnswer 422 f.message
    | .ok st =>
      s.changeStatus b.scopeId b.issueKey st b.isTaint
      return jsonAnswer 200 [("ok", .bool true)]
  | .comment => withBody (checkBody CommentIn.check received) fun b => do
    s.addComment b.scopeId b.issueKey b.text
    return jsonAnswer 200 [("ok", .bool true)]
  | .reopen => withBody (checkBody ReopenIn.check received) fun b => do
    let ok ← s.reopen b.scopeId b.issueId b.isTaint
    return jsonAnswer 200 [("success", .bool ok)]
  | .reopenFile => withBody (checkBody ReopenFileIn.check received) fun b => do
    let ok ← s.reopenAll b.scopeId (.str b.filePath)
    return jsonAnswer 200 [("success", .bool ok)]
  | .anticipatedSupport => do
    let ok ← s.checkAnticipated scope
    return jsonAnswer 200 [("supported", .bool ok)]
  | .resync => do
    let ok ← s.resync scope
    return jsonAnswer 200 [("resynced", .bool ok)]
  | .localOnlyFindings => withBody (checkBody (checkFindings LocalFindingIn.check) received)
    fun items => do
      let stored ← s.recordLocalOnly scope (localFindings scope items)
      return jsonAnswer 200 [("ids", .list (stored.map fun f => .str f.id.text))]
  | .serverFindings => withBody (checkBody (checkFindings ServerFindingIn.check) received)
    fun items => do
      let metas := items.map fun f =>
        ({ key := f.key, ruleKey := .str f.ruleKey, resolved := f.resolved, taint := f.taint } :
          FindingMeta)
      let b ← s.replaceServerFindings scope metas
      match b.connectionId, b.projectKey with
      | .str c, .str p =>
        return jsonAnswer 200 [("connection_id", .str c), ("project_key", .str p),
          ("count", .int metas.length)]
      | _, _ => return internalError

/-- Whether an endpoint reads a body. -/
def takesBody : Endpoint → Bool
  | .healthz | .anticipatedSupport | .resync => false
  | _ => true

/-- Answers one request. -/
def answer (app : App) (call : Call) : Run Response := do
  match route ((upperAscii? call.method).getD (asciiUpper call.method)) (requestPath call.target) with
  | .notFound => return detailAnswer 404 "Not Found"
  | .wrongMethod => return detailAnswer 405 "Method Not Allowed"
  | .redirect _ => return { status := 307, content := .text "" }
  | .found .healthz _ => app.serve .healthz "" .absent
  | .found e scope =>
    let received := if takesBody e then receive call else .ok .absent
    match received with
    | .error r => return r
    | .ok received =>
      match checkApiKey (header? call.headers "x-api-key") app.settings.apiKey with
      | .error refusal => return detailAnswer refusal.status refusal.message
      | .ok () =>
        try Run.inStorage app.settings.storageDir (app.serve e scope received)
        catch f => return failureAnswer f

/-- Sends requests in order and collects the answers. A request whose headers cannot be written
fails before it reaches the interface, and no later request is sent. -/
def answerAll (app : App) : List Call → Run (List Response)
  | [] => return []
  | call :: rest => do
    if let some fault := headerFault? call.headers then Run.fail (.unencodable fault)
    let r ← app.answer call
    let rs ← app.answerAll rest
    return r :: rs

end App

/-- Starts the interface in an environment, with configuration files around, and answers
requests. -/
def serveCalls (env : Environment) (files : ConfigFiles) (calls : List Call) :
    Run (List Response) := do
  Run.ensureDirectories
  let settings ← Run.lift (Settings.locate env files none)
  let app : App := { settings, service := Service.ofSettings settings true false }
  app.answerAll calls

end IssueSync.Api
