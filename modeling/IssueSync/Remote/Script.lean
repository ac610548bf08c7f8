import IssueSync.Remote.Exchange

/-!
# A scripted server

A server that answers from a script, for exercising the program without a network. Behaviours
are given per owner (a connection id, or `*` for any) and per endpoint; the issue search has a
behaviour per issue key (or `*`). A behaviour is a list of answers given in turn, the last one
repeated. A request belongs to the connection whose URL is the longest prefix of its URL, and
takes the behaviour of its owner, else that of `*`, else the endpoint's default.
-/

namespace IssueSync.Remote

/-- The endpoints of the server. -/
inductive Endpoint where
  | search
  | doTransition
  | addComment
  | anticipated
  | status
deriving DecidableEq, Repr

namespace Endpoint

/-- The name of an endpoint in a script. -/
def name : Endpoint → String
  | .search => "search"
  | .doTransition => "do_transition"
  | .addComment => "add_comment"
  | .anticipated => "anticipated"
  | .status => "status"

/-- The path an endpoint is served at, below a connection's URL. -/
def path : Endpoint → String
  | .search => "/api/issues/search"
  | .doTransition => "/api/issues/do_transition"
  | .addComment => "/api/issues/add_comment"
  | .anticipated => "/api/issues/anticipated_transitions"
  | .status => "/api/system/status"

/-- Every endpoint. -/
def all : List Endpoint := [.search, .doTransition, .addComment, .anticipated, .status]

/-- The endpoint a URL path ends with. -/
def ofPath? (p : String) : Option Endpoint := all.find? fun e => p.endsWith e.path

/-- What an endpoint answers when its script says nothing. -/
def fallback : Endpoint → Answer
  | .search => .reply { body := .json (.dict [(.str "issues", .list [])]) }
  | .status => .reply { status := 404 }
  | _ => .reply { body := .json (.dict []) }

end Endpoint

/-- The answers a behaviour still has to give; the last one repeats. -/
abbrev Answers := List Answer

/-- The behaviour of one endpoint: answers, or for the search answers per issue key. -/
inductive Behaviour where
  | answers (as : Answers)
  | byKey (keyed : List (String × Answers))

/-- A script: behaviours by owner, then by endpoint name. -/
structure Script where
  rules : List (String × List (String × Behaviour)) := []

/-- The answer at the head of a list and the list after it: the last one stays. -/
def Answers.next? : Answers → Option (Answer × Answers)
  | [] => none
  | [a] => some (a, [a])
  | a :: rest => some (a, rest)

/-- Replaces the value under a key, or appends it. -/
def setAt {α : Type} (entries : List (String × α)) (key : String) (value : α) :
    List (String × α) :=
  if entries.any (·.1 == key) then entries.map fun (k, v) => if k == key then (k, value) else (k, v)
  else entries ++ [(key, value)]

namespace Script

/-- The behaviour an owner has for an endpoint. -/
def behaviour? (s : Script) (owner : String) (e : Endpoint) : Option Behaviour :=
  (s.rules.lookup owner).bind (·.lookup e.name)

/-- Sets the behaviour of an owner for an endpoint. -/
def setBehaviour (s : Script) (owner : String) (e : Endpoint) (b : Behaviour) : Script :=
  { rules := setAt s.rules owner (setAt ((s.rules.lookup owner).getD []) e.name b) }

/-- Sets the answers of an owner's endpoint, or for the search those of one issue key. -/
def setAnswers (s : Script) (owner : String) (e : Endpoint) (key : String) (as : Answers) :
    Script :=
  match e with
  | .search =>
    let keyed := match s.behaviour? owner .search with
      | some (.byKey ks) => ks
      | _ => []
    s.setBehaviour owner .search (.byKey (setAt keyed key as))
  | _ => s.setBehaviour owner e (.answers as)

/-- Takes the next answer of an owner's behaviour for an endpoint (and issue key), if it has
one, and the script after it. -/
def take? (s : Script) (owner : String) (e : Endpoint) (key : Option String) :
    Option (Answer × Script) :=
  match s.behaviour? owner e with
  | some (.answers as) =>
    (as.next?).map fun (a, rest) => (a, s.setBehaviour owner e (.answers rest))
  | some (.byKey keyed) =>
    let pick := fun (k : String) => (keyed.lookup k).bind fun as =>
      (as.next?).map fun (a, rest) => (a, s.setBehaviour owner e (.byKey (setAt keyed k rest)))
    match key.bind pick with
    | some r => some r
    | none => pick "*"
  | none => none

/-- Answers a request of an owner: its own behaviour, else that of `*`, else the default of
the endpoint; a path of no endpoint is not found. -/
def respond (s : Script) (owner : String) (req : Request) : Answer × Script :=
  match Endpoint.ofPath? (splitOrigin req.url).2 with
  | none => (.reply { status := 404 }, s)
  | some e =>
    let key := req.params.lookup "issues"
    match s.take? owner e key with
    | some r => r
    | none =>
      match (if owner == "*" then none else s.take? "*" e key) with
      | some r => r
      | none => (e.fallback, s)

end Script

/-- The owner of a URL: the connection whose URL is the longest prefix of it (the first of
equally long ones), else `*`. -/
def ownerOf (fleet : List (String × String)) (url : String) : String :=
  let candidates := fleet.filter fun (_, base) => url.startsWith base
  match candidates.foldl (fun best (id, base) => match best with
      | some (_, b) => if base.length > b.length then some (id, base) else best
      | none => some (id, base)) none with
  | some (id, _) => id
  | none => "*"

end IssueSync.Remote
