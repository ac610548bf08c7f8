import IssueSync.Host

/-!
# Sending requests

A request goes to the server and redirections are followed: a 301, 302, 303, 307 or 308 reply
that names a location leads to a new request there. A 303 turns every method but `HEAD` into
`GET`, a 301 or 302 turns `POST` into `GET`, and a request turned into `GET` drops its body. The
credential goes along only to the same origin, or from `http` to `https` on the same host with
default ports. After twenty redirections the request fails.
-/

namespace IssueSync.Remote

/-- The parts of an origin: scheme, host and port (the scheme's default when none is written). -/
def originParts (url : String) : String × String × Nat :=
  let (origin, _) := splitOrigin url
  match origin.splitOn "://" with
  | [scheme, authority] =>
    let hostPort := (authority.splitOn "@").getLastD authority
    let defaultPort := if scheme == "https" then 443 else if scheme == "http" then 80 else 0
    match hostPort.splitOn ":" with
    | [host, port] => (scheme.toLower, host.toLower, port.toNat?.getD defaultPort)
    | _ => (scheme.toLower, hostPort.toLower, defaultPort)
  | _ => ("", "", 0)

/-- Whether a credential may follow a redirection from one URL to another. -/
def keepsCredential (src dst : String) : Bool :=
  let (s1, h1, p1) := originParts src
  let (s2, h2, p2) := originParts dst
  (s1 == s2 && h1 == h2 && p1 == p2) ||
    (h1 == h2 && s1 == "http" && p1 == 80 && s2 == "https" && p2 == 443)

/-- The URL a location names, read against the URL it was given for. -/
def resolveLocation (base location : String) : String :=
  let (origin, rest) := splitOrigin base
  let (path, _) := splitQuery rest
  if (location.splitOn "://").length > 1 then location
  else if location.startsWith "//" then ((origin.splitOn "://").headD "http") ++ ":" ++ location
  else if location.startsWith "/" then origin ++ location
  else if location.startsWith "?" then origin ++ path ++ location
  else
    let dir := String.ofList ((path.toList.reverse.dropWhile (· != '/')).reverse)
    origin ++ (if dir.isEmpty then "/" else dir) ++ location

/-- The request a redirection leads to. -/
def redirected (req : Request) (status : Nat) (location : String) : Request :=
  let (url, params) := splitQuery (resolveLocation req.url location)
  let method :=
    if status == 303 && req.method != "HEAD" then "GET"
    else if (status == 301 || status == 302) && req.method == "POST" then "GET"
    else req.method
  { method, url, params,
    auth := if keepsCredential req.url url then req.auth else none,
    payload := if method != req.method && method == "GET" then .none else req.payload }

/-- The message of too many redirections. -/
def tooManyRedirects : String := "Exceeded maximum allowed redirects."

/-- Sends a request, following at most `hops - 1` redirections. -/
def sendWithin : Nat → Request → Run Answer
  | 0, _ => pure (.fail tooManyRedirects)
  | hops + 1, req => do
    match ← Run.exchange req with
    | .fail message => pure (.fail message)
    | .reply r =>
      match r.redirectsTo? with
      | some location => sendWithin hops (redirected req r.status location)
      | none => pure (.reply r)

/-- Sends a request and follows up to twenty redirections. -/
def send (req : Request) : Run Answer := sendWithin 21 req

end IssueSync.Remote
