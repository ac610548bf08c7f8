import IssueSync.Remote.Exchange

/-!
# Routes of the HTTP interface

A request names its target relative to the service's base address. The application sees the
target's path: query and fragment cut off, leading slashes taken as one, `.` and `..` segments
resolved, and percent escapes decoded. The path then picks a route: a fixed path, or a path with
a scope id in the middle that may itself contain slashes (but no line break). As with a regular
expression anchored at both ends, one line break may follow a matching path.

A path that matches a route for another method is refused as a wrong method; a path that matches
nothing, but would with its trailing slash added or removed, is redirected there; any other is not
found.
-/

namespace IssueSync.Api

/-- The endpoints of the interface. -/
inductive Endpoint where
  | healthz
  | permission
  | status
  | comment
  | reopen
  | reopenFile
  | anticipatedSupport
  | resync
  | localOnlyFindings
  | serverFindings
deriving DecidableEq, Repr

namespace Endpoint

/-- The endpoints in the order they are tried. -/
def all : List Endpoint :=
  [.healthz, .permission, .status, .comment, .reopen, .reopenFile, .anticipatedSupport, .resync,
   .localOnlyFindings, .serverFindings]

/-- The method an endpoint answers. -/
def method : Endpoint → String
  | .healthz | .anticipatedSupport => "GET"
  | .serverFindings => "PUT"
  | _ => "POST"

/-- The fixed path of an endpoint, or for a scoped one the last segment after the scope id. -/
def pathText : Endpoint → String
  | .healthz => "/healthz"
  | .permission => "/issues/permission"
  | .status => "/issues/status"
  | .comment => "/issues/comment"
  | .reopen => "/issues/reopen"
  | .reopenFile => "/issues/reopen-file"
  | .anticipatedSupport => "anticipated-support"
  | .resync => "resync"
  | .localOnlyFindings => "local-only-findings"
  | .serverFindings => "server-findings"

/-- Whether an endpoint's path holds a scope id. -/
def hasScope : Endpoint → Bool
  | .anticipatedSupport | .resync | .localOnlyFindings | .serverFindings => true
  | _ => false

/-- The prefix of scoped paths. -/
def scopePrefix : String := "/scopes/"

/-- Matches a path against an endpoint: `some` with the scope id (empty for a fixed path). -/
def matchPath (e : Endpoint) (path : String) : Option String :=
  let body := if path.endsWith "\n" then (path.dropEnd 1).toString else path
  if e.hasScope then
    let suffix := "/" ++ e.pathText
    if body.startsWith scopePrefix && body.endsWith suffix &&
        scopePrefix.length + suffix.length ≤ body.length then
      let scope := String.ofList ((body.toList.drop scopePrefix.length).take
        (body.length - scopePrefix.length - suffix.length))
      if scope.contains '\n' then none else some scope
    else none
  else if body == e.pathText then some "" else none

end Endpoint

/-- Where routing sends a request. -/
inductive Routed where
  | found (e : Endpoint) (scope : String)
  | wrongMethod
  | redirect (path : String)
  | notFound
deriving DecidableEq, Repr

/-- The endpoints whose path matches, with their scope ids, in order. -/
def matching (path : String) : List (Endpoint × String) :=
  Endpoint.all.filterMap fun e => (e.matchPath path).map (e, ·)

/-- Drops trailing slashes. -/
def dropTrailingSlashes (s : String) : String :=
  String.ofList (s.toList.reverse.dropWhile (· == '/')).reverse

/-- Routes a request by method and path. -/
def route (method path : String) : Routed :=
  let hits := matching path
  match hits.find? (·.1.method == method) with
  | some (e, scope) => .found e scope
  | none =>
    if !hits.isEmpty then .wrongMethod
    else if path == "/" then .notFound
    else
      let other := if path.endsWith "/" then dropTrailingSlashes path else path ++ "/"
      if (matching other).isEmpty then .notFound else .redirect other

/-- Removes `.` and `..` segments from a path. -/
def removeDotSegments (path : String) : String :=
  let parts := path.splitOn "/"
  if !(parts.contains "." || parts.contains "..") then path
  else
    let kept := parts.foldl (fun acc part =>
      if part == "." then acc
      else if part == ".." then (if acc.isEmpty || acc == [""] then acc else acc.dropLast)
      else acc ++ [part]) []
    "/".intercalate kept

/-- The text before the first of some characters. -/
def beforeAny (stops : List Char) (s : String) : String :=
  String.ofList (s.toList.takeWhile fun c => !stops.contains c)

/-- The path after an authority, `/` when there is none. -/
def afterAuthority (rest : String) : String :=
  let cs := rest.toList.dropWhile (· != '/')
  if cs.isEmpty then "/" else String.ofList cs

/-- A path joined to the base address, whose path is `/`: its leading slashes are dropped. -/
def underBase (path : String) : String := "/" ++ String.ofList (path.toList.dropWhile (· == '/'))

/-- Whether text is a scheme name: a letter, then letters, digits, `+`, `-` or `.`. -/
def isScheme (s : String) : Bool :=
  !s.isEmpty && s.front.isAlpha && s.all fun c => c.isAlphanum || c == '+' || c == '-' || c == '.'

/-- The path part of a target: an absolute address keeps its own path, an address with an
authority but no scheme keeps only its path, and any other target is a path under the base. -/
def targetPath (target : String) : String :=
  let t := beforeAny ['?', '#'] target
  match t.splitOn "://" with
  | scheme :: rest@(_ :: _) =>
    if isScheme scheme then afterAuthority ("://".intercalate rest) else underBase t
  | _ =>
    if t.startsWith "//" then underBase (afterAuthority (t.drop 2).toString)
    else underBase t

/-- The path the application sees for a request target. -/
def requestPath (target : String) : String :=
  Remote.unescape false (removeDotSegments (targetPath target))

end IssueSync.Api
