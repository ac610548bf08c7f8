import IssueSync.Failure
import IssueSync.Text.Blank
/-!
Server connections. A connection has an id, a base URL without trailing slashes (the cloud URL when
none is given), a kind, an optional token and an optional organization. Without an explicit kind a
connection is cloud exactly when its URL is the cloud URL. A token may come from an environment
variable named in the configuration, falling back to the token given inline.
-/
namespace IssueSync

open IssueSync.Text

/-- The environment of the process: variable names and values. -/
abbrev Environment := List (String × String)

/-- The value of an environment variable. -/
def Environment.get? (env : Environment) (name : String) : Option String :=
  (env.find? (·.1 == name)).map Prod.snd

/-- The URL of the cloud service. -/
def cloudUrl : String := "https://sonarcloud.io"

/-- Whether a connection goes to a self-hosted server or to the cloud service. -/
inductive ConnectionKind where
  | selfHosted
  | cloud
deriving DecidableEq, Repr

/-- The name of a connection kind. -/
def ConnectionKind.name : ConnectionKind → String
  | .selfHosted => "self-hosted"
  | .cloud => "cloud"

/-- A configured server connection. -/
structure Connection where
  id : String
  url : String
  kind : ConnectionKind
  token : Option String
  organization : Value

namespace Connection

/-- Whether the connection goes to the cloud service. -/
def isCloud (c : Connection) : Bool := c.kind == .cloud

/-- Removes the slashes at the end of a text. -/
def dropTrailingSlashes (s : String) : String :=
  String.ofList (s.toList.reverse.dropWhile (· == '/')).reverse

/-- Reads a connection from its configuration entry. -/
def ofValue (env : Environment) (data : Value) : Except Failure Connection :=
  match data with
  | .dict es =>
    let get := Value.fieldD es
    let idValue := get "id"
    let id := trim (if idValue.truthy then idValue.display else "")
    if id.isEmpty then .error (.badValue "connection without id")
    else
      let urlValue := get "url"
      let url := dropTrailingSlashes (if urlValue.truthy then urlValue.display else cloudUrl)
      let kindValue := get "kind"
      let kind? : Option ConnectionKind := match kindValue with
        | .null => some (if url == cloudUrl then .cloud else .selfHosted)
        | .str "self-hosted" => some .selfHosted
        | .str "cloud" => some .cloud
        | _ => none
      match kind? with
      | none => .error (.badValue s!"connection {id}: unknown kind {kindValue.literal}")
      | some kind =>
        let tokenEnv := get "token_env"
        let token := if tokenEnv.truthy then
            match env.get? tokenEnv.display with
            | some t => Value.str t
            | none => get "token"
          else get "token"
        .ok { id, url, kind, token := if token.truthy then some token.display else none,
              organization := get "organization" }
  | _ => .error (Failure.noAttribute data "get")

end Connection

end IssueSync
