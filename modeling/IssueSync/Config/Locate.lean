import IssueSync.Config.File

/-!
# Where the configuration comes from

A program started without a configuration file of its own takes the file the environment names
in `SCHLICHTER_CONNECTIONS`, else the user's `connections.yml` when there is one, else the one
that ships with the program. A file that does not exist configures nothing.
-/

namespace IssueSync

/-- The environment variable that names the connections file. -/
def connectionsVariable : String := "SCHLICHTER_CONNECTIONS"

/-- The user's connections file. -/
def userConfigPath : String := "<config>/connections.yml"

/-- The connections file that ships with the program. -/
def shippedConfigPath : String := "<repo>/config/connections.yml"

/-- The text of the connections file that ships with the program: a self-hosted server and the
cloud service, with tokens from the environment, and three scopes. -/
def shippedConfigText : String :=
  "http_timeout: 30\n\nconnections:\n  - id: local-sonarqube\n    url: http://localhost:9000\n" ++
  "    kind: self-hosted\n    token_env: SCHLICHTER_TOKEN_LOCAL\n  - id: cloud\n" ++
  "    url: https://sonarcloud.io\n    kind: cloud\n    organization: my-org\n" ++
  "    token_env: SCHLICHTER_TOKEN_CLOUD\n\nscopes:\n  backend:\n" ++
  "    connection: local-sonarqube\n    project_key: acme-backend\n  backend/api:\n" ++
  "    parent: backend\n  frontend: \x7b\x7d\n"

/-- Files outside the storage directory that configuration may be read from, by path. -/
abbrev ConfigFiles := List (String × String)

/-- The connections file in effect: the one the environment names, else the user's when present,
else the shipped one. -/
def connectionsPath (env : Environment) (files : ConfigFiles) : String :=
  match env.get? connectionsVariable with
  | some p => if p.isEmpty then fallback else p
  | none => fallback
where
  fallback : String := if (files.lookup userConfigPath).isSome then userConfigPath else shippedConfigPath

/-- The settings of a given configuration file, or of the connections file in effect when none
(or an empty name) is given. -/
def Settings.locate (env : Environment) (files : ConfigFiles) (path : Option String) :
    Except Failure Settings :=
  let p := match path with
    | some p => if p.isEmpty then connectionsPath env files else p
    | none => connectionsPath env files
  Settings.load env p (files.lookup p)

end IssueSync
