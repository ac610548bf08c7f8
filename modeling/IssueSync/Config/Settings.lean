import IssueSync.Config.Connection
import IssueSync.Config.Scope
import IssueSync.Number.FloatText
/-!
Settings: the connections and scopes of a configuration, the HTTP timeout (30 seconds unless
given), the storage directory (a default place unless given) and the API key, which comes from the
environment variable `SCHLICHTER_API_KEY`. Connections are keyed by their id and scopes by the text
of their key; a later entry with the same key replaces the value of an earlier one in its place.
-/
namespace IssueSync

open IssueSync.Number

/-- The settings of the program. -/
structure Settings where
  connections : List (String × Connection) := []
  scopes : Scopes := []
  httpTimeout : Float := 30.0
  /-- The storage directory, `none` for the default place. -/
  storageDir : Option String := none
  apiKey : Option String := none

/-- The environment variable holding the API key. -/
def apiKeyVariable : String := "SCHLICHTER_API_KEY"

/-- Sets the value of a key in an association list, keeping the place of an existing key. -/
def setEntry {α : Type} (entries : List (String × α)) (key : String) (value : α) : List (String × α) :=
  if entries.any (·.1 == key) then entries.map fun e => if e.1 == key then (key, value) else e
  else entries ++ [(key, value)]

/-- A double from a value the way a numeric conversion does it. -/
def Value.toFloat (v : Value) : Except Failure Float :=
  match v with
  | .bool b => .ok (if b then 1.0 else 0.0)
  | .int n =>
    let x := scientificToFloat n.natAbs 0
    if x.isInf then .error (.overflow "int too large to convert to float")
    else .ok (if n < 0 then -x else x)
  | .float x => .ok x
  | .str s => match readFloat? s with
    | some x => .ok x
    | none => .error (.badValue ("could not convert string to float: " ++ v.literal))
  | .bytes bs =>
    let asText := if bs.all fun b => b < 0x80 && !(0x1c ≤ b && b ≤ 0x1f) then
        readFloat? (String.ofList (bs.map fun b => Char.ofNat b.toNat)) else none
    match asText with
    | some x => .ok x
    | none => .error (.badValue ("could not convert string to float: " ++ v.literal))
  | _ => .error (.badType s!"float() argument must be a string or a real number, not '{v.typeName}'")

/-- The items a value yields when iterated: a sequence or a set its items, a mapping its keys, a
text its characters, a byte string its bytes as numbers. -/
def Value.items (v : Value) : Except Failure (List Value) :=
  match v with
  | .list xs => .ok xs
  | .dict es => .ok (es.map Prod.fst)
  | .str s => .ok (s.toList.map fun c => .str (String.singleton c))
  | .bytes bs => .ok (bs.map fun b => .int b.toNat)
  | .set xs => .ok xs
  | _ => .error (.badType s!"'{v.typeName}' object is not iterable")

/-- A file-system path in normal form: empty and `.` components dropped, one or two leading
slashes kept (three or more count as one). -/
def normalPath (s : String) : String :=
  let parts := (s.splitOn "/").filter fun p => !p.isEmpty && p != "."
  let lead := if s.startsWith "//" && !s.startsWith "///" then "//"
    else if s.startsWith "/" then "/" else ""
  let body := "/".intercalate parts
  if lead.isEmpty && body.isEmpty then "." else lead ++ body

/-- The home directory of the account the program runs as, when the environment names none. -/
def accountHome : String := "/root"

/-- The accounts of the base system, with their home directories. -/
def systemAccounts : List (String × String) :=
  [("root", accountHome), ("daemon", "/usr/sbin"), ("bin", "/bin"), ("sys", "/dev"),
   ("sync", "/bin"), ("games", "/usr/games"), ("man", "/var/cache/man"), ("lp", "/var/spool/lpd"),
   ("mail", "/var/mail"), ("news", "/var/spool/news"), ("uucp", "/var/spool/uucp"),
   ("proxy", "/bin"), ("www-data", "/var/www"), ("backup", "/var/backups"), ("list", "/var/list"),
   ("irc", "/run/ircd"), ("_apt", "/nonexistent"), ("nobody", "/nonexistent")]

/-- A relative path whose first part is `~` (or `~name`) with that part replaced by a home
directory: the one the environment names (or the account's) for `~`, the named account's for
`~name`; a name of no account has no home that can be found. -/
def expandHome (env : Environment) (path : String) : Except Failure String :=
  match path.splitOn "/" with
  | first :: rest =>
    if !first.startsWith "~" then .ok path
    else
      let user := (first.drop 1).toString
      let home? := if user.isEmpty then some ((env.get? "HOME").getD accountHome)
        else systemAccounts.lookup user
      match home? with
      | none => .error .noHome
      | some home =>
        let home := String.ofList (home.toList.reverse.dropWhile (· == '/')).reverse
        if home.startsWith "~" then .error .noHome
        else .ok (normalPath (home ++ "/" ++ "/".intercalate rest))
  | [] => .ok path

namespace Settings

/-- Reads the connections of a configuration, in order. -/
def readConnections (env : Environment) (raws : List Value) : Except Failure (List (String × Connection)) :=
  raws.foldlM (fun acc raw => do
    let c ← Connection.ofValue env raw
    pure (setEntry acc c.id c)) []

/-- Reads the scopes of a configuration, in order. -/
def readScopes (entries : List (Value × Value)) : Except Failure Scopes :=
  entries.foldlM (fun acc e => do
    let id := e.1.display
    let s ← Scope.ofValue id e.2
    pure (setEntry acc id s)) []

/-- Reads settings from a configuration mapping and the environment. -/
def ofValue (env : Environment) (data : Value) : Except Failure Settings :=
  match data with
  | .dict es => do
    let get := Value.fieldD es
    let rawConnections := get "connections"
    let connections ← readConnections env (← if rawConnections.truthy then rawConnections.items else pure [])
    let rawScopes := get "scopes"
    let scopeEntries ← if !rawScopes.truthy then pure []
      else match rawScopes with
        | .dict entries => pure entries
        | _ => throw (Failure.noAttribute rawScopes "items")
    let scopes ← readScopes scopeEntries
    let timeout := get "http_timeout"
    let httpTimeout ← match timeout with
      | .null => pure 30.0
      | _ => Value.toFloat timeout
    let dir := get "storage_dir"
    let storageDir ← if !dir.truthy then pure none
      else match dir with
        | .str s => some <$> expandHome env (normalPath s)
        | .bytes _ => throw (.badType
            "argument should be a str object or an os.PathLike object returning str, not <class 'bytes'>")
        | _ => throw (.badType s!"expected str, bytes or os.PathLike object, not {dir.typeName}")
    pure { connections, scopes, httpTimeout, storageDir, apiKey := env.get? apiKeyVariable }
  | _ => .error (Failure.noAttribute data "get")

/-- The connection with an id. -/
def connection? (s : Settings) (id : String) : Option Connection :=
  (s.connections.find? (·.1 == id)).map Prod.snd

end Settings

end IssueSync
