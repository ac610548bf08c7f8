import IssueSync.Text.Percent
import IssueSync.Failure
/-!
Paths of the store files below the storage root. A connection id or project key becomes one path
component by percent-encoding, and the empty text becomes `_`:

* `local_only/findings.json` holds the local findings;
* `bindings/<connection>/<project>.json` holds the server findings of one binding;
* `connections/<connection>/server_info.json` holds the last known server version.

A path names the file the file system finds by following its components from the root, so a
component `.` stays in its directory and a component `..` leads to the one above.
-/
namespace IssueSync.Store

open IssueSync.Text

/-- A name as one path component. -/
def safeName (s : String) : String :=
  let e := percentEncode s
  if e.isEmpty then "_" else e

/-- A name of any kind as one path component: only text can be encoded. -/
def safeNameOf : Value → Except Failure String
  | .str s => .ok (safeName s)
  | _ => .error (.badType "quote_from_bytes() expected bytes")

/-- The directories passed after one more component: `.` stays where it is, `..` goes up one. -/
def enter (dirs : List String) (component : String) : List String :=
  if component == "." then dirs
  else if component == ".." then dirs.dropLast
  else dirs ++ [component]

/-- The path below the root that a list of components leads to. -/
def pathOf (components : List String) : String :=
  "/".intercalate (components.foldl enter [])

/-- Whether `path` lies inside the directory `dir`, at any depth. -/
def isInside (path dir : String) : Bool := (dir.toList ++ ['/']).isPrefixOf path.toList

/-- The directory a path lies in: the path up to its last slash, or the root for a path of one
component. -/
def dirOf (path : String) : String :=
  String.ofList (((path.toList.reverse.dropWhile (· != '/')).drop 1).reverse)

/-- Two paths that are neither the same nor one inside the other, so that what stands at one
path is never seen from the other. -/
def Apart (p q : String) : Prop := p ≠ q ∧ isInside p q = false ∧ isInside q p = false

/-- The file of the local findings. -/
def localOnlyPath : String := "local_only/findings.json"

/-- The file of the server findings of a binding. -/
def bindingPath (connection project : String) : String :=
  pathOf ["bindings", safeName connection, safeName project ++ ".json"]

/-- The file of the server information of a connection. -/
def serverInfoPath (connection : String) : String :=
  pathOf ["connections", safeName connection, "server_info.json"]

example : safeName "" = "_" ∧ safeName "a/b" = "a%2Fb" := by decide +kernel

example : bindingPath "conn" "acme" = "bindings/conn/acme.json" ∧
    serverInfoPath ".." = "server_info.json" ∧
    dirOf (serverInfoPath "server_info.json") = serverInfoPath "." := by decide +kernel

end IssueSync.Store
