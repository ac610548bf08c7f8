import IssueSync.Data.Json.Reader
import IssueSync.Failure
import IssueSync.Text.Newline
import IssueSync.Text.Quoted
import IssueSync.Store.Path

/-!
# The storage directory

The files below the storage root, by path relative to it. A file holds a JSON document the
program wrote, or text written from outside; a path may also be a directory, which no file
operation can read or replace. A path with anything inside it is a directory too, and a path
inside a file names nothing.

Reading a missing file gives nothing; reading a directory fails, and so does text that is no
JSON document ("corrupt store file"). Writing first makes the directories on the way to the
target, which fails where a file stands in their place; it then goes through a temporary file
beside the target that is moved in place, so writing onto a directory fails naming both paths.
A failed write leaves everything as it was.
-/

namespace IssueSync.Store

open IssueSync.Text

/-- What a path of the storage directory holds. -/
inductive Entry where
  /-- A JSON document. -/
  | document (v : Value)
  /-- Text written from outside. -/
  | text (t : String)
  /-- A directory. -/
  | folder

/-- Whether an entry is a file, which no path can lead through. -/
def Entry.isFile : Entry → Bool
  | .folder => false
  | _ => true

/-- The storage directory: its entries by relative path, in the order they were made. -/
structure Files where
  entries : List (String × Entry) := []

/-- How the storage root is named in messages. -/
def rootName : String := "<root>"

/-- The full name of a path below the root. -/
def fullName (path : String) : String := rootName ++ "/" ++ path

/-- The message of an operation that met a directory. -/
def directoryMessage (path : String) : String :=
  "[Errno 21] Is a directory: " ++ quote (fullName path)

/-- The temporary file a write to `path` goes through: a hidden name beside the target. -/
def temporaryName (path : String) : String :=
  let cs := path.toList
  let name := (cs.reverse.takeWhile (· != '/')).reverse
  String.ofList (cs.take (cs.length - name.length) ++ '.' :: name ++ ".tmp-XXXXXXXX".toList)

namespace Files

/-- The entry at a path. -/
def get? (fs : Files) (path : String) : Option Entry := fs.entries.lookup path

/-- Whether something is at a path. -/
def holds (fs : Files) (path : String) : Bool := (fs.get? path).isSome

/-- Puts an entry at a path, in place of what was there. -/
def put (fs : Files) (path : String) (e : Entry) : Files :=
  if fs.holds path then
    { entries := fs.entries.map fun (p, old) => if p == path then (p, e) else (p, old) }
  else { entries := fs.entries ++ [(path, e)] }

/-- Removes what is at a path. -/
def erase (fs : Files) (path : String) : Files :=
  { entries := fs.entries.filter (·.1 != path) }

/-- Whether something lies inside the path, which makes it a directory. -/
def occupied (fs : Files) (path : String) : Bool := fs.entries.any (isInside ·.1 path)

/-- Whether a file stands on the way to the path, in place of one of its directories. -/
def fileAbove (fs : Files) (path : String) : Bool := fs.entries.any fun e => e.2.isFile && isInside path e.1

/-- Whether the path is a directory: one made as such, or one with something inside. -/
def isDirectory (fs : Files) (path : String) : Bool := (fs.get? path matches some .folder) || fs.occupied path

/-- The failure of making the directory a file at `path` goes in, with the ones above it: a file
above that directory leaves it unreachable, a file in its place leaves no room for it. -/
def dirFault (fs : Files) (path : String) : Option Failure :=
  let dir := dirOf path
  if fs.fileAbove dir then some (.file .notDirectory ("[Errno 20] Not a directory: " ++ quote (fullName dir)))
  else if fs.fileAbove path then some (.file .exists ("[Errno 17] File exists: " ++ quote (fullName dir)))
  else none

/-- A path a file can be written at: the directories on the way to it can be made, and it is no
directory itself. -/
def Writable (fs : Files) (path : String) : Prop :=
  (fs.dirFault path).isNone = true ∧ fs.isDirectory path = false

instance (fs : Files) (path : String) : Decidable (fs.Writable path) :=
  inferInstanceAs (Decidable (_ ∧ _))

/-- The entries that decide what reading and writing at a path do: the one at the path, those
inside it and those it lies inside. -/
def around (fs : Files) (path : String) : List (String × Entry) :=
  fs.entries.filter fun e => e.1 == path || isInside e.1 path || isInside path e.1

/-- Reads the JSON document at a path; nothing when the path is free. -/
def readJson (fs : Files) (path : String) : Except Failure (Option Value) :=
  match fs.get? path with
  | none => if fs.occupied path then .error (.file .isDirectory (directoryMessage path)) else .ok none
  | some .folder => .error (.file .isDirectory (directoryMessage path))
  | some (.document v) => .ok (some v)
  | some (.text t) =>
    let t := normalizeNewlines t
    match Json.read t with
    | .ok v => .ok (some v)
    | .error e => .error (.badValue s!"{fullName path}: corrupt store file ({e.message t})")

/-- Replaces the file at a path by a JSON document, through a temporary file beside it, after
making the directories on the way. -/
def writeJson (fs : Files) (path : String) (v : Value) : Except Failure Files :=
  match fs.dirFault path with
  | some f => .error f
  | none =>
    if fs.isDirectory path then .error (.file .isDirectory ("[Errno 21] Is a directory: " ++
      quote (fullName (temporaryName path)) ++ " -> " ++ quote (fullName path)))
    else .ok (fs.put path (.document v))

/-- The files (not directories), each with its content, sorted by path. -/
def listing (fs : Files) : List (String × Entry) :=
  (fs.entries.filter fun (_, e) => !(e matches .folder)).mergeSort fun a b => a.1 ≤ b.1

end Files

example : temporaryName "bindings/conn/acme.json" = "bindings/conn/.acme.json.tmp-XXXXXXXX" := by
  decide +kernel

end IssueSync.Store
