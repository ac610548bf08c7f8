import IssueSync.Store.Files
import IssueSync.Remote.Script

/-!
# The host

Everything the program touches outside its own memory: the storage directory, the log lines it
prints, the events it appends to the event log, the requests it sends and the server that
answers them, and the counter of status changes. Operations run in `Run`, a state monad over
the host with failures that keep every effect made before them.

The event log and the log directory can be blocked by a plain file standing where their
directory should be: appending an event then fails, while a log line is still printed.
-/

namespace IssueSync

open IssueSync.Remote IssueSync.Store

/-- A request as the server saw it, with the connection it belongs to. -/
structure Sent where
  owner : String
  request : Request

/-- The host's state. -/
structure Host where
  files : Files := {}
  /-- The default storage directory, for a service configured without one. -/
  spare : Files := {}
  script : Script := {}
  fleet : List (String × String) := []
  sent : List Sent := []
  logs : List String := []
  events : List Value := []
  eventsBlocked : Bool := false
  logsBlocked : Bool := false
  statusChanges : List (Value × Nat) := []

/-- An operation on the host. -/
abbrev Run := EStateM Failure Host

namespace Run

/-- Fails with a failure, keeping the effects so far. -/
def fail {α : Type} (f : Failure) : Run α := throw f

/-- Lifts a computation that may fail. -/
def lift {α : Type} : Except Failure α → Run α
  | .ok a => pure a
  | .error f => throw f

/-- Prints a log line. -/
def log (line : String) : Run Unit := modify fun h => { h with logs := h.logs ++ [line] }

/-- How the directory of temporary outputs is named in messages. -/
def tmpName : String := "<tmp>"

/-- The failure of making a directory where a plain file stands. -/
def fileExists (dir : String) : Failure :=
  .file .exists s!"[Errno 17] File exists: '{tmpName}/{dir}'"

/-- Appends an event to the event log. -/
def appendEvent (event : Value) : Run Unit := do
  if (← get).eventsBlocked then fail (fileExists "events")
  modify fun h => { h with events := h.events ++ [event] }

/-- Makes the directories the program writes to; a blocked one fails. -/
def ensureDirectories : Run Unit := do
  let h ← get
  if h.eventsBlocked then fail (fileExists "events")
  if h.logsBlocked then fail (fileExists "logs")

/-- Reads a JSON document of the storage directory. -/
def readJson (path : String) : Run (Option Value) := do lift ((← get).files.readJson path)

/-- Writes a JSON document of the storage directory. -/
def writeJson (path : String) (v : Value) : Run Unit := do
  let files ← lift ((← get).files.writeJson path v)
  modify fun h => { h with files }

/-- Counts a status change of a rule. -/
def countChange (rule : Value) : Run Unit := modify fun h =>
  let counts := if h.statusChanges.any (·.1.equal rule) then
      h.statusChanges.map fun (k, n) => if k.equal rule then (k, n + 1) else (k, n)
    else h.statusChanges ++ [(rule, 1)]
  { h with statusChanges := counts }

/-- Exchanges the storage directory with the default one. -/
def swapStorage : Run Unit := modify fun h => { h with files := h.spare, spare := h.files }

/-- Runs an operation on a storage directory: the given one when it is the storage root, the
default one when none is configured. -/
def inStorage {α : Type} (dir : Option String) (m : Run α) : Run α := do
  if dir == some rootName then m
  else
    swapStorage
    try
      let a ← m
      swapStorage
      return a
    catch f =>
      swapStorage
      fail f

/-- Sends one request to the server and records it. -/
def exchange (req : Request) : Run Answer := do
  let h ← get
  let owner := ownerOf h.fleet req.url
  let (answer, script) := h.script.respond owner req
  set { h with script, sent := h.sent ++ [({ owner, request := req } : Sent)] }
  return answer

end Run

end IssueSync
