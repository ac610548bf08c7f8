import IssueSync.Host
import IssueSync.Version
import IssueSync.Time.Stamp
import IssueSync.Store.Path

/-!
# The last known server version

One file per connection records the version and status the server last reported and when. A
file without a true `version` counts as nothing known; a version that does not read is logged
and ignored.
-/

namespace IssueSync

/-- What is known about a connection's server. -/
structure ServerInfo where
  version : Version
  status : Value := .null

namespace ServerInfo

open IssueSync.Store

/-- Reads the server information of a connection. -/
def read (connection : String) : Run (Option ServerInfo) := do
  let path := serverInfoPath connection
  match ← Run.readJson path with
  | some (.dict es) =>
    let given := Value.fieldD es "version"
    if !given.truthy then return none
    match Version.ofValue given with
    | .error (.badValue _) =>
      Run.log s!"Ignoring unparsable server version in {fullName path}: {given.literal}"
      return none
    | .error f => Run.fail f
    | .ok version =>
      let synced := Value.fieldD es "synced_at"
      if synced.truthy then discard (Run.lift (Stamp.ofValue synced))
      return some { version, status := Value.fieldD es "status" }
  | _ => return none

/-- Stores the server information of a connection, stamped with the time of storing. -/
def store (connection : String) (info : ServerInfo) : Run Unit :=
  Run.writeJson (serverInfoPath connection) (Value.object [("version", .str info.version.text),
    ("status", info.status), ("synced_at", .str resolutionClockText)])
where
  resolutionClockText : String := "2024-01-01T00:00:00+00:00"

end ServerInfo

end IssueSync
