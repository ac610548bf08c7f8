import IssueSync.Service.Basic
import IssueSync.Store.ServerInfo

/-!
# What a connection can do with local findings

A server takes resolutions of local findings from version 10.2 on, judged by the cached version
alone; the cloud service has its own numbering and never does. The statuses offered for local
findings are those of the current vocabulary from version 10.4 on (fetching the version once
when none is cached) and the legacy ones otherwise, always on the cloud.
-/

namespace IssueSync

open IssueSync.Remote

/-- The first version that takes resolutions of local findings. -/
def anticipatedMinimum : Version := ⟨[10, 2], "", "10.2"⟩

/-- The first version whose vocabulary has Accept in place of Won't Fix. -/
def acceptMinimum : Version := ⟨[10, 4], "", "10.4"⟩

/-- What a connection can do: whether it takes resolutions of local findings, and with which
statuses. -/
structure ServerCapability where
  supportsAnticipated : Bool
  vocabulary : List ResolutionStatus := []

namespace Capability

/-- Whether a connection takes resolutions of local findings, by its cached version. -/
def supportsAnticipated (conn : Connection) : Run Bool := do
  if conn.isCloud then return false
  match ← ServerInfo.read conn.id with
  | none => return false
  | some info => return info.version.satisfies anticipatedMinimum

/-- Fetches and caches the server's version. -/
def synchronize (conn : Connection) : Run ServerInfo := do
  let st ← systemStatus conn
  let info : ServerInfo := { version := ← Run.lift (Version.create st.version), status := st.status }
  ServerInfo.store conn.id info
  return info

/-- Whether a failure of fetching the version is reported as no version. -/
def skipsVersion : Failure → Bool
  | .problem (.transport _ _) | .problem .malformedResponse | .badValue _ => true
  | _ => false

/-- The cached server information, fetched once when none is cached; a failed fetch is logged
and gives none. -/
def readOrSynchronize (conn : Connection) : Run (Option ServerInfo) := do
  match ← ServerInfo.read conn.id with
  | some info => return some info
  | none =>
    try some <$> synchronize conn
    catch f =>
      if skipsVersion f then
        Run.log s!"Could not synchronize server version of '{conn.id}': {f.message}"
        return none
      else Run.fail f

/-- The statuses offered for local findings of a connection. -/
def vocabularyForLocalOnly (conn : Connection) : Run (List ResolutionStatus) := do
  if conn.isCloud then return legacyVocabulary
  match ← readOrSynchronize conn with
  | some info =>
    return if info.version.satisfies acceptMinimum then currentVocabulary else legacyVocabulary
  | none => return legacyVocabulary

/-- The capability of a connection. -/
def of (conn : Connection) : Run ServerCapability := do
  if !(← supportsAnticipated conn) then return { supportsAnticipated := false }
  return { supportsAnticipated := true, vocabulary := ← vocabularyForLocalOnly conn }

end Capability

end IssueSync
