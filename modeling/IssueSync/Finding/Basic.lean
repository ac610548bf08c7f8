import IssueSync.Finding.Key
import IssueSync.Resolution
import IssueSync.Time.Stamp
/-!
Local findings: findings the server has never seen, identified by a local id, resolved or not. A
finding is stored as a record, a mapping of text keys; its descriptive fields are kept as the record
holds them. Reading a record checks, in this order, the resolution (when it is a true value: its
status name, its timestamp, its comment), the id, the scope, the file and the rule; an empty
resolution counts as none.
-/
namespace IssueSync

/-- The resolution of a local finding. -/
structure LocalResolution where
  status : ResolutionStatus
  resolvedAt : Stamp
  comment : Value := .null

/-- A finding the server has never seen. -/
structure LocalFinding where
  id : Uuid
  scopeId : Value
  filePath : Value
  ruleKey : Value
  message : Value := .str ""
  line : Value := .null
  lineHash : Value := .null
  resolution : Option LocalResolution := none

/-- The moment every resolution made by the program is stamped with; timestamps are never shown,
so one fixed moment stands for the clock. -/
def resolutionClock : Stamp := { year := 2024, month := 1, day := 1, offset := some 0 }

namespace LocalFinding

/-- A finding is resolved when it has a resolution. -/
def isResolved (f : LocalFinding) : Bool := f.resolution.isSome

/-- The finding resolved with a status and an empty comment. -/
def resolve (f : LocalFinding) (status : ResolutionStatus) : LocalFinding :=
  { f with resolution := some { status, resolvedAt := resolutionClock, comment := .str "" } }

/-- The record of a resolution. -/
def LocalResolution.record (r : LocalResolution) : Value :=
  Value.object [("status", .str r.status.name), ("resolved_at", .str r.resolvedAt.text),
    ("comment", r.comment)]

/-- The record of a finding. -/
def record (f : LocalFinding) : Value :=
  Value.object [("id", .str f.id.text), ("scope_id", f.scopeId), ("file_path", f.filePath),
    ("rule_key", f.ruleKey), ("message", f.message), ("line", f.line), ("line_hash", f.lineHash),
    ("resolution", match f.resolution with
      | some r => LocalResolution.record r
      | none => .null)]

/-- The failure of reading a missing key. -/
def missing (name : String) : Failure := .missingKey (.str name)

/-- The failure of indexing a value that is no mapping with a text key. -/
def notSubscriptable (v : Value) : Failure :=
  match v with
  | .str _ => .badType "string indices must be integers, not 'str'"
  | .list _ => .badType "list indices must be integers or slices, not str"
  | _ => .badType s!"'{v.typeName}' object is not subscriptable"

/-- The value of a key that must be present in a record. -/
def required (v : Value) (name : String) : Except Failure Value :=
  match v with
  | .dict es => match Value.field? es name with
    | some x => .ok x
    | none => .error (missing name)
  | _ => .error (notSubscriptable v)

/-- The status of a status name; names that are no status are missing keys. -/
def statusOf (v : Value) : Except Failure ResolutionStatus :=
  match v with
  | .str s => match ResolutionStatus.ofName? s with
    | some st => .ok st
    | none => .error (.missingKey v)
  | .list _ | .dict _ => .error (.badType s!"unhashable type: '{v.typeName}'")
  | _ => .error (.missingKey v)

/-- Reads the resolution of a record. -/
def resolutionOf (raw : Value) : Except Failure (Option LocalResolution) := do
  if !raw.truthy then return none
  let status ← statusOf (← required raw "status")
  let resolvedAt ← Stamp.ofValue (← required raw "resolved_at")
  let comment := match raw with
    | .dict es => Value.fieldD es "comment"
    | _ => .null
  return some { status, resolvedAt, comment }

/-- Reads a finding from its record. -/
def ofRecord (data : Value) : Except Failure LocalFinding :=
  match data with
  | .dict es => do
    let resolution ← resolutionOf (Value.fieldD es "resolution")
    let id ← Uuid.ofValue (← required data "id")
    let scopeId ← required data "scope_id"
    let filePath ← required data "file_path"
    let ruleKey ← required data "rule_key"
    return { id, scopeId, filePath, ruleKey, resolution,
             message := (Value.field? es "message").getD (.str ""),
             line := Value.fieldD es "line", lineHash := Value.fieldD es "line_hash" }
  | _ => .error (Failure.noAttribute data "get")

/-- The message for a finding that has no resolution to announce. -/
def unresolvedMessage (f : LocalFinding) : String :=
  s!"Local-only finding {f.id.text} is not resolved"

/-- The entry announcing a resolved finding to the server. -/
def anticipatedTransition (f : LocalFinding) : Except Failure Value :=
  match f.resolution with
  | none => .error (.badValue f.unresolvedMessage)
  | some r => .ok (Value.object [("filePath", f.filePath), ("line", f.line), ("hash", f.lineHash),
      ("ruleKey", f.ruleKey), ("issueMessage", f.message), ("transition", .str r.status.transition.code),
      ("comment", r.comment)])

end LocalFinding

end IssueSync
