import IssueSync.Host
import IssueSync.Data.Mapping
import IssueSync.Finding.Meta
import IssueSync.Store.Path

/-!
# The cache of server findings

What one bound project has on the server, in one file per binding:
`{"issues": {key: {"rule_key", "resolved"}}, "taint": {...}}`. Taint vulnerabilities are kept
apart from other issues, and a key is found only in the section it was stored in.
-/

namespace IssueSync.ServerFindings

open IssueSync.Store IssueSync.Value

/-- The section of a finding. -/
def sectionName (taint : Bool) : String := if taint then "taint" else "issues"

/-- The document of the file, with both sections present. -/
def document (path : String) : Run (List (Value × Value)) := do
  let es := match (← Run.readJson path).getD (.dict []) with
    | .dict es => es
    | _ => []
  let es := if (Value.field? es "issues").isSome then es else es ++ [(.str "issues", .dict [])]
  return if (Value.field? es "taint").isSome then es else es ++ [(.str "taint", .dict [])]

/-- The meta of a stored record. -/
def metaOf (key : String) (taint : Bool) (record : Value) (resolved : Bool) :
    Except Failure FindingMeta := do
  return { key, ruleKey := ← subscript record "rule_key", resolved, taint }

/-- The cached meta of an issue. -/
def get (path key : String) (taint : Bool) : Run (Option FindingMeta) := do
  let es ← document path
  let record ← Run.lift (getMember (Value.fieldD es (sectionName taint)) (.str key))
  if record matches .null then return none
  let ruleKey ← Run.lift (subscript record "rule_key")
  let resolved ← Run.lift (getMember record (.str "resolved"))
  return some { key, ruleKey, resolved := resolved.truthy, taint }

/-- Whether an issue is cached in its section. -/
def contains (path key : String) (taint : Bool) : Run Bool := do
  return (← get path key taint).isSome

/-- Sets whether a cached issue is resolved; none when it is not cached. -/
def updateResolution (path key : String) (taint : Bool) (resolved : Bool) :
    Run (Option FindingMeta) := do
  let es ← document path
  let name := sectionName taint
  let sec := Value.fieldD es name
  let record ← Run.lift (getMember sec (.str key))
  if record matches .null then return none
  let record ← Run.lift (setItem record (.str "resolved") (.bool resolved))
  let sec ← Run.lift (setItem sec (.str key) record)
  Run.writeJson path (.dict (insertEntry es (.str name) sec))
  return some (← Run.lift (metaOf key taint record resolved))

/-- Replaces the cache by the given issues. -/
def replaceAll (path : String) (metas : List FindingMeta) : Run Unit := do
  let add := fun (acc : List (Value × Value)) (m : FindingMeta) =>
    insertEntry acc (.str m.key)
      (Value.object [("rule_key", m.ruleKey), ("resolved", .bool m.resolved)])
  let issues := (metas.filter (!·.taint)).foldl add []
  let taint := (metas.filter (·.taint)).foldl add []
  Run.writeJson path (Value.object [("issues", .dict issues), ("taint", .dict taint)])

end IssueSync.ServerFindings
