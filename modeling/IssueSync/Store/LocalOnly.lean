import IssueSync.Host
import IssueSync.Data.Mapping
import IssueSync.Finding.Basic
import IssueSync.Store.Path

/-!
# The store of local findings

Local findings live in one file as `{"findings": {id: record}}`, in the order they were first
stored. Every operation reads the file again, so a file changed from outside is seen at once;
a file that holds something else than expected fails the operation the way its content refuses
it.
-/

namespace IssueSync.LocalOnly

open IssueSync.Store IssueSync.Value

/-- The records of the store: the `findings` entry of the file, or an empty mapping. -/
def records : Run Value := do
  match (← Run.readJson localOnlyPath).getD (.dict []) with
  | .dict es => pure ((Value.field? es "findings").getD (.dict []))
  | _ => pure (.dict [])

/-- Writes the records back. -/
def writeRecords (rs : Value) : Run Unit :=
  Run.writeJson localOnlyPath (Value.object [("findings", rs)])

/-- The record of a finding stored under a scope. -/
def recordIn (scope : String) (f : LocalFinding) : Value :=
  match f.record with
  | .dict es => .dict (insertEntry es (.str "scope_id") (.str scope))
  | v => v

/-- The finding stored under an id; an empty record counts as none. -/
def find (id : Uuid) : Run (Option LocalFinding) := do
  let record ← Run.lift (getMember (← records) (.str id.text))
  if record.truthy then some <$> Run.lift (LocalFinding.ofRecord record) else pure none

/-- The findings of a scope, in store order. -/
def loadAll (scope : String) : Run (List LocalFinding) := do
  let rs ← Run.lift (valuesOf (← records))
  rs.filterMapM fun r => do
    if (← Run.lift (getMember r (.str "scope_id"))).equal (.str scope) then
      some <$> Run.lift (LocalFinding.ofRecord r)
    else pure none

/-- The findings of a scope in one file. -/
def loadForPath (scope : String) (path : Value) : Run (List LocalFinding) := do
  return (← loadAll scope).filter (·.filePath.equal path)

/-- Stores a finding under a scope, in place of the record with its id. -/
def store (scope : String) (f : LocalFinding) : Run Unit := do
  writeRecords (← Run.lift (setItem (← records) (.str f.id.text) (recordIn scope f)))

/-- Stores findings under a scope in one write. A finding stored again without a resolution
keeps the resolution stored for its id in the same scope. -/
def storeAll (scope : String) (findings : List LocalFinding) : Run (List LocalFinding) := do
  let mut rs ← records
  let mut stored : List LocalFinding := []
  for f in findings do
    let f := { f with scopeId := .str scope }
    let existing ← Run.lift (getMember rs (.str f.id.text))
    let mut kept := f
    if f.resolution.isNone && existing.truthy then
      if (← Run.lift (getMember existing (.str "scope_id"))).equal (.str scope) then
        kept := { f with resolution := (← Run.lift (LocalFinding.ofRecord existing)).resolution }
    rs ← Run.lift (setItem rs (.str kept.id.text) kept.record)
    stored := stored ++ [kept]
  if !stored.isEmpty then writeRecords rs
  return stored

/-- Removes the finding with an id; false when there was none (or its record was null). -/
def removeOne (id : Uuid) : Run Bool := do
  match ← records with
  | .dict es =>
    match Value.lookup? es (.str id.text) with
    | none | some .null => return false
    | some _ =>
      writeRecords (.dict (es.filter fun e => !e.1.equal (.str id.text)))
      return true
  | .list _ => Run.fail (.badType "pop expected at most 1 argument, got 2")
  | v => Run.fail (Failure.noAttribute v "pop")

/-- Removes the findings of a scope in one file; the number removed. -/
def removeForPath (scope : String) (path : Value) : Run Nat := do
  let items ← Run.lift (itemsOf (← records))
  let kept ← items.filterM fun (_, r) => do
    if (← Run.lift (getMember r (.str "scope_id"))).equal (.str scope) then
      return !(← Run.lift (getMember r (.str "file_path"))).equal path
    return true
  let removed := items.length - kept.length
  if removed > 0 then writeRecords (.dict kept)
  return removed

end IssueSync.LocalOnly
