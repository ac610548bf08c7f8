import IssueSync.Sweep.Options
import IssueSync.Config.Locate
import IssueSync.Service.Operations

/-!
# The resync sweep

The sweep sends the resolved local findings of scopes to their servers again: the scopes named
on the command line (each once, in the order first named), or every configured scope in sorted
order. A scope whose push fails is logged and counted as failed, and the sweep goes on; any other
failure ends it. The sweep prints a summary, appends it to the event log, and ends with status 1
when a scope failed.
-/

namespace IssueSync

/-- A service wired from settings, with its own telemetry. -/
def Service.ofSettings (settings : Settings) (telemetry counted : Bool) : Service :=
  { scopes := settings.scopes, connections := settings.connections, telemetry, counted }

namespace Sweep

/-- The scopes to sweep: those asked for, first occurrences only, or every configured scope in
sorted order. -/
def selectScopes (settings : Settings) : Option (List String) → List String
  | some (s :: rest) => (s :: rest).eraseDups
  | _ => (settings.scopes.map (·.1)).mergeSort fun a b => decide (a ≤ b)

/-- The outcome of one scope: synced, unbound (nothing to send it to), or failed. -/
def resyncOne (s : Service) (scope : String) : Run String := do
  try
    return if ← s.resync scope then "synced" else "unbound"
  catch
    | f@(.problem (.failed _ _ _)) => do
      Run.log s!"Resync fehlgeschlagen für {scope}: {f.message}"
      return "failed"
    | f => Run.fail f

/-- Sweeps scopes in order. -/
def resyncScopes (s : Service) : List String → Run (List (String × String))
  | [] => return []
  | scope :: rest => do
    let result ← resyncOne s scope
    let others ← resyncScopes s rest
    return (scope, result) :: others

/-- How many scopes had an outcome. -/
def countOf (results : List (String × String)) (outcome : String) : Nat :=
  (results.filter (·.2 == outcome)).length

/-- The summary of a sweep: each scope's outcome, and how many were synced and failed. -/
def summary (results : List (String × String)) : List (String × Value) :=
  [("scopes", Value.object (results.map fun (k, v) => (k, Value.str v))),
   ("synced", .int (countOf results "synced")), ("failed", .int (countOf results "failed"))]

/-- What a finished sweep leaves: its exit status and the summaries it printed. -/
structure SweepOutcome where
  exit : Nat
  printed : List Value

/-- Runs the sweep with a command line, in an environment, with configuration files around. -/
def run (env : Environment) (files : ConfigFiles) (argv : List String) : Run SweepOutcome := do
  let opts ← Run.lift (parseOptions argv)
  Run.ensureDirectories
  let settings ← Run.lift (Settings.locate env files opts.config)
  let scopes := selectScopes settings opts.scopes
  let service := Service.ofSettings settings true false
  let results ← Run.inStorage settings.storageDir (resyncScopes service scopes)
  let fields := summary results
  Run.appendEvent (Value.object (("type", .str "sweep_completed") :: fields))
  return { exit := if countOf results "failed" == 0 then 0 else 1, printed := [Value.object fields] }

end Sweep

end IssueSync
