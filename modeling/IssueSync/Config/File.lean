import IssueSync.Config.Settings
import IssueSync.Data.Yaml.Document
import IssueSync.Text.Newline

/-!
# Configuration files

A configuration file holds one YAML document whose top level is a mapping. A missing file, an
empty one, or one whose document is null configures nothing; any other top level is refused
with the file's path.
-/

namespace IssueSync

/-- The data of a configuration file: its YAML document, which must be a mapping, or the empty
mapping for a missing file or a null document. -/
def configData (path : String) : Option String → Except Failure Value
  | none => .ok (.dict [])
  | some text => do
    match ← Yaml.readYaml (Text.normalizeNewlines text) with
    | .null => return .dict []
    | .dict entries => return .dict entries
    | _ => throw (.badValue s!"{path}: expected a mapping at top level")

/-- The settings of a configuration file, given its path and its text (none when missing). -/
def Settings.load (env : Environment) (path : String) (text : Option String) :
    Except Failure Settings := do
  Settings.ofValue env (← configData path text)

end IssueSync
