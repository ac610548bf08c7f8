import IssueSync.Failure
import IssueSync.Text.Blank
import IssueSync.Text.CaseMap
/-!
Resolutions a user can choose for a finding, the server transitions that apply them, and the two
vocabularies: before server 10.4 a finding is resolved as Won't Fix or False Positive, from 10.4 as
Accept or False Positive. A status is read from its name (`WONT_FIX`) or its wire code (`wontfix`),
ignoring case and surrounding white space.
-/
namespace IssueSync

open IssueSync.Text

/-- A resolution a user can choose. -/
inductive ResolutionStatus where
  | accept
  | wontFix
  | falsePositive
deriving DecidableEq, Repr

/-- A workflow transition of the server. -/
inductive Transition where
  | accept
  | wontFix
  | falsePositive
  | reopen
deriving DecidableEq, Repr

/-- The wire code of a transition. -/
def Transition.code : Transition → String
  | .accept => "accept"
  | .wontFix => "wontfix"
  | .falsePositive => "falsepositive"
  | .reopen => "reopen"

namespace ResolutionStatus

/-- Every status, in declaration order. -/
def all : List ResolutionStatus := [.accept, .wontFix, .falsePositive]

/-- The name of a status. -/
def name : ResolutionStatus → String
  | .accept => "ACCEPT"
  | .wontFix => "WONT_FIX"
  | .falsePositive => "FALSE_POSITIVE"

/-- The title of a status. -/
def title : ResolutionStatus → String
  | .accept => "Accept"
  | .wontFix => "Won't Fix"
  | .falsePositive => "False Positive"

/-- The description of a status. -/
def description : ResolutionStatus → String
  | .accept => "The issue is valid but will not be fixed now. It represents accepted technical debt."
  | .wontFix => "The issue is valid but does not need fixing. It represents accepted technical debt."
  | .falsePositive => "The issue is raised unexpectedly on code that should not trigger an issue."

/-- The transition that applies a status. -/
def transition : ResolutionStatus → Transition
  | .accept => .accept
  | .wontFix => .wontFix
  | .falsePositive => .falsePositive

/-- The status of an exact name. -/
def ofName? (s : String) : Option ResolutionStatus := all.find? (·.name == s)

/-- Reads a status from its name or wire code, ignoring case and surrounding white space. -/
def parse? (s : String) : Option ResolutionStatus :=
  let t := trim s
  match (upperAscii? t).bind ofName? with
  | some st => some st
  | none => all.find? fun st => lowerAscii? t == some st.transition.code

/-- The message for text that names no status. -/
def unknownMessage (given : Value) : String := "Unknown resolution status: " ++ given.literal

/-- Reads a status from a text value. -/
def parse (s : String) : Except Failure ResolutionStatus :=
  match parse? s with
  | some st => .ok st
  | none => .error (.badValue (unknownMessage (.str s)))

/-- Reads a status from any value: only text can be trimmed. -/
def ofValue (v : Value) : Except Failure ResolutionStatus :=
  match v with
  | .str s => parse s
  | _ => .error (Failure.noAttribute v "strip")

theorem ofName?_name (st : ResolutionStatus) : ofName? st.name = some st := by
  cases st <;> rfl

end ResolutionStatus

/-- Statuses before server 10.4. -/
def legacyVocabulary : List ResolutionStatus := [.wontFix, .falsePositive]

/-- Statuses from server 10.4 on. -/
def currentVocabulary : List ResolutionStatus := [.accept, .falsePositive]

/-- The vocabulary whose every transition the server offers for a finding, the current one
first; empty when the resolving transitions are missing. -/
def vocabularyFor (available : List String) : List ResolutionStatus :=
  let offers (vocabulary : List ResolutionStatus) :=
    vocabulary.all fun st => available.contains st.transition.code
  if offers currentVocabulary then currentVocabulary
  else if offers legacyVocabulary then legacyVocabulary
  else []

end IssueSync
