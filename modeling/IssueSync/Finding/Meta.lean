import IssueSync.Data.Value
/-!
What the cache of server findings knows about one server issue: its key, its rule, whether it is
resolved, and whether it is a taint vulnerability, which the cache keeps in a section of its own.
-/
namespace IssueSync

/-- What the server-finding cache knows about a server issue. -/
structure FindingMeta where
  key : String
  ruleKey : Value
  resolved : Bool := false
  taint : Bool := false

namespace FindingMeta

/-- The same issue with another resolution flag. -/
def withResolution (m : FindingMeta) (resolved : Bool) : FindingMeta := { m with resolved }

/-- Two metas are the same when every field is. -/
def same (a b : FindingMeta) : Bool :=
  a.key == b.key && a.ruleKey.equal b.ruleKey && a.resolved == b.resolved && a.taint == b.taint

@[simp] theorem withResolution_resolved (m : FindingMeta) (r : Bool) :
    (m.withResolution r).resolved = r := rfl

end FindingMeta

end IssueSync
