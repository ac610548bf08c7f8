import IssueSync.Finding.Basic
/-!
The resolved set of a scope: what the server receives about the scope's local findings. It is
always the complete set, never a delta. An included finding replaces the stored one with its id, or
is appended when no stored finding has that id; excluded ids are dropped; unresolved findings are
never part of it.
-/
namespace IssueSync

/-- The complete set of resolved findings to send. -/
def resolvedSet (findings : List LocalFinding) (incl : Option LocalFinding)
    (exclude : List Uuid) : List LocalFinding :=
  let kept := findings.filter fun f => !exclude.contains f.id
  let replaced := kept.map fun f => match incl with
    | some i => if f.id == i.id then i else f
    | none => f
  let resolved := replaced.filter LocalFinding.isResolved
  match incl with
  | some i =>
    if !kept.any (·.id == i.id) && !exclude.contains i.id && i.isResolved then resolved ++ [i]
    else resolved
  | none => resolved

theorem resolvedSet_isResolved (findings : List LocalFinding) (incl : Option LocalFinding)
    (exclude : List Uuid) : ∀ f ∈ resolvedSet findings incl exclude, f.isResolved = true := by
  intro f hf
  unfold resolvedSet at hf
  cases incl with
  | none => simp only [List.mem_filter] at hf; exact hf.2
  | some i =>
    simp only at hf
    split at hf
    · rcases List.mem_append.mp hf with h | h
      · exact (List.mem_filter.mp h).2
      · simp only [List.mem_singleton] at h
        subst h
        rename_i hc
        simp only [Bool.and_eq_true] at hc
        exact hc.2
    · exact (List.mem_filter.mp hf).2

end IssueSync
