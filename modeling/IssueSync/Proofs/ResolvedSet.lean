import Mathlib.Data.List.Nodup
import IssueSync.Proofs.LocalStore
import IssueSync.Finding.ResolvedSet

/-!
# The resolved set and the store it announces

What `resolvedSet` holds, said by membership: an included finding stands in for the stored one
with its id, excluded ids are gone, unresolved findings never appear, and no id appears twice
when none did in the store. Each change the service makes to the local store after a push is then
matched by the set it pushed: the resolved findings of the scope in the changed store are the
pushed ones, up to order, and in the same order where the change removes findings only. Last, the
set is given as the four steps that build it, with what each step guarantees of the whole.
-/

set_option autoImplicit false

namespace IssueSync

open IssueSync.LocalStore

theorem resolvedSet_none (findings : List LocalFinding) (exclude : List Uuid) :
    resolvedSet findings none exclude =
      (findings.filter fun f => !exclude.contains f.id).filter LocalFinding.isResolved := by
  simp [resolvedSet]

theorem mem_map_replace (findings : List LocalFinding) (i y : LocalFinding) :
    y ∈ findings.map (fun f => if f.id == i.id then i else f) ↔
      (y = i ∧ ∃ f ∈ findings, f.id = i.id) ∨ (y ∈ findings ∧ y.id ≠ i.id) := by
  constructor
  · intro member
    obtain ⟨f, fMember, rfl⟩ := List.mem_map.mp member
    by_cases same : f.id = i.id
    · exact .inl ⟨by simp [same], f, fMember, same⟩
    · exact .inr ⟨by simpa [same] using fMember, by simp [same]⟩
  · rintro (⟨rfl, f, member, same⟩ | ⟨member, other⟩)
    · exact List.mem_map.mpr ⟨f, member, by simp [same]⟩
    · exact List.mem_map.mpr ⟨y, member, by simp [other]⟩

/-- With an included finding and nothing excluded: the included finding if it is resolved, and
the resolved findings with another id. -/
theorem mem_resolvedSet_some (findings : List LocalFinding) (i x : LocalFinding) :
    x ∈ resolvedSet findings (some i) [] ↔
      (x = i ∧ i.isResolved = true) ∨ (x ∈ findings ∧ x.id ≠ i.id ∧ x.isResolved = true) := by
  have replaced := mem_map_replace findings i
  have present : findings.any (·.id == i.id) = true ↔ ∃ f ∈ findings, f.id = i.id := by simp
  simp only [resolvedSet, List.contains_nil, Bool.not_false, List.filter_true]
  -- the included finding is appended only when no stored finding has its id
  split
  · rename_i appended
    simp only [Bool.and_eq_true, Bool.not_eq_true'] at appended
    have absent : ¬ ∃ f ∈ findings, f.id = i.id := fun found => by
      rw [← present] at found
      simp [found] at appended
    simp only [List.mem_append, List.mem_filter, replaced, List.mem_singleton]
    grind
  · rename_i kept
    simp only [List.mem_filter, replaced]
    grind

theorem resolvedSet_ids_nodup {findings : List LocalFinding} (distinct : (findings.map (·.id)).Nodup)
    (incl : Option LocalFinding) (exclude : List Uuid) :
    ((resolvedSet findings incl exclude).map (·.id)).Nodup := by
  let kept := findings.filter fun f => !exclude.contains f.id
  have keptDistinct : (kept.map (·.id)).Nodup := distinct.sublist (List.filter_sublist.map _)
  cases incl with
  | none =>
    simp only [resolvedSet, List.map_id_fun', id_eq]
    exact keptDistinct.sublist (List.filter_sublist.map _)
  | some i =>
    -- replacing keeps every id in place, so the ids of the replaced list are those kept
    have sameIds : (kept.map fun f => if f.id == i.id then i else f).map (·.id) = kept.map (·.id) := by
      rw [List.map_map]
      apply List.map_congr_left
      intro f _
      by_cases same : f.id = i.id <;> simp [same]
    have replacedDistinct :
        (((kept.map fun f => if f.id == i.id then i else f).filter LocalFinding.isResolved).map (·.id)).Nodup :=
      (sameIds ▸ keptDistinct).sublist (List.filter_sublist.map _)
    simp only [resolvedSet]
    split
    · rename_i appended
      simp only [Bool.and_eq_true, Bool.not_eq_true'] at appended
      have notKept : i.id ∉ kept.map (·.id) := by
        intro member
        obtain ⟨f, fMember, same⟩ := List.mem_map.mp member
        have none := List.any_eq_false.mp appended.1.1 f fMember
        simp [same] at none
      have notSent : i.id ∉ ((kept.map fun f => if f.id == i.id then i else f).filter
          LocalFinding.isResolved).map (·.id) := fun member =>
        notKept (sameIds ▸ (List.filter_sublist.map _).subset member)
      rw [List.map_append, List.nodup_append]
      refine ⟨replacedDistinct, by simp, ?_⟩
      intro a member b single same
      simp only [List.map_cons, List.map_nil, List.mem_singleton] at single
      subst single
      exact notSent (same ▸ member)
    · exact replacedDistinct

theorem mem_upsert_iff {findings : List LocalFinding} {f x : LocalFinding}
    (present : ∃ g ∈ findings, g.id = f.id) :
    x ∈ upsert findings f ↔ x = f ∨ (x ∈ findings ∧ x.id ≠ f.id) := by
  have stored : findings.any (·.id == f.id) = true := by simpa using present
  simp only [upsert, stored, if_true, mem_map_replace, present, and_true]

/-- A finding stored again under a scope, after the push of the scope's resolved set with it
included: the resolved findings of the scope are then the pushed ones, each moved to the scope,
up to order. The order differs when the finding came from another scope: it was pushed last, and
is stored where it was. -/
theorem resolvedSet_upsert_perm {findings : List LocalFinding} (distinct : (findings.map (·.id)).Nodup)
    (scope : String) {g f : LocalFinding} (stored : g ∈ findings) (sameId : f.id = g.id)
    (resolved : f.isResolved = true) :
    ((resolvedSet (findings.filter (·.inScope scope)) (some f) []).map
        fun r => { r with scopeId := .str scope }).Perm
      (((upsert findings { f with scopeId := .str scope }).filter (·.inScope scope)).filter
        LocalFinding.isResolved) := by
  have present : ∃ h ∈ findings, h.id = ({ f with scopeId := .str scope } : LocalFinding).id :=
    ⟨g, stored, sameId.symm⟩
  have movedInScope : ({ f with scopeId := .str scope } : LocalFinding).inScope scope = true := by
    simp [LocalFinding.inScope, Value.equal]
  have stays : ∀ r : LocalFinding, r.inScope scope = true → { r with scopeId := .str scope } = r :=
    fun r inScope => LocalFinding.rescoped_self ((LocalFinding.inScope_iff r scope).mp inScope)
  have sentDistinct : ((resolvedSet (findings.filter (·.inScope scope)) (some f) []).map (·.id)).Nodup :=
    resolvedSet_ids_nodup (distinct.sublist (List.filter_sublist.map _)) (some f) []
  have keptDistinct : ((upsert findings { f with scopeId := .str scope }).map (·.id)).Nodup := by
    rw [upsert_ids _ _ (by simpa using present)]
    exact distinct
  refine (List.perm_ext_iff_of_nodup ?_ ?_).mpr fun x => ?_
  · apply List.Nodup.of_map (·.id)
    simpa [List.map_map, Function.comp_def] using sentDistinct
  · exact (keptDistinct.sublist ((List.filter_sublist.trans List.filter_sublist).map _)).of_map _
  · simp only [List.mem_map, mem_resolvedSet_some, List.mem_filter, mem_upsert_iff present]
    constructor
    · rintro ⟨r, (⟨rfl, -⟩ | ⟨⟨member, inScope⟩, other, resolvedR⟩), rfl⟩
      · exact ⟨⟨.inl rfl, movedInScope⟩, resolved⟩
      · rw [stays r inScope]
        exact ⟨⟨.inr ⟨member, other⟩, inScope⟩, resolvedR⟩
    · rintro ⟨⟨rfl | ⟨member, other⟩, inScope⟩, resolvedX⟩
      · exact ⟨f, .inl ⟨rfl, resolved⟩, rfl⟩
      · exact ⟨x, .inr ⟨⟨member, inScope⟩, other, resolvedX⟩, stays x inScope⟩

/-- A finding removed after the push of the resolved set without it. -/
theorem resolvedSet_erase (findings : List LocalFinding) (scope : String) (id : Uuid) :
    resolvedSet (findings.filter (·.inScope scope)) none [id] =
      ((findings.filter (·.id != id)).filter (·.inScope scope)).filter LocalFinding.isResolved := by
  simp only [resolvedSet_none, List.filter_filter, List.contains_cons, List.contains_nil, Bool.or_false]
  apply List.filter_congr
  intro f _
  cases f.isResolved <;> cases f.inScope scope <;> simp [bne, Bool.beq_comm]

/-- The findings of a file removed after the push of the resolved set without them. -/
theorem resolvedSet_dropFile {findings : List LocalFinding} (distinct : (findings.map (·.id)).Nodup)
    (scope : String) (path : Value) :
    resolvedSet (findings.filter (·.inScope scope)) none
        (((findings.filter (·.inScope scope)).filter (·.filePath.equal path)).map (·.id)) =
      ((findings.filter fun f => !(f.inScope scope && f.filePath.equal path)).filter (·.inScope scope)).filter
        LocalFinding.isResolved := by
  simp only [resolvedSet_none, List.filter_filter]
  apply List.filter_congr
  intro f member
  -- among the findings of the scope, only `f` itself has the id of `f`
  have listed : ((findings.filter fun a => a.filePath.equal path && a.inScope scope).map (·.id)).contains f.id =
      (f.inScope scope && f.filePath.equal path) := by
    apply Bool.eq_iff_iff.mpr
    simp only [List.contains_iff_mem, List.mem_map, List.mem_filter, Bool.and_eq_true]
    constructor
    · rintro ⟨g, ⟨gMember, onPath, inScope⟩, same⟩
      rw [← List.inj_on_of_nodup_map distinct gMember member same]
      exact ⟨inScope, onPath⟩
    · rintro ⟨inScope, onPath⟩
      exact ⟨f, ⟨member, onPath, inScope⟩, rfl⟩
  rw [listed]
  cases f.isResolved <;> cases f.inScope scope <;> simp

/-! ## The resolved set, step by step -/

theorem LocalFinding.anticipatedTransition_ok {f : LocalFinding} (resolved : f.isResolved = true) :
    ∃ entry, f.anticipatedTransition = .ok entry := by
  unfold LocalFinding.isResolved at resolved
  obtain ⟨r, named⟩ := Option.isSome_iff_exists.mp resolved
  simp only [LocalFinding.anticipatedTransition, named]
  exact ⟨_, rfl⟩

theorem mem_resolvedSet (findings : List LocalFinding) (i x : LocalFinding) (exclude : List Uuid) :
    x ∈ resolvedSet findings (some i) exclude ↔
      (x = i ∧ i.isResolved = true ∧ i.id ∉ exclude) ∨
        (x ∈ findings ∧ x.id ≠ i.id ∧ x.id ∉ exclude ∧ x.isResolved = true) := by
  simp only [resolvedSet]
  -- the included finding is appended only when no kept finding has its id
  split
  · rename_i appended
    simp only [List.mem_append, List.mem_filter, mem_map_replace, List.mem_singleton]
    simp at appended ⊢
    grind
  · rename_i kept
    simp only [List.mem_filter, mem_map_replace]
    simp at kept ⊢
    grind

theorem mem_resolvedSet_none (findings : List LocalFinding) (x : LocalFinding) (exclude : List Uuid) :
    x ∈ resolvedSet findings none exclude ↔ x ∈ findings ∧ x.id ∉ exclude ∧ x.isResolved = true := by
  simp only [resolvedSet_none, List.mem_filter, Bool.not_eq_true', ← Bool.not_eq_true, List.contains_iff_mem]
  tauto

theorem resolvedSet_excludes (findings : List LocalFinding) (incl : Option LocalFinding) (exclude : List Uuid) :
    ∀ f ∈ resolvedSet findings incl exclude, f.id ∉ exclude := by
  intro f member
  cases incl with
  | none => exact ((mem_resolvedSet_none findings f exclude).mp member).2.1
  | some i =>
    rcases (mem_resolvedSet findings i f exclude).mp member with ⟨rfl, -, absent⟩ | ⟨-, -, absent, -⟩
    · exact absent
    · exact absent

theorem length_le_one_of_ids {l : List LocalFinding} {id : Uuid} (distinct : (l.map (·.id)).Nodup)
    (same : ∀ f ∈ l, f.id = id) : l.length ≤ 1 := by
  have repeated : l.map (·.id) = List.replicate l.length id :=
    List.eq_replicate_iff.mpr ⟨List.length_map .., by simpa using same⟩
  rw [repeated] at distinct
  exact List.nodup_replicate.mp distinct

/-- The findings of a resolved set with the included finding's id: the included finding once
when it is resolved and not excluded, and nothing otherwise. -/
theorem resolvedSet_filter_id {findings : List LocalFinding} (distinct : (findings.map (·.id)).Nodup)
    (i : LocalFinding) (exclude : List Uuid) :
    (resolvedSet findings (some i) exclude).filter (·.id == i.id) =
      if i.isResolved = true ∧ i.id ∉ exclude then [i] else [] := by
  have members : ∀ x, x ∈ (resolvedSet findings (some i) exclude).filter (·.id == i.id) ↔
      x = i ∧ i.isResolved = true ∧ i.id ∉ exclude := by
    intro x
    simp only [List.mem_filter, mem_resolvedSet, beq_iff_eq]
    grind
  split
  · rename_i sent
    -- ids are distinct in the set, so at most one finding has the included id
    have short : ((resolvedSet findings (some i) exclude).filter (·.id == i.id)).length ≤ 1 :=
      length_le_one_of_ids ((resolvedSet_ids_nodup distinct _ exclude).sublist (List.filter_sublist.map _))
        fun f member => by simpa using (List.mem_filter.mp member).2
    have present := (members i).mpr ⟨rfl, sent⟩
    generalize (resolvedSet findings (some i) exclude).filter (·.id == i.id) = l at short present ⊢
    rcases l with _ | ⟨a, _ | ⟨b, rest⟩⟩
    · cases present
    · rw [List.mem_singleton.mp present]
    · simp at short
  · rename_i dropped
    exact List.eq_nil_iff_forall_not_mem.mpr fun x member => dropped ((members x).mp member).2

theorem resolvedSet_steps (findings : List LocalFinding) (incl : Option LocalFinding) (exclude : List Uuid) :
    resolvedSet findings incl exclude =
      ((findings.filter fun f => f.id ∉ exclude).map fun f =>
          match incl with
          | some i => if f.id = i.id then i else f
          | none => f).filter LocalFinding.isResolved ++
        match incl with
        | some i => if i.isResolved = true ∧ i.id ∉ exclude ∧ ∀ f ∈ findings, f.id ≠ i.id then [i] else []
        | none => [] := by
  have kept : (findings.filter fun f => !exclude.contains f.id) = findings.filter fun f => f.id ∉ exclude :=
    List.filter_congr fun f _ => by simp
  cases incl with
  | none => simp [resolvedSet]
  | some i =>
    simp only [resolvedSet, beq_iff_eq, kept]
    -- a kept finding has the included id exactly when a stored one has it and it is not excluded
    by_cases appended : i.isResolved = true ∧ i.id ∉ exclude ∧ ∀ f ∈ findings, f.id ≠ i.id
    · rw [if_pos (by simp; grind), if_pos appended]
    · rw [if_neg (by simp; grind), if_neg appended, List.append_nil]

/-- A local finding of a scope, not yet resolved. -/
def pendingFinding : LocalFinding :=
  { id := ⟨1, by decide⟩, scopeId := .str "scope", filePath := .str "src/app.py", ruleKey := .str "python:S1481" }

end IssueSync
