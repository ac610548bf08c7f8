import Mathlib.Data.List.Induction
import IssueSync.Proofs.Recording

/-!
# What recording a batch keeps

Recording a batch of local findings under a scope leaves, for each id the batch names, its last
occurrence under the scope. Its resolution is the last one the batch gives it, or else the one the
store held for it under the same scope. Every other finding stays as and where it was, and the
new ids follow the old ones in the order the batch first names them. Each finding of the batch is
returned under the scope, with the resolution it was recorded with.
-/

set_option autoImplicit false

namespace IssueSync

open IssueSync.Store IssueSync.Value

namespace LocalStore

variable (prior : List LocalFinding) (scope : String)

/-- The resolution an id is left with once `batch` is recorded over `prior`: the last one the
batch gives it, or else the one `prior` holds for it under the scope. -/
def keptResolution (batch : List LocalFinding) (id : Uuid) : Option LocalResolution :=
  ((batch.filter (·.id == id)).filterMap (·.resolution)).getLast?.or
    ((prior.find? (·.id == id)).bind fun g => if g.inScope scope then g.resolution else none)

/-- What recording `batch` over `prior` stores for an id the batch names: its last occurrence,
under the scope, with the kept resolution. -/
def ingestedEntry (batch : List LocalFinding) (id : Uuid) : Option LocalFinding :=
  (batch.filter (·.id == id)).getLast?.map fun f =>
    { f with scopeId := .str scope, resolution := keptResolution prior scope batch id }

/-- What recording `batch` over `prior` returns: each finding of the batch under the scope, with
the resolution kept for its id by the batch up to it. -/
def ingestedReturns (batch : List LocalFinding) : List LocalFinding :=
  batch.mapIdx fun i f =>
    { f with scopeId := .str scope, resolution := keptResolution prior scope (batch.take (i + 1)) f.id }

theorem find?_upsert (findings : List LocalFinding) (f : LocalFinding) (id : Uuid) :
    (upsert findings f).find? (·.id == id) = if f.id = id then some f else findings.find? (·.id == id) := by
  unfold upsert
  split
  · rename_i present
    rw [List.find?_map]
    by_cases same : f.id = id
    · subst same
      -- every finding with the id turns into `f`
      have replaced : ((·.id == f.id) ∘ fun g : LocalFinding => if g.id == f.id then f else g) = (·.id == f.id) := by
        funext g
        by_cases hit : g.id = f.id <;> simp [hit]
      obtain ⟨g, found⟩ := Option.isSome_iff_exists.mp (List.find?_isSome.mpr (List.any_eq_true.mp present))
      have hit : g.id = f.id := by simpa using List.find?_some found
      rw [replaced, found]
      simp [hit]
    · -- the findings the map changes do not have the id
      have kept : ((·.id == id) ∘ fun g : LocalFinding => if g.id == f.id then f else g) = (·.id == id) := by
        funext g
        by_cases hit : g.id = f.id <;> simp [hit]
      rw [kept, if_neg same]
      cases found : findings.find? (·.id == id) with
      | none => rfl
      | some g =>
        have hit : g.id = id := by simpa using List.find?_some found
        have apart : g.id ≠ f.id := fun sameId => same (sameId ▸ hit)
        simp [apart]
  · by_cases same : f.id = id
    · rename_i absent
      have missing : findings.find? (·.id == id) = none := by
        subst same
        simpa using absent
      simp [List.find?_append, missing, same]
    · simp [List.find?_append, same]

theorem recorded_id (findings : List LocalFinding) (f : LocalFinding) : (recorded findings scope f).id = f.id := by
  unfold recorded
  split
  · split <;> rfl
  · rfl

theorem foldl_recordStep_concat (batch : List LocalFinding) (f : LocalFinding)
    (acc : List LocalFinding × List LocalFinding) :
    (batch ++ [f]).foldl (recordStep scope) acc = recordStep scope (batch.foldl (recordStep scope) acc) f := by
  rw [List.foldl_append, List.foldl_cons, List.foldl_nil]

theorem keptResolution_concat (batch : List LocalFinding) (f : LocalFinding) (id : Uuid) :
    keptResolution prior scope (batch ++ [f]) id =
      if f.id = id then f.resolution.or (keptResolution prior scope batch id) else keptResolution prior scope batch id := by
  unfold keptResolution
  by_cases same : f.id = id
  · cases resolution : f.resolution <;> simp [List.filter_append, same, resolution]
  · simp [List.filter_append, same]

theorem ingestedEntry_concat (batch : List LocalFinding) (f : LocalFinding) (id : Uuid) :
    ingestedEntry prior scope (batch ++ [f]) id =
      if f.id = id then some { f with scopeId := .str scope, resolution := keptResolution prior scope (batch ++ [f]) id }
      else ingestedEntry prior scope batch id := by
  by_cases same : f.id = id
  · simp [ingestedEntry, List.filter_append, same]
  · rw [if_neg same, ingestedEntry, ingestedEntry, keptResolution_concat, if_neg same]
    simp [List.filter_append, same]

/-- Recording `f` over the findings that recording `batch` left stores `f` under the scope with
the resolution kept once `f` is added to the batch. -/
theorem recorded_ingested {findings batch : List LocalFinding} {f : LocalFinding}
    (found : findings.find? (·.id == f.id) = (ingestedEntry prior scope batch f.id).or (prior.find? (·.id == f.id))) :
    recorded findings scope f =
      { f with scopeId := .str scope, resolution := keptResolution prior scope (batch ++ [f]) f.id } := by
  rw [keptResolution_concat, if_pos rfl]
  unfold recorded
  rw [found]
  cases last : (batch.filter (·.id == f.id)).getLast? with
  | some f0 =>
    -- the batch named the id before: its record is under the scope already
    have entry : ingestedEntry prior scope batch f.id =
        some { f0 with scopeId := .str scope, resolution := keptResolution prior scope batch f.id } := by
      simp [ingestedEntry, last]
    have underScope : ({ f0 with scopeId := .str scope, resolution := keptResolution prior scope batch f.id } :
        LocalFinding).inScope scope = true := (LocalFinding.inScope_iff _ _).mpr rfl
    rw [entry, Option.some_or]
    cases resolution : f.resolution <;> simp [underScope]
  | none =>
    have noEntry : ingestedEntry prior scope batch f.id = none := by simp [ingestedEntry, last]
    have fromPrior : keptResolution prior scope batch f.id =
        (prior.find? (·.id == f.id)).bind fun g => if g.inScope scope then g.resolution else none := by
      simp [keptResolution, List.getLast?_eq_none_iff.mp last]
    rw [noEntry, Option.none_or, fromPrior]
    cases stored : prior.find? (·.id == f.id) with
    | none => simp
    | some g => cases resolution : f.resolution <;> by_cases inside : g.inScope scope <;> simp [inside]

theorem foldl_recordStep_find (batch : List LocalFinding) (id : Uuid) :
    (batch.foldl (recordStep scope) (prior, [])).1.find? (·.id == id) =
      (ingestedEntry prior scope batch id).or (prior.find? (·.id == id)) := by
  -- the batch is recorded from its first finding on, so it grows at its end
  induction batch using List.reverseRecOn generalizing id with
  | nil => simp [ingestedEntry]
  | append_singleton batch f ih =>
    rw [foldl_recordStep_concat]
    simp only [recordStep]
    rw [find?_upsert, recorded_id, recorded_ingested prior scope (ih f.id), ingestedEntry_concat]
    by_cases same : f.id = id
    · simp [same]
    · rw [if_neg same, if_neg same, ih]

theorem removeAll_eq_filter (xs ys : List Uuid) : xs.removeAll ys = xs.filter fun x => !ys.elem x := rfl

theorem foldl_recordStep_ids (batch : List LocalFinding) :
    (batch.foldl (recordStep scope) (prior, [])).1.map (·.id) =
      prior.map (·.id) ++ ((batch.map (·.id)).removeAll (prior.map (·.id))).eraseDups := by
  induction batch using List.reverseRecOn with
  | nil => simp
  | append_singleton batch f ih =>
    rw [foldl_recordStep_concat, List.map_append, List.map_singleton]
    simp only [recordStep]
    generalize (batch.foldl (recordStep scope) (prior, [])).1 = stored at ih ⊢
    generalize prior.map (·.id) = olds at ih ⊢
    generalize batch.map (·.id) = named at ih ⊢
    have split : (named ++ [f.id]).removeAll olds = named.removeAll olds ++ [f.id].removeAll olds := by
      simp [removeAll_eq_filter, List.filter_append]
    rw [split, List.eraseDups_append, ← List.append_assoc, ← ih]
    -- the ids recorded before `f`: the old ones, then the batch's new ones
    have known : f.id ∈ stored.map (·.id) ↔ f.id ∈ olds ∨ f.id ∈ named := by
      rw [ih, List.mem_append, List.mem_eraseDups, removeAll_eq_filter, List.mem_filter]
      by_cases old : f.id ∈ olds <;> simp [old]
    by_cases old : f.id ∈ stored.map (·.id)
    · -- `f` takes the place of its id
      have present : stored.any (·.id == (recorded stored scope f).id) = true := by
        rw [recorded_id]
        simpa [List.any_eq_true] using old
      have gone : ([f.id].removeAll olds).removeAll (named.removeAll olds) = [] := by
        by_cases inOlds : f.id ∈ olds
        · simp [removeAll_eq_filter, inOlds]
        · have inNamed : f.id ∈ named := (known.mp old).resolve_left inOlds
          simp [removeAll_eq_filter, inOlds, inNamed]
      rw [upsert_ids _ _ present, gone]
      simp
    · -- `f` is appended
      have absent : stored.any (·.id == f.id) = false := by
        simpa [List.any_eq_false] using old
      have inOlds : f.id ∉ olds := fun inOlds => old (known.mpr (.inl inOlds))
      have inNamed : f.id ∉ named := fun inNamed => old (known.mpr (.inr inNamed))
      have added : ([f.id].removeAll olds).removeAll (named.removeAll olds) = [f.id] := by
        simp [removeAll_eq_filter, inOlds, inNamed]
      rw [added, upsert, recorded_id, absent]
      simp [recorded_id, List.eraseDups_cons]

theorem foldl_recordStep_returned (batch : List LocalFinding) :
    (batch.foldl (recordStep scope) (prior, [])).2 = ingestedReturns prior scope batch := by
  induction batch using List.reverseRecOn with
  | nil => rfl
  | append_singleton batch f ih =>
    rw [foldl_recordStep_concat]
    simp only [recordStep]
    rw [ih, recorded_ingested prior scope (foldl_recordStep_find prior scope batch f.id), ingestedReturns,
      ingestedReturns, List.mapIdx_concat]
    congr 1
    · -- the findings before `f` were recorded with the same prefixes of the batch
      refine List.mapIdx_eq_mapIdx_iff.mpr fun i bound => ?_
      rw [List.take_append_of_le_length (by omega)]
    · have whole : (batch ++ [f]).take (batch.length + 1) = batch ++ [f] := List.take_of_length_le (by simp)
      rw [whole]

end LocalStore

namespace Service

variable {h : Host} {st : LocalStore}

theorem recordLocalOnly_nil (s : Service) (holds : LocalOnly.Holds h.files st) (scope : String) :
    ∃ line, (s.recordLocalOnly scope []).run h = .ok [] { h with logs := h.logs ++ [line] } := by
  constructor
  simp only [recordLocalOnly, LocalOnly.storeAll, EStateM.run_bind, LocalOnly.holds_records holds, List.forIn_nil]
  rfl

end Service

/-- `libFinding` resolved as a false positive, then recorded again as found, without a resolution. -/
def relabelBatch : List LocalFinding := [libFinding.resolve .falsePositive, libFinding]

end IssueSync
