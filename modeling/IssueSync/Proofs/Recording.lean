import IssueSync.Proofs.ProjectPush

/-!
# Recording local findings

Recording findings for a scope stores each under the scope, in one write: a finding recorded
again without a resolution keeps the resolution stored for its id in the same scope. Recording
sends nothing, so a store can come to hold resolved findings that the last push did not carry.
-/

set_option autoImplicit false

namespace IssueSync

open IssueSync.Store IssueSync.Remote IssueSync.Value

theorem foldl_keeps {γ σ : Type} (xs : List γ) (next : σ → γ → σ) (I : σ → Prop)
    (keeps : ∀ x ∈ xs, ∀ g, I g → I (next g x)) : ∀ g, I g → I (xs.foldl next g) := by
  induction xs with
  | nil => exact fun _ inv => inv
  | cons x rest ih =>
    intro g inv
    exact ih (fun y member => keeps y (List.mem_cons_of_mem x member)) (next g x) (keeps x List.mem_cons_self g inv)

/-- A loop whose every round yields without touching the host runs as a fold: each round, from
the state a ghost `g` stands for, yields the state `next g x` stands for. -/
theorem Run.forIn_yield {β γ σ : Type} (xs : List γ) (f : γ → β → Run (ForInStep β)) (abs : σ → β)
    (next : σ → γ → σ) (I : σ → Prop) (h : Host) (keeps : ∀ x ∈ xs, ∀ g, I g → I (next g x))
    (round : ∀ x ∈ xs, ∀ g, I g → (f x (abs g)).run h = .ok (.yield (abs (next g x))) h) :
    ∀ g, I g → (forIn xs (abs g) f).run h = .ok (abs (xs.foldl next g)) h := by
  induction xs with
  | nil => exact fun _ _ => rfl
  | cons x rest ih =>
    intro g inv
    rw [List.forIn_cons, EStateM.run_bind, round x List.mem_cons_self g inv]
    exact ih (fun y member => keeps y (List.mem_cons_of_mem x member))
      (fun y member => round y (List.mem_cons_of_mem x member)) (next g x) (keeps x List.mem_cons_self g inv)

namespace LocalStore

/-- What recording `f` under a scope stores: `f` under the scope, with the resolution stored for
its id when `f` has none and the stored finding is of the same scope. -/
def recorded (findings : List LocalFinding) (scope : String) (f : LocalFinding) : LocalFinding :=
  match findings.find? (·.id == f.id) with
  | some g =>
    if f.resolution.isNone && g.inScope scope then { f with scopeId := .str scope, resolution := g.resolution }
    else { f with scopeId := .str scope }
  | none => { f with scopeId := .str scope }

/-- One finding recorded: the store's findings, and the findings recorded so far. -/
def recordStep (scope : String) (acc : List LocalFinding × List LocalFinding) (f : LocalFinding) :
    List LocalFinding × List LocalFinding :=
  (upsert acc.1 (recorded acc.1 scope f), acc.2 ++ [recorded acc.1 scope f])

def recordAll (st : LocalStore) (scope : String) (batch : List LocalFinding) : List LocalFinding × List LocalFinding :=
  batch.foldl (recordStep scope) (st.findings, [])

theorem recorded_faithful (st : LocalStore) (scope : String) {f : LocalFinding} (faithful : f.Faithful) :
    (recorded st.findings scope f).Faithful := by
  unfold recorded
  split
  · rename_i g found
    split
    · -- the resolution comes from the stored finding, which reads back
      exact LocalFinding.faithful_of_resolution faithful rfl fun _ resolved =>
        LocalFinding.resolution_readable (st.faithful g (List.mem_of_find?_eq_some found)) resolved
    · exact faithful.withScope _
  · exact faithful.withScope _

theorem recordStep_stored_length (scope : String) (batch : List LocalFinding) (acc : List LocalFinding × List LocalFinding) :
    (batch.foldl (recordStep scope) acc).2.length = acc.2.length + batch.length := by
  induction batch generalizing acc with
  | nil => rfl
  | cons f rest ih =>
    rw [List.foldl_cons, ih]
    simp only [recordStep, List.length_append, List.length_cons, List.length_nil]
    omega

end LocalStore

namespace LocalOnly

variable {h : Host} {st : LocalStore}

theorem storeAll_run (holds : Holds h.files st) (scope : String) (findings : List LocalFinding)
    (faithful : ∀ f ∈ findings, f.Faithful) :
    ∃ fs st', (storeAll scope findings).run h = .ok (st.recordAll scope findings).2 { h with files := fs } ∧
      Holds fs st' ∧ st'.findings = (st.recordAll scope findings).1 := by
  -- the loop keeps the records a store, each round putting the finding it records
  have stored : ∀ x ∈ findings, ∀ g : List LocalFinding × List LocalFinding, (∃ st' : LocalStore, st'.findings = g.1) →
      ∃ st' : LocalStore, st'.findings = (LocalStore.recordStep scope g x).1 := by
    intro x member ⟨fs, acc⟩ ⟨st', same⟩
    subst same
    exact ⟨st'.put _ (LocalStore.recorded_faithful st' scope (faithful x member)), rfl⟩
  simp only [storeAll, EStateM.run_bind, holds_records holds]
  rw [(Run.forIn_yield findings _ (fun g => (Value.dict (g.1.map LocalFinding.entry), g.2))
    (LocalStore.recordStep scope) (fun g => ∃ st' : LocalStore, st'.findings = g.1) h stored ?round
    (st.findings, []) ⟨st, rfl⟩)]
  case round =>
    intro x member ⟨fs, acc⟩ ⟨st', same⟩
    subst same
    have existing : getMember (.dict (st'.findings.map LocalFinding.entry)) (.str x.id.text) =
        .ok (((st'.findings.find? (·.id == x.id)).map LocalFinding.record).getD .null) := by
      simp [getMember, Value.hashable, LocalStore.lookup?_entries]
    dsimp only
    simp only [EStateM.run_bind, existing, Run.lift_ok_run, LocalStore.recordStep, LocalStore.recorded]
    have stored_as : ∀ k : LocalFinding, k.id = x.id →
        setItem (.dict (st'.findings.map LocalFinding.entry)) (.str x.id.text) k.record =
          .ok (.dict ((LocalStore.upsert st'.findings k).map LocalFinding.entry)) := by
      intro k sameId
      rw [← sameId]
      exact congrArg (fun es => Except.ok (Value.dict es)) (LocalStore.insertEntry_entries st'.findings k)
    cases found : st'.findings.find? (·.id == x.id) with
    | none => simp [Value.truthy, stored_as]
    | some g =>
      have read : LocalFinding.ofRecord g.record = .ok g := st'.faithful g (List.mem_of_find?_eq_some found)
      cases resolution : x.resolution with
      | some r => simp [stored_as]
      | none =>
        cases inside : g.scopeId.equal (.str scope) with
        | false => simp [LocalFinding.inScope, inside, stored_as]
        | true => simp [LocalFinding.inScope, inside, stored_as, read]
  obtain ⟨st', final⟩ := foldl_keeps findings (LocalStore.recordStep scope) _ stored (st.findings, []) ⟨st, rfl⟩
  -- one write of the records, unless nothing was recorded
  cases findings with
  | nil => exact ⟨h.files, st, rfl, holds, rfl⟩
  | cons f rest =>
    have nonempty : (st.recordAll scope (f :: rest)).2.isEmpty = false := by
      rw [List.isEmpty_eq_false_iff, ← List.length_pos_iff, LocalStore.recordAll,
        LocalStore.recordStep_stored_length]
      simp
    refine ⟨_, st', ?_, holds_written holds.writable st', final⟩
    rw [LocalStore.recordAll] at nonempty
    simp only [nonempty, Bool.not_false, if_true, EStateM.run_bind, writeRecords_run holds, final]
    rfl

end LocalOnly

namespace Service

variable {h : Host} {st : LocalStore}

theorem recordLocalOnly_run (s : Service) (holds : LocalOnly.Holds h.files st) (scope : String)
    (findings : List LocalFinding) (faithful : ∀ f ∈ findings, f.Faithful) :
    ∃ fs st', (s.recordLocalOnly scope findings).run h = .ok (st.recordAll scope findings).2
      { h with files := fs, logs := h.logs ++ [s!"recorded {findings.length} local-only findings for {scope}"] } ∧
      LocalOnly.Holds fs st' ∧ st'.findings = (st.recordAll scope findings).1 := by
  obtain ⟨fs, st', stored, holdsAfter, same⟩ := LocalOnly.storeAll_run holds scope findings faithful
  have counted : (st.recordAll scope findings).2.length = findings.length := by
    rw [LocalStore.recordAll, LocalStore.recordStep_stored_length]
    simp
  refine ⟨fs, st', ?_, holdsAfter, same⟩
  simp only [recordLocalOnly, EStateM.run_bind, stored, counted]
  rfl

end Service

-- a named bound, so that the finding does not share a proof with another finding of the same id
theorem libFinding_id_lt : 0x40008000000000000002 < Nat.pow 2 128 := by decide

def libFinding : LocalFinding :=
  { id := ⟨0x40008000000000000002, libFinding_id_lt⟩, scopeId := .str "backend", filePath := .str "src/lib.py",
    ruleKey := .str "python:S1481" }

theorem libFinding_faithful : libFinding.Faithful :=
  LocalFinding.faithful_unresolved rfl (by decide +kernel)

end IssueSync
