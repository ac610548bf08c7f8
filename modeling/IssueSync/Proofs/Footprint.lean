import IssueSync.Proofs.Coroutine
import IssueSync.Proofs.Frame

/-!
# What a run reads

`Respects R m` says that runs of `m` from two hosts that `R` relates answer alike and leave two
hosts that `R` relates again: `m` reads of the host only what `R` keeps equal, and changes it the
same way on both. It is kept by doing nothing and by doing one thing after another, so a
function respects `R` when each of its steps does; reading and writing a file, and sending a
request, respect every relation that keeps equal what they read and is kept by what they write.
-/

set_option autoImplicit false

namespace IssueSync

open IssueSync.Store IssueSync.Remote

/-- Runs of `m` from hosts that `R` relates answer alike and leave hosts that `R` relates. -/
def Respects (R : Host → Host → Prop) {α : Type} (m : Run α) : Prop :=
  ∀ h1 h2, R h1 h2 → resultOutcome (m.run h1) = resultOutcome (m.run h2) ∧
    R (resultHost (m.run h1)) (resultHost (m.run h2))

namespace Respects

variable {R : Host → Host → Prop} {α β : Type}

theorem of_pure (a : α) : Respects R (pure a) := fun _ _ related => ⟨rfl, related⟩

theorem fail (f : Failure) : Respects R (Run.fail f : Run α) := fun _ _ related => ⟨rfl, related⟩

theorem throw (f : Failure) : Respects R (throw f : Run α) := fun _ _ related => ⟨rfl, related⟩

theorem lift (e : Except Failure α) : Respects R (Run.lift e) := by
  intro h1 h2 related
  cases e <;> exact ⟨rfl, related⟩

theorem bind {m : Run α} {k : α → Run β} (first : Respects R m) (rest : ∀ a, Respects R (k a)) :
    Respects R (m >>= k) := by
  intro h1 h2 related
  obtain ⟨answered, after⟩ := first h1 h2 related
  rw [EStateM.run_bind, EStateM.run_bind]
  cases ran1 : m.run h1 <;> cases ran2 : m.run h2 <;> rw [ran1, ran2] at answered after <;>
    simp only [resultOutcome, reduceCtorEq, Except.ok.injEq, Except.error.injEq] at answered
  · subst answered
    exact rest _ _ _ after
  · subst answered
    exact ⟨rfl, after⟩

theorem tryCatch {m : Run α} {handle : Failure → Run α} (first : Respects R m)
    (handled : ∀ e, Respects R (handle e)) : Respects R (tryCatch m handle) := by
  intro h1 h2 related
  obtain ⟨answered, after⟩ := first h1 h2 related
  rw [Run.tryCatch_run, Run.tryCatch_run]
  cases ran1 : m.run h1 <;> cases ran2 : m.run h2 <;> rw [ran1, ran2] at answered after <;>
    simp only [resultOutcome, reduceCtorEq, Except.ok.injEq, Except.error.injEq] at answered
  · subst answered
    exact ⟨rfl, after⟩
  · subst answered
    exact handled _ _ _ after

theorem map {m : Run α} (f : α → β) (inner : Respects R m) : Respects R (f <$> m) := by
  intro h1 h2 related
  obtain ⟨answered, after⟩ := inner h1 h2 related
  rw [Run.map_run, Run.map_run]
  cases ran1 : m.run h1 <;> cases ran2 : m.run h2 <;> rw [ran1, ran2] at answered after <;>
    simp only [resultOutcome, reduceCtorEq, Except.ok.injEq, Except.error.injEq] at answered <;>
    subst answered <;> exact ⟨rfl, after⟩

theorem discard {m : Run α} (inner : Respects R m) : Respects R (discard m) := by
  intro h1 h2 related
  obtain ⟨answered, after⟩ := inner h1 h2 related
  rw [Run.discard_run, Run.discard_run]
  cases ran1 : m.run h1 <;> cases ran2 : m.run h2 <;> rw [ran1, ran2] at answered after <;>
    simp only [resultOutcome, reduceCtorEq, Except.ok.injEq, Except.error.injEq] at answered <;>
    subst answered <;> exact ⟨rfl, after⟩

theorem forIn_list {γ : Type} (xs : List γ) (init : β) (f : γ → β → Run (ForInStep β))
    (body : ∀ x b, Respects R (f x b)) : Respects R (forIn xs init f) := by
  induction xs generalizing init with
  | nil => exact of_pure init
  | cons x rest ih =>
    rw [List.forIn_cons]
    refine bind (body x init) fun step => ?_
    cases step with
    | done b => exact of_pure b
    | yield b => exact ih b

theorem mapM {γ : Type} (xs : List γ) (f : γ → Run β) (each : ∀ x, Respects R (f x)) :
    Respects R (xs.mapM f) := by
  induction xs with
  | nil => exact of_pure []
  | cons x rest ih =>
    rw [List.mapM_cons]
    exact bind (each x) fun b => bind ih fun bs => of_pure (b :: bs)

theorem filterMapM {γ : Type} (xs : List γ) (f : γ → Run (Option β)) (each : ∀ x, Respects R (f x)) :
    Respects R (xs.filterMapM f) := by
  induction xs with
  | nil => exact of_pure []
  | cons x rest ih =>
    rw [List.filterMapM_cons]
    refine bind (each x) fun kept => ?_
    cases kept with
    | none => exact ih
    | some b => exact bind ih fun bs => of_pure (b :: bs)

theorem filterM {γ : Type} (xs : List γ) (p : γ → Run Bool) (each : ∀ x, Respects R (p x)) :
    Respects R (xs.filterM p) := by
  -- the library filters through an accumulator, read back reversed at the end
  have aux : ∀ (ys : List γ) (acc : List γ), Respects R (List.filterAuxM p ys acc) := by
    intro ys
    induction ys with
    | nil => exact fun acc => of_pure acc
    | cons y rest ih => exact fun acc => bind (each y) fun kept => ih _
  exact bind (aux xs []) fun kept => of_pure kept.reverse

/-- Reading a file respects a relation that keeps what the file reads as. -/
theorem readJson (path : String) (sameFile : ∀ h1 h2, R h1 h2 → h1.files.readJson path = h2.files.readJson path) :
    Respects R (Run.readJson path) := by
  intro h1 h2 related
  rw [Run.readJson_run, Run.readJson_run, sameFile h1 h2 related]
  cases h2.files.readJson path <;> exact ⟨rfl, related⟩

/-- Writing a file respects a relation that keeps what stands at, inside and above the path and
is kept by the write. -/
theorem writeJson (path : String) (v : Value)
    (sameAround : ∀ h1 h2, R h1 h2 → h1.files.around path = h2.files.around path)
    (written : ∀ h1 h2, R h1 h2 →
      R { h1 with files := h1.files.put path (.document v) } { h2 with files := h2.files.put path (.document v) }) :
    Respects R (Run.writeJson path v) := by
  intro h1 h2 related
  have same := sameAround h1 h2 related
  by_cases writable : h1.files.Writable path
  · rw [Run.writeJson_run path v h1 writable,
      Run.writeJson_run path v h2 ((Files.writable_of_around same).mp writable)]
    exact ⟨rfl, written h1 h2 related⟩
  · obtain ⟨f, refused⟩ := Files.writeJson_of_not_writable writable v
    rw [Run.writeJson_run_error refused, Run.writeJson_run_error (Files.writeJson_error_of_around same refused)]
    exact ⟨rfl, related⟩

/-- Sending one request respects a relation that keeps the server and the connections' URLs and
is kept by recording the same request and answer on both. -/
theorem exchange (req : Request) (sameServer : ∀ h1 h2, R h1 h2 → h1.script = h2.script ∧ h1.fleet = h2.fleet)
    (recorded : ∀ h1 h2 script (sent : Sent), R h1 h2 →
      R { h1 with script, sent := h1.sent ++ [sent] } { h2 with script, sent := h2.sent ++ [sent] }) :
    Respects R (Run.exchange req) := by
  intro h1 h2 related
  obtain ⟨script, fleet⟩ := sameServer h1 h2 related
  -- both hosts send to the same owner and get the same answer
  have owner : ownerOf h1.fleet req.url = ownerOf h2.fleet req.url := by rw [fleet]
  have answer : h1.script.respond (ownerOf h1.fleet req.url) req = h2.script.respond (ownerOf h2.fleet req.url) req := by
    rw [script, owner]
  rw [exchange_run, exchange_run, answer, owner]
  exact ⟨rfl, recorded h1 h2 _ _ related⟩

/-- A relation kept by printing the same line on both hosts. -/
def Logged (R : Host → Host → Prop) : Prop :=
  ∀ h1 h2 line, R h1 h2 → R { h1 with logs := h1.logs ++ [line] } { h2 with logs := h2.logs ++ [line] }

theorem log {line : String} (logged : Logged R) : Respects R (Run.log line) :=
  fun h1 h2 related => ⟨rfl, logged h1 h2 line related⟩

/-- A relation under which both hosts send to the same server alike. -/
structure OnNetwork (R : Host → Host → Prop) : Prop where
  sameServer : ∀ h1 h2, R h1 h2 → h1.script = h2.script ∧ h1.fleet = h2.fleet
  recorded : ∀ h1 h2 script (sent : Sent), R h1 h2 →
    R { h1 with script, sent := h1.sent ++ [sent] } { h2 with script, sent := h2.sent ++ [sent] }

section Network

variable (network : OnNetwork R)
include network

theorem sendWithin (n : Nat) (req : Request) : Respects R (sendWithin n req) := by
  induction n generalizing req with
  | zero => exact of_pure _
  | succ n ih =>
    refine bind (exchange req network.sameServer network.recorded) fun answer => ?_
    -- a redirection is followed with one hop less
    split
    · exact of_pure _
    · split
      · exact ih _
      · exact of_pure _

theorem call (c : Connection) (method path : String) (params : List (String × String)) (payload : Payload) :
    Respects R (call c method path params payload) := by
  refine bind (sendWithin network 21 _) fun answer => ?_
  cases answer with
  | fail message => exact fail _
  | reply r =>
    by_cases success : r.isSuccess = true
    · simp only [success, if_true]
      exact of_pure r
    · simp only [success, Bool.false_eq_true, if_false]
      exact fail _

theorem anticipatedTransitions (c : Connection) (project : Value) (findings : List LocalFinding) :
    Respects R (anticipatedTransitions c project findings) :=
  bind (lift _) fun _ => discard (call network _ _ _ _ _)

end Network

/-- A relation under which the local store's file reads alike, and is written alike. -/
structure OnStore (R : Host → Host → Prop) : Prop where
  sameAround : ∀ h1 h2, R h1 h2 → h1.files.around localOnlyPath = h2.files.around localOnlyPath
  written : ∀ h1 h2 v, R h1 h2 →
    R { h1 with files := h1.files.put localOnlyPath (.document v) } { h2 with files := h2.files.put localOnlyPath (.document v) }

section Store

variable (store : OnStore R)
include store

theorem records : Respects R LocalOnly.records := by
  refine bind (readJson _ fun h1 h2 related => Files.readJson_of_around (store.sameAround h1 h2 related))
    fun doc => ?_
  split <;> exact of_pure _

theorem writeRecords (rs : Value) : Respects R (LocalOnly.writeRecords rs) :=
  writeJson _ _ store.sameAround fun h1 h2 => store.written h1 h2 _

theorem find (id : Uuid) : Respects R (LocalOnly.find id) := by
  refine bind (records store) fun rs => bind (lift _) fun record => ?_
  split
  · exact map _ (lift _)
  · exact of_pure _

theorem loadAll (scope : String) : Respects R (LocalOnly.loadAll scope) := by
  refine bind (records store) fun rs => bind (lift _) fun values => filterMapM _ _ fun r => ?_
  refine bind (lift _) fun scopeId => ?_
  split
  · exact map _ (lift _)
  · exact of_pure _

theorem loadForPath (scope : String) (path : Value) : Respects R (LocalOnly.loadForPath scope path) :=
  bind (loadAll store scope) fun _ => of_pure _

theorem storeOne (scope : String) (f : LocalFinding) : Respects R (LocalOnly.store scope f) :=
  bind (records store) fun _ => bind (lift _) fun rs => writeRecords store rs

theorem removeOne (id : Uuid) : Respects R (LocalOnly.removeOne id) := by
  refine bind (records store) fun rs => ?_
  split
  · split
    · exact of_pure _
    · exact of_pure _
    · exact bind (writeRecords store _) fun _ => of_pure _
  · exact fail _
  · exact fail _

theorem removeForPath (scope : String) (path : Value) : Respects R (LocalOnly.removeForPath scope path) := by
  refine bind (records store) fun rs => bind (lift _) fun items => ?_
  refine bind (filterM _ _ fun item => ?_) fun kept => ?_
  · refine bind (lift _) fun scopeId => ?_
    split
    · exact bind (lift _) fun _ => of_pure _
    · exact of_pure _
  · dsimp only
    split
    · exact bind (writeRecords store _) fun _ => of_pure _
    · exact of_pure _

theorem storeAll (scope : String) (findings : List LocalFinding) :
    Respects R (LocalOnly.storeAll scope findings) := by
  unfold LocalOnly.storeAll
  refine bind (records store) fun rs => ?_
  refine bind (forIn_list _ _ _ fun f acc => ?_) fun acc => ?_
  · refine bind (lift _) fun existing => ?_
    split
    · refine bind (lift _) fun scopeId => ?_
      split
      · exact bind (lift _) fun _ => bind (lift _) fun _ => of_pure _
      · exact bind (lift _) fun _ => of_pure _
    · exact bind (lift _) fun _ => of_pure _
  · dsimp only
    split
    · exact bind (writeRecords store _) fun _ => of_pure _
    · exact of_pure _

end Store

end Respects

end IssueSync
