import IssueSync.Proofs.LocalStore
import IssueSync.Proofs.Requests

/-!
# What a run leaves alone

Most of what the service does touches only part of the host: the telemetry, the cache of server
findings, the log of requests. `Within F m` says that every run of `m`, returning or failing,
leaves a host that the frame `F` relates to the one it started from. A frame is kept by doing
nothing and by doing one thing after another, so a function is within a frame when each of its
steps is.
-/

set_option autoImplicit false

namespace IssueSync

open IssueSync.Store IssueSync.Remote

/-- A relation between the host a run starts from and the host it leaves, kept by doing nothing
and by doing one thing after another. -/
structure Frame where
  rel : Host → Host → Prop
  refl : ∀ h, rel h h
  trans : ∀ {a b c}, rel a b → rel b c → rel a c

namespace Frame

/-- Nothing changes. -/
def same : Frame where
  rel h h' := h' = h
  refl _ := rfl
  trans first second := second.trans first

/-- Nothing is sent. -/
def silent : Frame where
  rel h h' := h'.sent = h.sent
  refl _ := rfl
  trans first second := second.trans first

/-- The local store's file is left as it was, with what stands inside and above it. -/
def keepsLocal : Frame where
  rel h h' := h'.files.around localOnlyPath = h.files.around localOnlyPath
  refl _ := rfl
  trans first second := second.trans first

/-- Nothing is sent, and the local store's file is left as it was, with what stands inside and
above it. -/
def quiet : Frame where
  rel h h' := h'.sent = h.sent ∧ h'.files.around localOnlyPath = h.files.around localOnlyPath
  refl _ := ⟨rfl, rfl⟩
  trans first second := ⟨second.1.trans first.1, second.2.trans first.2⟩

end Frame

/-- Every run of `m`, returning or failing, leaves a host that `F` relates to the one it started
from. -/
def Within (F : Frame) {α : Type} (m : Run α) : Prop := ∀ h, F.rel h (resultHost (m.run h))

namespace Within

variable {F : Frame} {α β : Type}

theorem of_pure (a : α) : Within F (pure a) := fun h => F.refl h

theorem fail (f : Failure) : Within F (Run.fail f : Run α) := fun h => F.refl h

theorem lift (e : Except Failure α) : Within F (Run.lift e) := by
  intro h
  cases e <;> exact F.refl h

theorem get : Within F (get : Run Host) := fun h => F.refl h

theorem readJson (path : String) : Within F (Run.readJson path) := by
  intro h
  rw [Run.readJson_run]
  cases h.files.readJson path <;> exact F.refl h

theorem bind {m : Run α} {k : α → Run β} (first : Within F m) (rest : ∀ a, Within F (k a)) :
    Within F (m >>= k) := by
  intro h
  have started := first h
  rw [EStateM.run_bind]
  cases ran : m.run h with
  | ok a h1 =>
    rw [ran] at started
    exact F.trans started (rest a h1)
  | error e h1 =>
    rw [ran] at started
    exact started

theorem tryCatch {m : Run α} {handle : Failure → Run α} (first : Within F m)
    (handled : ∀ e, Within F (handle e)) : Within F (tryCatch m handle) := by
  intro h
  have started := first h
  rw [Run.tryCatch_run]
  cases ran : m.run h with
  | ok a h1 =>
    rw [ran] at started
    exact started
  | error e h1 =>
    rw [ran] at started
    exact F.trans started (handled e h1)

theorem map {m : Run α} (f : α → β) (inner : Within F m) : Within F (f <$> m) := by
  intro h
  have started := inner h
  rw [Run.map_run]
  cases ran : m.run h <;> rw [ran] at started <;> exact started

theorem discard {m : Run α} (inner : Within F m) : Within F (discard m) := by
  intro h
  have started := inner h
  rw [Run.discard_run]
  cases ran : m.run h <;> rw [ran] at started <;> exact started

theorem forIn_list {γ : Type} (xs : List γ) (init : β) (f : γ → β → Run (ForInStep β))
    (body : ∀ x b, Within F (f x b)) : Within F (forIn xs init f) := by
  induction xs generalizing init with
  | nil => exact of_pure init
  | cons x rest ih =>
    rw [List.forIn_cons]
    refine bind (body x init) fun step => ?_
    cases step with
    | done b => exact of_pure b
    | yield b => exact ih b

theorem mapM {γ : Type} (xs : List γ) (f : γ → Run β) (each : ∀ x, Within F (f x)) :
    Within F (xs.mapM f) := by
  induction xs with
  | nil => exact of_pure []
  | cons x rest ih =>
    rw [List.mapM_cons]
    exact bind (each x) fun b => bind ih fun bs => of_pure (b :: bs)

theorem silent_of_quiet {m : Run α} (inner : Within .quiet m) : Within .silent m :=
  fun h => (inner h).1

theorem keepsLocal_of_quiet {m : Run α} (inner : Within .quiet m) : Within .keepsLocal m :=
  fun h => (inner h).2

theorem same_run {m : Run α} (inner : Within .same m) (h : Host) : resultHost (m.run h) = h :=
  inner h

theorem same_cases {m : Run α} (inner : Within .same m) (h : Host) :
    (∃ a, m.run h = .ok a h) ∨ ∃ f, m.run h = .error f h := by
  have unchanged := same_run inner h
  cases ran : m.run h with
  | ok a h' =>
    rw [ran] at unchanged
    exact .inl ⟨a, unchanged ▸ rfl⟩
  | error f h' =>
    rw [ran] at unchanged
    exact .inr ⟨f, unchanged ▸ rfl⟩

theorem log (line : String) : Within .quiet (Run.log line) := fun _ => ⟨rfl, rfl⟩

theorem countChange (rule : Value) : Within .quiet (Run.countChange rule) := fun _ => ⟨rfl, rfl⟩

theorem appendEvent (event : Value) : Within .quiet (Run.appendEvent event) := by
  intro h
  unfold Run.appendEvent
  simp only [EStateM.run_bind, EStateM.run_get]
  split <;> exact ⟨rfl, rfl⟩

theorem writeJson {path : String} (apart : Apart path localOnlyPath) (v : Value) :
    Within .quiet (Run.writeJson path v) := by
  intro h
  rcases Run.writeJson_run_or path v h with written | ⟨f, refused⟩
  · rw [written]
    exact ⟨rfl, Files.around_put_of_apart apart h.files _⟩
  · rw [refused]
    exact Frame.quiet.refl h

theorem writeJson_silent (path : String) (v : Value) : Within .silent (Run.writeJson path v) := by
  intro h
  rcases Run.writeJson_run_or path v h with written | ⟨f, refused⟩
  · rw [written]
    rfl
  · rw [refused]
    rfl

end Within

theorem resultHost_bind_pure {α β : Type} (m : Run α) (f : α → β) (h : Host) :
    resultHost ((m >>= fun a => pure (f a)).run h) = resultHost (m.run h) := by
  rw [EStateM.run_bind]
  cases m.run h <;> rfl

theorem LocalOnly.holds_of_kept {fs fs' : Files} {st : LocalStore}
    (kept : fs'.around localOnlyPath = fs.around localOnlyPath) (holds : LocalOnly.Holds fs st) :
    LocalOnly.Holds fs' st :=
  ⟨by rw [LocalOnly.recordsIn, Files.readJson_of_around kept]; exact holds.reads,
    (Files.writable_of_around kept).mpr holds.writable⟩

end IssueSync
