import IssueSync.Proofs.Footprint

/-!
# Coroutines that keep to a lock

A part of the host is owned by the lock of `scope` (`π`), another is shared (`σ`) and stays at
`σ0`. A coroutine keeps to the lock when, before it takes the lock, its steps keep the owned part
and answer from the shared view alone (`Pre`); while it holds the lock, its steps answer and
change the owned part from the owned part and the shared view alone (`Body`); and after it gives
the lock back, or on a path that never takes it, its steps keep the owned part (`Free`).
Each is kept by doing one thing after another, so an operation keeps to the lock when each of its
steps does.
-/

set_option autoImplicit false

namespace IssueSync

open IssueSync.Remote

/-- From a host with the shared view `σ0`, runs of `m` keep the owned part and the shared view. -/
def Keeps {P Q : Type} (π : Host → P) (σ : Host → Q) (σ0 : Q) {α : Type} (m : Run α) : Prop :=
  ∀ h, σ h = σ0 → π (resultHost (m.run h)) = π h ∧ σ (resultHost (m.run h)) = σ0

/-- Two hosts with the shared view `σ0` and the same server. -/
def SameView {Q : Type} (σ : Host → Q) (σ0 : Q) (h1 h2 : Host) : Prop :=
  σ h1 = σ0 ∧ σ h2 = σ0 ∧ h1.script = h2.script

/-- Two hosts with the same owned part, the shared view `σ0` and the same server. -/
def SameState {P Q : Type} (π : Host → P) (σ : Host → Q) (σ0 : Q) (h1 h2 : Host) : Prop :=
  π h1 = π h2 ∧ σ h1 = σ0 ∧ σ h2 = σ0 ∧ h1.script = h2.script

section Discipline

variable {P Q : Type} (π : Host → P) (σ : Host → Q) (σ0 : Q) (scope : String)

/-- Steps that keep the owned part and the shared view, and no lock. -/
inductive Free {α : Type} : Co α → Prop
  | done (r : Except Failure α) : Free (.done r)
  | step {β : Type} {m : Run β} {k : Except Failure β → Co α} (keeps : Keeps π σ σ0 m)
      (rest : ∀ h, σ h = σ0 → Free (k (resultOutcome (m.run h)))) : Free (.step m k)

/-- Holding the lock: steps that answer and change the owned part from the owned part and the
shared view, until the lock is given back. -/
inductive Body {α : Type} : Co α → Prop
  | step {β : Type} {m : Run β} {k : Except Failure β → Co α} (reads : Respects (SameState π σ σ0) m)
      (rest : ∀ h, σ h = σ0 → Body (k (resultOutcome (m.run h)))) : Body (.step m k)
  | release {next : Co α} (rest : Free π σ σ0 next) : Body (.release scope next)

/-- Before the lock: steps that keep the owned part and answer from the shared view, then the
lock taken and held, or a path that never takes it. -/
inductive Pre {α : Type} : Co α → Prop
  | free {c : Co α} (unlocked : Free π σ σ0 c) : Pre c
  | step {β : Type} {m : Run β} {k : Except Failure β → Co α} (reads : Respects (SameView σ σ0) m)
      (keeps : Keeps π σ σ0 m) (rest : ∀ h, σ h = σ0 → Pre (k (resultOutcome (m.run h)))) :
      Pre (.step m k)
  | acquire {next : Co α} (body : Body π σ σ0 scope next) : Pre (.acquire scope next)

variable {π σ σ0}

/-- A run that never takes the lock keeps the owned part. -/
theorem Free.run_keeps {c : Co Unit} (free : Free π σ σ0 c) {h : Host} (view : σ h = σ0) :
    π (resultHost (c.run.run h)) = π h ∧ σ (resultHost (c.run.run h)) = σ0 := by
  induction free generalizing h with
  | done r => cases r <;> exact ⟨rfl, view⟩
  | step keeps rest ih =>
    rename_i β m k
    rw [(Co.Moves.step m k h).run_eq]
    obtain ⟨owned, shared⟩ := keeps h view
    obtain ⟨owned', shared'⟩ := ih h view shared
    exact ⟨owned'.trans owned, shared'⟩

end Discipline

section Inversion

variable {P Q : Type} {π : Host → P} {σ : Host → Q} {σ0 : Q} {scope : String} {α β : Type}
  {m : Run β} {k : Except Failure β → Co α} {s : String} {next : Co α}

theorem Free.step_inv (free : Free π σ σ0 (.step m k)) :
    Keeps π σ σ0 m ∧ ∀ h, σ h = σ0 → Free π σ σ0 (k (resultOutcome (m.run h))) := by
  cases free with
  | step keeps rest => exact ⟨keeps, rest⟩

theorem Free.not_acquire (free : Free π σ σ0 (.acquire s next)) : False := by
  cases free

theorem Free.not_release (free : Free π σ σ0 (.release s next)) : False := by
  cases free

theorem Body.step_inv (body : Body π σ σ0 scope (.step m k)) :
    Respects (SameState π σ σ0) m ∧ ∀ h, σ h = σ0 → Body π σ σ0 scope (k (resultOutcome (m.run h))) := by
  cases body with
  | step reads rest => exact ⟨reads, rest⟩

theorem Body.release_inv (body : Body π σ σ0 scope (.release s next)) : Free π σ σ0 next := by
  cases body with
  | release rest => exact rest

theorem Body.not_done {r : Except Failure α} (body : Body π σ σ0 scope (.done r)) : False := by
  cases body

/-- Before the lock, a step either starts a path that never takes it or answers from the shared
view. -/
theorem Pre.step_inv (pre : Pre π σ σ0 scope (.step m k)) :
    Free π σ σ0 (.step m k) ∨ (Respects (SameView σ σ0) m ∧ Keeps π σ σ0 m ∧
      ∀ h, σ h = σ0 → Pre π σ σ0 scope (k (resultOutcome (m.run h)))) := by
  cases pre with
  | free unlocked => exact .inl unlocked
  | step reads keeps rest => exact .inr ⟨reads, keeps, rest⟩

theorem Pre.acquire_inv (pre : Pre π σ σ0 scope (.acquire s next)) : s = scope ∧ Body π σ σ0 scope next := by
  cases pre with
  | free unlocked => exact unlocked.not_acquire.elim
  | acquire body => exact ⟨rfl, body⟩

end Inversion

/-! ## Keeping to the lock, one step after another -/

section Building

variable {P Q : Type} {π : Host → P} {σ : Host → Q} {σ0 : Q} {scope : String} {α β : Type}

variable (π σ σ0) in
/-- Steps under the held lock, before it is given back. -/
inductive Held {α : Type} : Co α → Prop
  | done (r : Except Failure α) : Held (.done r)
  | step {β : Type} {m : Run β} {k : Except Failure β → Co α} (reads : Respects (SameState π σ σ0) m)
      (rest : ∀ h, σ h = σ0 → Held (k (resultOutcome (m.run h)))) : Held (.step m k)

/-- The outcome handler of a bind: go on with a value, stop at a failure. -/
theorem Co.bind_eq_andThen {c : Co α} {f : α → Co β} :
    c >>= f = c.andThen fun
      | .ok a => f a
      | .error e => .done (.error e) := rfl

theorem Free.lift {m : Run α} (keeps : Keeps π σ σ0 m) : Free π σ σ0 (Co.lift m) :=
  .step keeps fun _ _ => .done _

theorem Free.andThen {c : Co α} {f : Except Failure α → Co β} (free : Free π σ σ0 c)
    (rest : ∀ r, Free π σ σ0 (f r)) : Free π σ σ0 (c.andThen f) := by
  induction free with
  | done r => exact rest r
  | step keeps _ ih => exact .step keeps ih

theorem Free.bind {c : Co α} {f : α → Co β} (free : Free π σ σ0 c) (rest : ∀ a, Free π σ σ0 (f a)) :
    Free π σ σ0 (c >>= f) := by
  refine free.andThen fun r => ?_
  cases r with
  | ok a => exact rest a
  | error e => exact .done _

theorem Held.lift {m : Run α} (reads : Respects (SameState π σ σ0) m) : Held π σ σ0 (Co.lift m) :=
  .step reads fun _ _ => .done _

theorem Held.andThen {c : Co α} {f : Except Failure α → Co β} (held : Held π σ σ0 c)
    (rest : ∀ r, Held π σ σ0 (f r)) : Held π σ σ0 (c.andThen f) := by
  induction held with
  | done r => exact rest r
  | step reads _ ih => exact .step reads ih

theorem Held.bind {c : Co α} {f : α → Co β} (held : Held π σ σ0 c) (rest : ∀ a, Held π σ σ0 (f a)) :
    Held π σ σ0 (c >>= f) := by
  refine held.andThen fun r => ?_
  cases r with
  | ok a => exact rest a
  | error e => exact .done _

theorem Held.tryCatch {c : Co α} {handle : Failure → Co α} (held : Held π σ σ0 c)
    (handled : ∀ e, Held π σ σ0 (handle e)) : Held π σ σ0 (tryCatch c handle) := by
  refine held.andThen fun r => ?_
  cases r with
  | ok a => exact .done _
  | error e => exact handled e

/-- The held lock is given back once the steps under it are done. -/
theorem Held.andThen_body {c : Co α} {f : Except Failure α → Co β} (held : Held π σ σ0 c)
    (rest : ∀ r, Body π σ σ0 scope (f r)) : Body π σ σ0 scope (c.andThen f) := by
  induction held with
  | done r => exact rest r
  | step reads _ ih => exact .step reads ih

theorem Body.andThen {c : Co α} {f : Except Failure α → Co β} (body : Body π σ σ0 scope c)
    (rest : ∀ r, Free π σ σ0 (f r)) : Body π σ σ0 scope (c.andThen f) := by
  induction body with
  | step reads _ ih => exact .step reads ih
  | release free => exact .release (free.andThen rest)

theorem Pre.andThen {c : Co α} {f : Except Failure α → Co β} (pre : Pre π σ σ0 scope c)
    (rest : ∀ r, Free π σ σ0 (f r)) : Pre π σ σ0 scope (c.andThen f) := by
  induction pre with
  | free unlocked => exact .free (unlocked.andThen rest)
  | step reads keeps _ ih => exact .step reads keeps ih
  | acquire body => exact .acquire (body.andThen rest)

theorem Pre.bind {c : Co α} {f : α → Co β} (pre : Pre π σ σ0 scope c) (rest : ∀ a, Free π σ σ0 (f a)) :
    Pre π σ σ0 scope (c >>= f) := by
  refine pre.andThen fun r => ?_
  cases r with
  | ok a => exact rest a
  | error e => exact .done _

/-- A step before the lock, on to what follows from each answer it may give from the shared view
`σ0`. -/
theorem Pre.lift_bind {m : Run α} {f : α → Co β} (reads : Respects (SameView σ σ0) m) (keeps : Keeps π σ σ0 m)
    (rest : ∀ h, σ h = σ0 → ∀ a, resultOutcome (m.run h) = .ok a → Pre π σ σ0 scope (f a)) :
    Pre π σ σ0 scope (Co.lift m >>= f) := by
  refine .step reads keeps fun h view => ?_
  cases answered : resultOutcome (m.run h) with
  | ok a => exact rest h view a answered
  | error e => exact .free (.done _)

/-- Taking the lock around steps under it, then going on without it. -/
theorem Pre.locked_andThen {body : Co α} {f : Except Failure α → Co β} (held : Held π σ σ0 body)
    (rest : ∀ r, Free π σ σ0 (f r)) : Pre π σ σ0 scope ((Co.locked scope body).andThen f) := by
  refine .acquire ?_
  rw [Co.andThen_assoc]
  exact held.andThen_body fun r => .release (rest r)

theorem Pre.locked_bind {body : Co α} {f : α → Co β} (held : Held π σ σ0 body) (rest : ∀ a, Free π σ σ0 (f a)) :
    Pre π σ σ0 scope (Co.locked scope body >>= f) := by
  refine Pre.locked_andThen held fun r => ?_
  cases r with
  | ok a => exact rest a
  | error e => exact .done _

theorem Pre.locked {body : Co α} (held : Held π σ σ0 body) : Pre π σ σ0 scope (Co.locked scope body) :=
  .acquire (held.andThen_body fun r => .release (.done r))

end Building

end IssueSync
