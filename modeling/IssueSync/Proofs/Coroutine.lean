import IssueSync.Proofs.Requests

/-!
# Operations as coroutines

The service's operations are coroutines: between two await points a coroutine runs without
interruption, and at an await point others may run. `Co α` is an operation cut at its await
points: each `step` is one uninterrupted run on the host, its continuation takes the outcome,
and `acquire` and `release` take and give back the lock of a scope.

Run alone, a coroutine is the operation it was cut from: `Co.run` runs the steps one after the
other and takes every lock as free. It is a map of monads, so an operation written with
`Co.lift` around each awaited call runs as the same operation written without the cuts.
-/

set_option autoImplicit false

namespace IssueSync

/-- What a run answered, without the host it left. -/
def resultOutcome {α : Type} : EStateM.Result Failure Host α → Except Failure α
  | .ok a _ => .ok a
  | .error e _ => .error e

/-- An operation cut at its await points. -/
inductive Co (α : Type) : Type 1 where
  | done (r : Except Failure α)
  | step {β : Type} (m : Run β) (k : Except Failure β → Co α)
  | acquire (scope : String) (next : Co α)
  | release (scope : String) (next : Co α)

namespace Co

/-- Goes on with `f` from the outcome of `c`. -/
def andThen {α β : Type} : Co α → (Except Failure α → Co β) → Co β
  | done r, f => f r
  | step m k, f => step m fun r => andThen (k r) f
  | acquire scope next, f => acquire scope (andThen next f)
  | release scope next, f => release scope (andThen next f)

instance : Monad Co where
  pure a := done (.ok a)
  bind c f := andThen c fun
    | .ok a => f a
    | .error e => done (.error e)

instance : MonadExceptOf Failure Co where
  throw e := done (.error e)
  tryCatch c handle := andThen c fun
    | .ok a => done (.ok a)
    | .error e => handle e

/-- One awaited call. -/
def lift {α : Type} (m : Run α) : Co α := step m done

/-- Runs `body` holding the lock of `scope`, and gives the lock back however `body` ends. -/
def locked {α : Type} (scope : String) (body : Co α) : Co α :=
  acquire scope (andThen body fun r => release scope (done r))

/-- The operation a coroutine was cut from: its steps one after the other, every lock free. -/
def run {α : Type} : Co α → Run α
  | done (.ok a) => pure a
  | done (.error e) => throw e
  | step m k => fun h => match m.run h with
    | .ok b h' => (k (.ok b)).run h'
    | .error e h' => (k (.error e)).run h'
  | acquire _ next => next.run
  | release _ next => next.run

theorem bind_def {α β : Type} (c : Co α) (f : α → Co β) :
    c >>= f = c.andThen fun
      | .ok a => f a
      | .error e => done (.error e) := rfl

theorem andThen_assoc {α β γ : Type} (c : Co α) (f : Except Failure α → Co β)
    (g : Except Failure β → Co γ) : (c.andThen f).andThen g = c.andThen fun r => (f r).andThen g := by
  induction c with
  | done r => rfl
  | step m k ih => simp only [andThen, ih]
  | acquire scope next ih => simp only [andThen, ih]
  | release scope next ih => simp only [andThen, ih]

theorem run_step {α β : Type} (m : Run β) (k : Except Failure β → Co α) (h : Host) :
    (step m k).run.run h = match m.run h with
      | .ok b h' => (k (.ok b)).run.run h'
      | .error e h' => (k (.error e)).run.run h' := by
  simp only [run]
  rfl

theorem run_andThen {α β : Type} (c : Co α) (f : Except Failure α → Co β) (h : Host) :
    (c.andThen f).run.run h = match c.run.run h with
      | .ok a h' => (f (.ok a)).run.run h'
      | .error e h' => (f (.error e)).run.run h' := by
  induction c generalizing h with
  | done r => cases r <;> rfl
  | step m k ih =>
    rw [andThen, run_step, run_step]
    cases m.run h with
    | ok b h' => exact ih (.ok b) h'
    | error e h' => exact ih (.error e) h'
  | acquire scope next ih => simpa only [andThen, run] using ih h
  | release scope next ih => simpa only [andThen, run] using ih h

@[simp] theorem run_pure {α : Type} (a : α) : (pure a : Co α).run = pure a := rfl

@[simp] theorem run_throw {α : Type} (e : Failure) : (throw e : Co α).run = throw e := rfl

@[simp] theorem run_lift {α : Type} (m : Run α) : (lift m).run = m := by
  funext h
  show (step m done).run.run h = m.run h
  rw [run_step]
  cases m.run h <;> rfl

@[simp] theorem run_bind {α β : Type} (c : Co α) (f : α → Co β) : (c >>= f).run = c.run >>= fun a => (f a).run := by
  funext h
  rw [bind_def]
  show (c.andThen _).run.run h = (c.run >>= fun a => (f a).run).run h
  rw [run_andThen, EStateM.run_bind]
  cases c.run.run h <;> rfl

@[simp] theorem run_tryCatch {α : Type} (c : Co α) (handle : Failure → Co α) :
    (tryCatch c handle : Co α).run = tryCatch c.run fun e => (handle e).run := by
  funext h
  show (c.andThen _).run.run h = (tryCatch c.run fun e => (handle e).run).run h
  rw [run_andThen, Run.tryCatch_run]
  cases c.run.run h <;> rfl

@[simp] theorem run_locked {α : Type} (scope : String) (body : Co α) : (locked scope body).run = body.run := by
  funext h
  show (acquire scope (body.andThen _)).run.run h = body.run.run h
  simp only [run]
  rw [run_andThen]
  cases body.run.run h <;> rfl

/-- One move of a coroutine run alone: a step on the host, or a lock taken or given back. -/
inductive Moves {α : Type} : Co α × Host → Co α × Host → Prop
  | step {β : Type} (m : Run β) (k : Except Failure β → Co α) (h : Host) :
      Moves (step m k, h) (k (resultOutcome (m.run h)), Remote.resultHost (m.run h))
  | acquire (scope : String) (next : Co α) (h : Host) : Moves (acquire scope next, h) (next, h)
  | release (scope : String) (next : Co α) (h : Host) : Moves (release scope next, h) (next, h)

/-- A move changes nothing of what the coroutine will do from there. -/
theorem Moves.run_eq {α : Type} {a b : Co α × Host} (move : Moves a b) : a.1.run.run a.2 = b.1.run.run b.2 := by
  cases move with
  | step m k h =>
    rw [run_step]
    cases m.run h <;> rfl
  | acquire scope next h => rfl
  | release scope next h => rfl

end Co

end IssueSync
